import WireSchema.Text.Case

/-!
Names as words. Words end at every character that is neither a letter nor a digit, between a
lower-case run and an upper-case letter, and before the last letter of an upper-case run that a
lower-case letter follows (`HTTPServer` is `HTTP` and `Server`).
-/

namespace WireSchema.Text

/-- The case of the current word so far. Characters without a case leave it as it is. -/
inductive Hump
  | fresh
  | lower
  | upper
  deriving DecidableEq

def Hump.after (hump : Hump) (c : Char) : Hump :=
  if isLower c then .lower else if isUpper c then .upper else hump

/-- Cuts a piece without separators into words. `word` holds the current word, latest first. -/
def splitHumps (hump : Hump) (word : List Char) : List Char → List (List Char)
  | [] => []
  | [c] => [(c :: word).reverse]
  | c :: next :: rest =>
    if hump.after c = .lower ∧ isUpper next then
      (c :: word).reverse :: splitHumps .fresh [] (next :: rest)
    else if hump = .upper ∧ isUpper c ∧ isLower next then
      word.reverse :: splitHumps .fresh [c] (next :: rest)
    else splitHumps (hump.after c) (c :: word) (next :: rest)

/-- The maximal runs of letters and digits, empty ones included. -/
def pieces : List Char → List (List Char)
  | [] => [[]]
  | c :: cs =>
    match pieces cs with
    | [] => [[c]]
    | piece :: rest => if isAlphanumeric c then (c :: piece) :: rest else [] :: piece :: rest

def words (s : List Char) : List (List Char) :=
  (pieces s).flatMap (splitHumps .fresh [])

/-- A capital sigma at the end becomes the final form. -/
def lowerWord : List Char → List Char
  | [] => []
  | ['Σ'] => ['ς']
  | c :: cs => toLower c ++ lowerWord cs

def capitalWord : List Char → List Char
  | [] => []
  | c :: cs => toUpper c ++ lowerWord cs

def camelWords : List (List Char) → List Char
  | [] => []
  | word :: rest => lowerWord word ++ rest.flatMap capitalWord

/-- `field_name` and `FieldName` both become `fieldName`. -/
def lowerCamelCase (s : String) : String :=
  String.ofList (camelWords (words s.toList))

end WireSchema.Text
