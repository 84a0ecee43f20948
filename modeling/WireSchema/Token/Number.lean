import WireSchema.Bytes
import WireSchema.Text.Identifier
import WireSchema.Token

/-!
Number literals. Underscores may stand between the digits, and a word may follow without a blank.
-/

namespace WireSchema.Token
open Text

/-- The base that the first characters tell, and the rest. -/
def splitBase : List Char → Nat × List Char
  | '0' :: 'x' :: rest => (16, rest)
  | '0' :: 'o' :: rest => (8, rest)
  | '0' :: 'b' :: rest => (2, rest)
  | s => (10, s)

/-- Decimal digits belong to a number of any base, even those that are too large for it. -/
def isNumberChar (base : Nat) (c : Char) : Bool :=
  c == '_' || (Bytes.hexValue? c).any fun digit => digit < 10 || digit < base

def dropWord (s : List Char) : List Char :=
  match s with
  | c :: _ => if isIdentStart c then s.dropWhile isIdentContinue else s
  | [] => []

/-- Skips the word after a number. It may not begin in the middle of one. -/
def dropSuffix? (s : List Char) : Option (List Char) :=
  let rest := dropWord s
  if rest.head?.any isIdentContinue then none else some rest

/-- The characters of `s` before `rest`. -/
def textBefore (s rest : List Char) : String :=
  String.ofList (s.take (s.length - rest.length))

def integer? (s : List Char) : Option (Token × List Char) := do
  let (base, body) := splitBase s
  let run := body.takeWhile (isNumberChar base)
  let digits := run.filterMap Bytes.hexValue?
  if digits.isEmpty || digits.any (base ≤ ·) || (base == 10 && run.head? == some '_') then none
  let suffix := body.dropWhile (isNumberChar base)
  let rest ← dropSuffix? suffix
  let value := digits.foldl (fun n digit => base * n + digit) 0
  return (.integer (textBefore s rest) value (suffix.length == rest.length), rest)

def isDigitOrBreak (c : Char) : Bool :=
  c.isDigit || c == '_'

def isExponentMark (c : Char) : Bool :=
  c == 'e' || c == 'E'

/-- What follows an exponent, if the exponent has a digit. -/
def exponentRest? (sign digit : Bool) : List Char → Option (List Char)
  | [] => if digit then some [] else none
  | c :: rest =>
    if c.isDigit then exponentRest? sign true rest
    else if c == '_' then exponentRest? sign digit rest
    else if digit then some (c :: rest)
    else if (c == '+' || c == '-') && !sign then exponentRest? true false rest
    else none

/-- What follows the digits of a number with a point or an exponent. A point before a word or
before another point belongs to something else. -/
def decimalRest? (s : List Char) : Option (List Char) :=
  if !s.head?.any Char.isDigit then none
  else match s.dropWhile isDigitOrBreak with
  | '.' :: places =>
    if places.head?.any (fun c => c == '.' || isIdentStart c) then none
    else match places.dropWhile isDigitOrBreak with
    | c :: rest =>
      if isExponentMark c then some ((exponentRest? false false rest).getD (c :: rest))
      else some (c :: rest)
    | [] => some []
  | c :: rest => if isExponentMark c then exponentRest? false false rest else none
  | [] => none

def decimal? (s : List Char) : Option (Token × List Char) := do
  let rest ← dropSuffix? (← decimalRest? s)
  return (.decimal (textBefore s rest), rest)

end WireSchema.Token
