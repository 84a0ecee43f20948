import WireSchema.Token.Word

/-!
The words, marks and literals that type expressions are written in.
-/

namespace WireSchema

inductive Delimiter
  | paren
  | bracket
  | brace
  deriving Repr, DecidableEq, Inhabited

inductive Token
  | name (name : Name)
  /-- A reserved word, or the lone underscore. -/
  | keyword (text : String)
  | lifetime
  /-- A punctuation character, and whether another follows at once. -/
  | mark (c : Char) (joint : Bool)
  /-- An integer as written, and its number. `plain` tells that no word follows the digits. -/
  | integer (text : String) (value : Nat) (plain : Bool)
  /-- A number with a point or an exponent, as written. -/
  | decimal (text : String)
  /-- A string. -/
  | string
  /-- Any other quoted literal. -/
  | quoted
  | opening (delimiter : Delimiter)
  | closing (delimiter : Delimiter)
  deriving Repr, DecidableEq, Inhabited

namespace Token

def ofWord (word : Word) : Token :=
  if free : word.text ∉ Word.reserved then name (.plain word free) else keyword word.text

def ofDelimiter? : Char → Option Token
  | '(' => some (opening .paren)
  | ')' => some (closing .paren)
  | '[' => some (opening .bracket)
  | ']' => some (closing .bracket)
  | '\x7b' => some (opening .brace)
  | '\x7d' => some (closing .brace)
  | _ => none

/-- Every delimiter is closed by its own kind. `unclosed` holds those still open, the innermost
first. -/
def balanced (unclosed : List Delimiter) : List Token → Bool
  | [] => unclosed.isEmpty
  | opening delimiter :: rest => balanced (delimiter :: unclosed) rest
  | closing delimiter :: rest =>
    match unclosed with
    | innermost :: outer => innermost = delimiter && balanced outer rest
    | [] => false
  | _ :: rest => balanced unclosed rest

end Token
end WireSchema
