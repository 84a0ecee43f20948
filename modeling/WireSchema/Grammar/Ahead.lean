import WireSchema.Token

/-!
Tests on the tokens ahead.
-/

namespace WireSchema

namespace Ahead

/-- Skips to the end of the innermost of `depth` open groups and on to that of the outermost. -/
def groupEnd? (depth : Nat) : List Token → Option (List Token)
  | .opening _ :: rest => groupEnd? (depth + 1) rest
  | .closing _ :: rest =>
    match depth with
    | 0 => none
    | 1 => some rest
    | depth + 1 => groupEnd? depth rest
  | _ :: rest => if depth = 0 then none else groupEnd? depth rest
  | [] => none

/-- What follows the next token, or the group that it opens. Nothing follows the end of a group. -/
def skip : List Token → List Token
  | .opening _ :: rest => (groupEnd? 1 rest).getD []
  | .closing delimiter :: rest => .closing delimiter :: rest
  | _ :: rest => rest
  | [] => []

def mark (c : Char) : List Token → Bool
  | .mark d _ :: _ => c == d
  | _ => false

/-- All the marks, with nothing between them. -/
def marks : List Char → List Token → Bool
  | [], _ => true
  | [c], .mark d _ :: _ => c == d
  | c :: cs, .mark d true :: rest => c == d && marks cs rest
  | _, _ => false

theorem marks_singleton (c : Char) (ts : List Token) : marks [c] ts = mark c ts := by
  unfold marks mark
  split <;> simp_all

def keyword (text : String) : List Token → Bool
  | .keyword t :: _ => text == t
  | _ => false

def name : List Token → Bool
  | .name _ :: _ => true
  | _ => false

/-- A name that means something in its place, though it is not reserved. -/
def named (text : String) : List Token → Bool
  | .name name :: _ => text == name.text
  | _ => false

/-- A name, or a reserved word in its place. -/
def word : List Token → Bool
  | .name _ :: _ | .keyword _ :: _ => true
  | _ => false

def nameOrBlank (ts : List Token) : Bool :=
  name ts || keyword "_" ts

def lifetime : List Token → Bool
  | .lifetime :: _ => true
  | _ => false

def string : List Token → Bool
  | .string :: _ => true
  | _ => false

def opening (delimiter : Delimiter) : List Token → Bool
  | .opening d :: _ => delimiter = d
  | _ => false

def anyOpening : List Token → Bool
  | .opening _ :: _ => true
  | _ => false

def closing (delimiter : Delimiter) : List Token → Bool
  | .closing d :: _ => delimiter = d
  | _ => false

/-- The end of the text, or of the group that the tokens are in. -/
def finished : List Token → Bool
  | [] | .closing _ :: _ => true
  | _ => false

def plainLiteral : List Token → Bool
  | .integer _ _ _ :: _ | .decimal _ :: _ | .string :: _ | .quoted :: _ => true
  | ts => keyword "true" ts || keyword "false" ts

/-- A literal, with a minus sign if it is a number. -/
def literal : List Token → Bool
  | .mark '-' _ :: .integer _ _ _ :: _ | .mark '-' _ :: .decimal _ :: _ => true
  | ts => plainLiteral ts

def colons (ts : List Token) : Bool :=
  marks [':', ':'] ts

/-- The number of a field without a name. -/
def position : List Token → Bool
  | .integer _ value plain :: _ => plain && value < UInt32.size
  | _ => false

def dots (ts : List Token) : Bool :=
  marks ['.', '.'] ts

def ellipsis (ts : List Token) : Bool :=
  marks ['.', '.', '.'] ts

/-- A point that is not the first of two. -/
def point (ts : List Token) : Bool :=
  mark '.' ts && !dots ts

/-- A colon that is not the first of two. -/
def colon (ts : List Token) : Bool :=
  mark ':' ts && !colons ts

/-- The words that a path may begin with, `try` apart. -/
def pathWord (ts : List Token) : Bool :=
  ["super", "self", "Self", "crate"].any (keyword · ts)

/-- A bang that makes a path the name of a macro. -/
def bang (ts : List Token) : Bool :=
  mark '!' ts && !marks ['!', '='] ts

/-- A construct of the compiler, which has a syntax of its own. -/
def builtin (ts : List Token) : Bool :=
  named "builtin" ts && mark '#' (skip ts)

end Ahead
end WireSchema
