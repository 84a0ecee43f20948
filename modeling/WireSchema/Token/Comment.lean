import WireSchema.Token

/-!
Comments. Plain ones separate tokens and leave none; those that document stand for an attribute.
-/

namespace WireSchema.Token

/-- What follows a block comment. Comments nest; `depth` further ones are open. -/
def blockRest? (depth : Nat) : List Char → Option (List Char)
  | '/' :: '*' :: rest => blockRest? (depth + 1) rest
  | '*' :: '/' :: rest =>
    match depth with
    | 0 => some rest
    | depth + 1 => blockRest? depth rest
  | _ :: rest => blockRest? depth rest
  | [] => none

/-- The line end is left, it separates tokens as well. -/
def lineRest (s : List Char) : List Char :=
  s.dropWhile (· != '\n')

/-- A carriage return that no line feed follows. -/
def hasBareReturn : List Char → Bool
  | '\r' :: '\n' :: rest => hasBareReturn rest
  | '\r' :: _ => true
  | _ :: rest => hasBareReturn rest
  | [] => false

/-- The name of the attribute. -/
def documentName : Name :=
  .plain ⟨"doc", by decide⟩ (by decide)

def documentation (inner : Bool) : List Token :=
  mark '#' inner :: (if inner then [mark '!' false] else []) ++
    [opening .bracket, name documentName, mark '=' false, string, closing .bracket]

/-- The tokens of a comment that ends at `rest`. -/
def documented? (inner : Bool) (s rest : List Char) : Option (List Token × List Char) :=
  let text := s.take (s.length - rest.length)
  let line := match rest with
    | '\n' :: _ => text ++ ['\n']
    | _ => text
  if hasBareReturn line then none else some (documentation inner, rest)

def comment? (s : List Char) : Option (List Token × List Char) :=
  match s with
  | '/' :: '/' :: '/' :: '/' :: rest => some ([], lineRest rest)
  | '/' :: '/' :: '/' :: rest => documented? false rest (lineRest rest)
  | '/' :: '/' :: '!' :: rest => documented? true rest (lineRest rest)
  | '/' :: '/' :: rest => some ([], lineRest rest)
  | '/' :: '*' :: '*' :: '/' :: rest => some ([], rest)
  | '/' :: '*' :: '*' :: '*' :: rest => return ([], ← blockRest? 0 ('*' :: '*' :: rest))
  | '/' :: '*' :: '*' :: rest => do documented? false rest (← blockRest? 0 rest)
  | '/' :: '*' :: '!' :: rest => do documented? true rest (← blockRest? 0 rest)
  | '/' :: '*' :: rest => return ([], ← blockRest? 0 rest)
  | _ => none

end WireSchema.Token
