/-!
How deeply the brackets of a text are nested.
-/

namespace WireSchema.TypeExpr

def opens (c : Char) : Bool :=
  c == '<' || c == '[' || c == '('

def closes (c : Char) : Bool :=
  c == '>' || c == ']' || c == ')'

/-- The greatest depth of nesting, at least `deepest`, from a place that lies `depth` levels deep.
The kinds of brackets are not told apart, and one that closes nothing is passed over. -/
def nestingFrom (depth deepest : Nat) : List Char → Nat
  | [] => deepest
  | c :: rest =>
    if opens c then nestingFrom (depth + 1) (max deepest (depth + 1)) rest
    else if closes c then nestingFrom (depth - 1) deepest rest
    else nestingFrom depth deepest rest

def nesting (s : List Char) : Nat :=
  nestingFrom 0 0 s

def nestingLimit : Nat := 64

end WireSchema.TypeExpr
