namespace WireSchema.Text

/-- A set of code points, kept as the rising list of points where membership changes. The first
change is the smallest member. -/
structure CharSet where
  changes : List Nat

namespace CharSet

def changed : List Nat → Nat → Bool
  | [], _ => false
  | c :: cs, n => if n < c then false else !changed cs n

def contains (set : CharSet) (c : Char) : Bool :=
  changed set.changes c.toNat

end CharSet
end WireSchema.Text
