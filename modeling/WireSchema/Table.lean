import WireSchema.Layout

/-!
Schema tables: the layouts of declared types in the order of their declarations.
-/

namespace WireSchema

structure Table where
  entries : List (String × Layout) := []
  deriving Repr, Inhabited

namespace Table

def names (t : Table) : List String :=
  t.entries.map (·.1)

def size (t : Table) : Nat :=
  t.entries.length

def isEmpty (t : Table) : Bool :=
  t.entries.isEmpty

def get? (t : Table) (name : String) : Option Layout :=
  t.entries.lookup name

def contains (t : Table) (name : String) : Bool :=
  (t.get? name).isSome

def indexOf? (t : Table) (name : String) : Option Nat :=
  t.names.findIdx? (· == name)

end Table
end WireSchema
