import WireSchema.Primitive

/-!
Layouts say how the values of a type are laid out as bytes. A layout with a name stands for a
declared type; the empty name marks one that is written in place.
-/

namespace WireSchema

/-- The width of an enum tag on the wire. -/
inductive TagWidth
  | one
  | two
  | four
  deriving Repr, DecidableEq, Inhabited

namespace TagWidth

def size : TagWidth → Nat
  | .one => 1
  | .two => 2
  | .four => 4

def maxDiscriminant (width : TagWidth) : Nat :=
  Nat.pow 256 width.size - 1

def ofSize? : Nat → Option TagWidth
  | 1 => some .one
  | 2 => some .two
  | 4 => some .four
  | _ => none

theorem ofSize?_size (width : TagWidth) : ofSize? width.size = some width := by
  cases width <;> rfl

end TagWidth

inductive Layout
  | primitive (name : String) (kind : Primitive)
  | array (name : String) (element : Layout) (length : UInt64)
  | sequence (name : String) (element : Layout) (bound : Option UInt64)
  | map (name : String) (key value : Layout) (bound : Option UInt64)
  | option (name : String) (inner : Layout)
  | struct (name : String) (fields : List (String × Layout))
  | tuple (name : String) (members : List Layout)
  | enum (name : String) (variants : List (String × Layout)) (tag : TagWidth)
  deriving Repr, Inhabited

namespace Layout

/-- Induction with a hypothesis for every field, member and variant payload. -/
@[induction_eliminator]
theorem induct {P : Layout → Prop}
    (primitive : ∀ name kind, P (.primitive name kind))
    (array : ∀ name element length, P element → P (.array name element length))
    (sequence : ∀ name element bound, P element → P (.sequence name element bound))
    (map : ∀ name key value bound, P key → P value → P (.map name key value bound))
    (option : ∀ name inner, P inner → P (.option name inner))
    (struct : ∀ name fields, (∀ f ∈ fields, P f.2) → P (.struct name fields))
    (tuple : ∀ name members, (∀ m ∈ members, P m) → P (.tuple name members))
    (enum : ∀ name variants tag, (∀ v ∈ variants, P v.2) → P (.enum name variants tag))
    (layout : Layout) : P layout :=
  @Layout.rec P (fun fs => ∀ f ∈ fs, P f.2) (fun ms => ∀ m ∈ ms, P m) (fun f => P f.2)
    primitive array sequence map option struct tuple
    (fun name variants tag h => enum name variants tag h)
    (fun _ h => nomatch h)
    (fun _ _ hf hfs g hg => by
      rcases List.mem_cons.mp hg with rfl | hg
      · exact hf
      · exact hfs g hg)
    (fun _ h => nomatch h)
    (fun _ _ hm hms n hn => by
      rcases List.mem_cons.mp hn with rfl | hn
      · exact hm
      · exact hms n hn)
    (fun _ _ h => h) layout

def name : Layout → String
  | .primitive name _ | .array name _ _ | .sequence name _ _ | .map name _ _ _ | .option name _
  | .struct name _ | .tuple name _ | .enum name _ _ => name

def isNamed (layout : Layout) : Bool :=
  layout.name != ""

def isPrimitive : Layout → Bool
  | .primitive _ _ => true
  | _ => false

def isStruct : Layout → Bool
  | .struct _ _ => true
  | _ => false

/-- The layouts that may be the payload of an enum variant. -/
def isStructLike : Layout → Bool
  | .struct _ _ | .tuple _ _ => true
  | _ => false

def fields? : Layout → Option (List (String × Layout))
  | .struct _ fields => some fields
  | _ => none

def field? (layout : Layout) (name : String) : Option Layout := do
  (← layout.fields?).lookup name

def fieldIndex? (layout : Layout) (name : String) : Option Nat := do
  (← layout.fields?).findIdx? (·.1 == name)

def variants? : Layout → Option (List (String × Layout) × TagWidth)
  | .enum _ variants tag => some (variants, tag)
  | _ => none

/-- The discriminant of a variant is its position. -/
def variantIndex? (variants : List (String × Layout)) (name : String) : Option UInt32 := do
  let i ← variants.findIdx? (·.1 == name)
  if i < UInt32.size then some (UInt32.ofNat i) else none

/-- Zero for all but structs and tuples. -/
def memberCount : Layout → Nat
  | .struct _ fields => fields.length
  | .tuple _ members => members.length
  | _ => 0

def label : Layout → String
  | .primitive _ kind => kind.name
  | .array _ _ _ => "fixed array"
  | .sequence _ _ _ => "sequence"
  | .map _ _ _ _ => "map"
  | .option _ _ => "option"
  | .struct _ _ => "struct"
  | .tuple _ _ => "tuple struct"
  | .enum _ _ _ => "enum"

mutual

/-- A declared type by its name, any other by its shape. Bounds are not shown. -/
def render (layout : Layout) : String :=
  if layout.isNamed then layout.name
  else match layout with
  | .primitive _ kind => kind.name
  | .array _ element length => s!"[{render element}; {length.toNat}]"
  | .sequence _ element _ => s!"Vec<{render element}>"
  | .map _ key value _ => s!"Map<{render key}, {render value}>"
  | .option _ inner => s!"Option<{render inner}>"
  | .struct _ _ => "struct"
  | .tuple _ members => "(" ++ String.intercalate ", " (renderAll members) ++ ")"
  | .enum _ _ _ => "enum"

def renderAll : List Layout → List String
  | [] => []
  | member :: rest => render member :: renderAll rest

end

/-- A type without a name that needs no declaration. -/
def ofPrimitive (kind : Primitive) : Layout :=
  .primitive "" kind

end Layout
end WireSchema
