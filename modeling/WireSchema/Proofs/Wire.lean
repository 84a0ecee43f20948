import WireSchema.Value
import WireSchema.Layout.Size
import WireSchema.Proofs.Outcome

/-!
The wire format on its own: the bytes of a value, which values a layout admits, and how deep a value
nests. Nothing here fails; the codec is measured against these definitions.
-/

namespace WireSchema

/-- A length as it stands before a string, a sequence or a map. -/
def lengthBytes (length : Nat) : Bytes :=
  Bytes.ofNatLE lengthWidth length

@[simp] theorem length_lengthBytes (length : Nat) : (lengthBytes length).length = lengthWidth :=
  Bytes.length_ofNatLE lengthWidth length

/-- A length that the bound admits and the bytes before it can hold. -/
def Writable (bound : Option UInt64) (length : Nat) : Prop :=
  Within bound length ∧ length < UInt32.size

/-- The greatest of the depths of some parts, zero if there are none. -/
def deepest {α : Type} (depth : α → Nat) (parts : List α) : Nat :=
  parts.foldr (fun part rest => max (depth part) rest) 0

theorem deepest_map {α β : Type} (depth : β → Nat) (f : α → β) (parts : List α) :
    deepest depth (parts.map f) = deepest (fun part => depth (f part)) parts :=
  List.foldr_map

theorem deepest_le_iff {α : Type} {depth : α → Nat} {parts : List α} {room : Nat} :
    deepest depth parts ≤ room ↔ ∀ part ∈ parts, depth part ≤ room := by
  induction parts with
  | nil => simp [deepest]
  | cons part parts ih =>
    simp only [deepest, List.foldr_cons, Nat.max_le, List.forall_mem_cons] at ih ⊢
    rw [ih]

namespace Primitive

def wire : Primitive → Value → Bytes
  | .bool, .bool b => [if b then 1 else 0]
  | .int _, .int kind word => kind.toBytes word
  | .string _, .string s => lengthBytes (Bytes.ofText s).length ++ Bytes.ofText s
  | .fixedBytes _, .bytes bs => bs
  | .publicKey, .bytes bs => bs
  | _, _ => []

def Admits : Primitive → Value → Prop
  | .bool, .bool _ => True
  | .int kind, .int kind' _ => kind = kind'
  | .string bound, .string s => Writable bound (Bytes.ofText s).length
  | .fixedBytes width, .bytes bs => bs.length = width.toNat
  | .publicKey, .bytes bs => bs.length = publicKeyWidth
  | _, _ => False

end Primitive

namespace Layout

mutual

/-- The bytes of a value, which is not checked against the layout. -/
def wire : Layout → Value → Bytes
  | .primitive _ kind, value => kind.wire value
  | .array _ element _, .array elements => elements.flatMap (wire element)
  | .sequence _ element _, .sequence elements =>
    lengthBytes elements.length ++ elements.flatMap (wire element)
  | .map _ key content _, .map entries =>
    lengthBytes entries.length ++
      entries.flatMap fun entry => wire key entry.1 ++ wire content entry.2
  | .option _ _, .absent => [0]
  | .option _ inner, .present value => 1 :: wire inner value
  | .struct _ fields, .struct values => wireFields fields values
  | .tuple _ members, .tuple values => wireMembers members values
  | .enum _ variants tag, .enum index payload =>
    Bytes.ofNatLE tag.size index.toNat ++ wirePayload variants index.toNat payload
  | _, _ => []

def wireFields : List (String × Layout) → List (String × Value) → Bytes
  | (_, layout) :: fields, (_, value) :: values => wire layout value ++ wireFields fields values
  | _, _ => []

def wireMembers : List Layout → List Value → Bytes
  | layout :: members, value :: values => wire layout value ++ wireMembers members values
  | _, _ => []

def wirePayload : List (String × Layout) → Nat → Value → Bytes
  | [], _, _ => []
  | (_, payload) :: _, 0, value => wire payload value
  | _ :: rest, position + 1, value => wirePayload rest position value

end

mutual

/-- The levels that a value enters: one for each composite, one more for the payload of an enum. -/
def nest : Layout → Value → Nat
  | .array _ element _, .array elements => 1 + deepest (nest element) elements
  | .sequence _ element _, .sequence elements => 1 + deepest (nest element) elements
  | .map _ key content _, .map entries =>
    1 + deepest (fun entry => max (nest key entry.1) (nest content entry.2)) entries
  | .option _ inner, .present value => 1 + nest inner value
  | .struct _ fields, .struct values => 1 + nestFields fields values
  | .tuple _ members, .tuple values => 1 + nestMembers members values
  | .enum _ variants _, .enum index payload => 2 + nestPayload variants index.toNat payload
  | .primitive _ _, _ => 0
  | _, _ => 1

def nestFields : List (String × Layout) → List (String × Value) → Nat
  | (_, layout) :: fields, (_, value) :: values =>
    max (nest layout value) (nestFields fields values)
  | _, _ => 0

def nestMembers : List Layout → List Value → Nat
  | layout :: members, value :: values => max (nest layout value) (nestMembers members values)
  | _, _ => 0

def nestPayload : List (String × Layout) → Nat → Value → Nat
  | [], _, _ => 0
  | (_, payload) :: _, 0, value => nest payload value
  | _ :: rest, position + 1, value => nestPayload rest position value

end

mutual

/-- The values of a layout. Those without content may stand for a struct and for a tuple alike. -/
def Admits : Layout → Value → Prop
  | .primitive _ kind, value => kind.Admits value
  | .array _ element length, .array elements =>
    elements.length = length.toNat ∧ ∀ value ∈ elements, Admits element value
  | .sequence _ element bound, .sequence elements =>
    Writable bound elements.length ∧ (elements = [] ∨ ¬element.isZeroSized) ∧
      ∀ value ∈ elements, Admits element value
  | .map _ key content bound, .map entries =>
    Writable bound entries.length ∧ (entries.map fun entry => wire key entry.1).Nodup ∧
      ∀ entry ∈ entries, Admits key entry.1 ∧ Admits content entry.2
  | .option _ _, .absent => True
  | .option _ inner, .present value => Admits inner value
  | .struct _ fields, .struct values => AdmitsFields fields values
  | .struct _ fields, .tuple values => fields = [] ∧ values = []
  | .tuple _ members, .tuple values => AdmitsMembers members values
  | .tuple _ members, .struct values => members = [] ∧ values = []
  | .enum _ variants tag, .enum index payload =>
    index.toNat ≤ tag.maxDiscriminant ∧ AdmitsPayload variants index.toNat payload
  | _, _ => False

def AdmitsFields : List (String × Layout) → List (String × Value) → Prop
  | [], [] => True
  | (name, layout) :: fields, (name', value) :: values =>
    name = name' ∧ Admits layout value ∧ AdmitsFields fields values
  | _, _ => False

def AdmitsMembers : List Layout → List Value → Prop
  | [], [] => True
  | layout :: members, value :: values => Admits layout value ∧ AdmitsMembers members values
  | _, _ => False

def AdmitsPayload : List (String × Layout) → Nat → Value → Prop
  | [], _, _ => False
  | (_, payload) :: _, 0, value => Admits payload value
  | _ :: rest, position + 1, value => AdmitsPayload rest position value

end

/-! A value with parts tells the shape of a layout that admits it. -/

namespace Admits
variable {layout : Layout}

theorem exists_array {elements : List Value} (h : layout.Admits (.array elements)) :
    ∃ name element length, layout = .array name element length := by
  cases layout with
  | array name element length => exact ⟨name, element, length, rfl⟩
  | primitive name kind => cases kind <;> exact h.elim
  | _ => exact h.elim

theorem exists_sequence {elements : List Value} (h : layout.Admits (.sequence elements)) :
    ∃ name element bound, layout = .sequence name element bound := by
  cases layout with
  | sequence name element bound => exact ⟨name, element, bound, rfl⟩
  | primitive name kind => cases kind <;> exact h.elim
  | _ => exact h.elim

theorem exists_map {entries : List (Value × Value)} (h : layout.Admits (.map entries)) :
    ∃ name key content bound, layout = .map name key content bound := by
  cases layout with
  | map name key content bound => exact ⟨name, key, content, bound, rfl⟩
  | primitive name kind => cases kind <;> exact h.elim
  | _ => exact h.elim

theorem exists_option_of_absent (h : layout.Admits .absent) :
    ∃ name inner, layout = .option name inner := by
  cases layout with
  | option name inner => exact ⟨name, inner, rfl⟩
  | primitive name kind => cases kind <;> exact h.elim
  | _ => exact h.elim

theorem exists_option_of_present {value : Value} (h : layout.Admits (.present value)) :
    ∃ name inner, layout = .option name inner := by
  cases layout with
  | option name inner => exact ⟨name, inner, rfl⟩
  | primitive name kind => cases kind <;> exact h.elim
  | _ => exact h.elim

theorem exists_struct_or_empty {values : List (String × Value)}
    (h : layout.Admits (.struct values)) :
    (∃ name fields, layout = .struct name fields) ∨
      ∃ name, layout = .tuple name [] ∧ values = [] := by
  cases layout with
  | struct name fields => exact .inl ⟨name, fields, rfl⟩
  | tuple name members =>
    obtain ⟨rfl, hvalues⟩ := h
    exact .inr ⟨name, rfl, hvalues⟩
  | primitive name kind => cases kind <;> exact h.elim
  | _ => exact h.elim

theorem exists_tuple_or_empty {values : List Value} (h : layout.Admits (.tuple values)) :
    (∃ name members, layout = .tuple name members) ∨
      ∃ name, layout = .struct name [] ∧ values = [] := by
  cases layout with
  | tuple name members => exact .inl ⟨name, members, rfl⟩
  | struct name fields =>
    obtain ⟨rfl, hvalues⟩ := h
    exact .inr ⟨name, rfl, hvalues⟩
  | primitive name kind => cases kind <;> exact h.elim
  | _ => exact h.elim

theorem exists_enum {index : UInt32} {payload : Value} (h : layout.Admits (.enum index payload)) :
    ∃ name variants tag, layout = .enum name variants tag := by
  cases layout with
  | enum name variants tag => exact ⟨name, variants, tag, rfl⟩
  | primitive name kind => cases kind <;> exact h.elim
  | _ => exact h.elim

end Admits

section Fields
variable {fields : List (String × Layout)} {values : List (String × Value)}

/-- Without their names, fields are written like the members of a tuple. -/
theorem wireFields_eq :
    wireFields fields values = wireMembers (fields.map (·.2)) (values.map (·.2)) := by
  induction fields generalizing values with
  | nil => simp [wireFields, wireMembers]
  | cons field fields ih =>
    cases values with
    | nil => simp [wireFields, wireMembers]
    | cons value values => simp [wireFields, wireMembers, ih]

theorem AdmitsFields.members (h : AdmitsFields fields values) :
    AdmitsMembers (fields.map (·.2)) (values.map (·.2)) := by
  induction fields generalizing values with
  | nil =>
    cases values with
    | nil => trivial
    | cons value values => exact h.elim
  | cons field fields ih =>
    cases values with
    | nil => exact h.elim
    | cons value values =>
      obtain ⟨-, ha, has⟩ := h
      exact ⟨ha, ih has⟩

theorem sumMaxFields?_eq {total : Nat} :
    sumMaxFields? total fields = sumMaxMembers? total (fields.map (·.2)) := by
  induction fields generalizing total with
  | nil => simp [sumMaxFields?, sumMaxMembers?]
  | cons field fields ih => simp [sumMaxFields?, sumMaxMembers?, ih]

end Fields

theorem AdmitsMembers.length_eq {members : List Layout} {values : List Value}
    (h : AdmitsMembers members values) : members.length = values.length := by
  induction members generalizing values with
  | nil =>
    cases values with
    | nil => rfl
    | cons value values => exact h.elim
  | cons member members ih =>
    cases values with
    | nil => exact h.elim
    | cons value values => exact congrArg Nat.succ (ih h.2)

theorem AdmitsFields.length_eq {fields : List (String × Layout)} {values : List (String × Value)}
    (h : AdmitsFields fields values) : fields.length = values.length := by
  simpa using h.members.length_eq

end Layout
end WireSchema
