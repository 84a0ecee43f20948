import WireSchema.Proofs.Encoding

/-!
The tags in the bytes of a value. Main statement: a value has the same bytes under any two layouts
that admit it, provided that its tags have the same widths.
-/

namespace WireSchema
namespace Layout

mutual

/-- The widths of the tags in the bytes of a value, in their order. -/
def tags : Layout → Value → List TagWidth
  | .array _ element _, .array elements => elements.flatMap (tags element)
  | .sequence _ element _, .sequence elements => elements.flatMap (tags element)
  | .map _ key content _, .map entries =>
    entries.flatMap fun entry => tags key entry.1 ++ tags content entry.2
  | .option _ inner, .present value => tags inner value
  | .struct _ fields, .struct values => tagsFields fields values
  | .tuple _ members, .tuple values => tagsMembers members values
  | .enum _ variants tag, .enum index payload => tag :: tagsPayload variants index.toNat payload
  | _, _ => []

def tagsFields : List (String × Layout) → List (String × Value) → List TagWidth
  | (_, layout) :: fields, (_, value) :: values => tags layout value ++ tagsFields fields values
  | _, _ => []

def tagsMembers : List Layout → List Value → List TagWidth
  | layout :: members, value :: values => tags layout value ++ tagsMembers members values
  | _, _ => []

def tagsPayload : List (String × Layout) → Nat → Value → List TagWidth
  | [], _, _ => []
  | (_, payload) :: _, 0, value => tags payload value
  | _ :: rest, position + 1, value => tagsPayload rest position value

end

/-- Without their names, fields have the tags of the members of a tuple. -/
theorem tagsFields_eq {fields : List (String × Layout)} {values : List (String × Value)} :
    tagsFields fields values = tagsMembers (fields.map (·.2)) (values.map (·.2)) := by
  induction fields generalizing values with
  | nil => simp [tagsFields, tagsMembers]
  | cons field fields ih =>
    cases values with
    | nil => simp [tagsFields, tagsMembers]
    | cons value values => simp [tagsFields, tagsMembers, ih]

end Layout

/-- Bytes that are the same wherever the tags in them are, whatever tags follow. -/
def SameBytes (tags tags' : List TagWidth) (bs bs' : Bytes) : Prop :=
  ∀ x y, tags ++ x = tags' ++ y → bs = bs' ∧ x = y

namespace SameBytes
variable {tags tags' more more' : List TagWidth} {bs bs' cs cs' : Bytes}

theorem untagged (bs : Bytes) : SameBytes [] [] bs bs :=
  fun _ _ h => ⟨rfl, h⟩

theorem append (h : SameBytes tags tags' bs bs') (h' : SameBytes more more' cs cs') :
    SameBytes (tags ++ more) (tags' ++ more') (bs ++ cs) (bs' ++ cs') := by
  intro x y heq
  rw [List.append_assoc, List.append_assoc] at heq
  obtain ⟨rfl, hmore⟩ := h _ _ heq
  obtain ⟨rfl, hrest⟩ := h' _ _ hmore
  exact ⟨rfl, hrest⟩

theorem after (h : SameBytes tags tags' bs bs') (start : Bytes) :
    SameBytes tags tags' (start ++ bs) (start ++ bs') :=
  (untagged start).append h

theorem flatMap {α : Type} {values : List α} {tags tags' : α → List TagWidth}
    {wire wire' : α → Bytes}
    (h : ∀ value ∈ values, SameBytes (tags value) (tags' value) (wire value) (wire' value)) :
    SameBytes (values.flatMap tags) (values.flatMap tags') (values.flatMap wire)
      (values.flatMap wire') := by
  induction values with
  | nil => exact untagged []
  | cons value values ih =>
    obtain ⟨hvalue, hvalues⟩ := List.forall_mem_cons.mp h
    exact hvalue.append (ih hvalues)

/-- The width of a tag settles how it is written. -/
theorem tag (tag tag' : TagWidth) (index : Nat) :
    SameBytes [tag] [tag'] (Bytes.ofNatLE tag.size index) (Bytes.ofNatLE tag'.size index) := by
  intro x y heq
  obtain ⟨rfl, hrest⟩ := List.cons.inj heq
  exact ⟨rfl, hrest⟩

end SameBytes

/-- All primitives that admit a value write it alike. -/
theorem Primitive.wire_eq {kind kind' : Primitive} {value : Value} (h : kind.Admits value)
    (h' : kind'.Admits value) : kind.wire value = kind'.wire value := by
  cases value with
  | bool b => cases kind <;> cases kind' <;> first | rfl | exact h.elim | exact h'.elim
  | int other word => cases kind <;> cases kind' <;> first | rfl | exact h.elim | exact h'.elim
  | string s => cases kind <;> cases kind' <;> first | rfl | exact h.elim | exact h'.elim
  | bytes bs => cases kind <;> cases kind' <;> first | rfl | exact h.elim | exact h'.elim
  | _ => cases kind <;> exact h.elim

namespace Layout

/-- Another layout that admits a value of this one writes the same bytes if it writes the same
tags. -/
def Tagged (layout : Layout) : Prop :=
  ∀ value, layout.Admits value → ∀ other : Layout, other.Admits value →
    SameBytes (layout.tags value) (other.tags value) (layout.wire value) (other.wire value)

theorem isPrimitive_of_admits {kind : Primitive} {value : Value} (h : kind.Admits value)
    {other : Layout} (h' : other.Admits value) : other.isPrimitive := by
  cases other with
  | primitive name kind' => rfl
  | _ => cases value <;> first | exact h'.elim | (cases kind <;> exact h.elim)

theorem tagged_primitive (name : String) (kind : Primitive) : (primitive name kind).Tagged := by
  intro value h other h'
  have hother := isPrimitive_of_admits h h'
  cases other with
  | primitive name' kind' =>
    have hwire : kind.wire value = kind'.wire value := Primitive.wire_eq h h'
    have hsame : SameBytes [] [] (kind.wire value) (kind'.wire value) :=
      hwire ▸ .untagged (kind.wire value)
    simpa [tags, wire] using hsame
  | _ => cases hother

theorem tagged_array (name : String) {element : Layout} (length : UInt64)
    (ih : element.Tagged) : (array name element length).Tagged := by
  intro value h other h'
  cases value with
  | array elements =>
    obtain ⟨name', element', length', rfl⟩ := h'.exists_array
    exact .flatMap fun value hvalue => ih value (h.2 value hvalue) element' (h'.2 value hvalue)
  | _ => exact h.elim

theorem tagged_sequence (name : String) {element : Layout} (bound : Option UInt64)
    (ih : element.Tagged) : (sequence name element bound).Tagged := by
  intro value h other h'
  cases value with
  | sequence elements =>
    obtain ⟨name', element', bound', rfl⟩ := h'.exists_sequence
    apply SameBytes.after
    apply SameBytes.flatMap
    intro value hvalue
    exact ih value (h.2.2 value hvalue) element' (h'.2.2 value hvalue)
  | _ => exact h.elim

theorem tagged_map (name : String) {key content : Layout} (bound : Option UInt64)
    (ihk : key.Tagged) (ihc : content.Tagged) : (map name key content bound).Tagged := by
  intro value h other h'
  cases value with
  | map entries =>
    obtain ⟨name', key', content', bound', rfl⟩ := h'.exists_map
    apply SameBytes.after
    apply SameBytes.flatMap
    intro entry hentry
    obtain ⟨hkey, hcontent⟩ := h.2.2 entry hentry
    obtain ⟨hkey', hcontent'⟩ := h'.2.2 entry hentry
    exact (ihk entry.1 hkey key' hkey').append (ihc entry.2 hcontent content' hcontent')
  | _ => exact h.elim

theorem tagged_option (name : String) {inner : Layout} (ih : inner.Tagged) :
    (option name inner).Tagged := by
  intro value h other h'
  cases value with
  | absent =>
    obtain ⟨name', inner', rfl⟩ := h'.exists_option_of_absent
    exact .untagged [0]
  | present value =>
    obtain ⟨name', inner', rfl⟩ := h'.exists_option_of_present
    exact (ih value h inner' h').after [1]
  | _ => exact h.elim

/-- Values without content have no bytes, as structs and as tuples. -/
theorem untagged_empty {layout : Layout} {value : Value} (h : layout.Admits value)
    (hempty : value = .struct [] ∨ value = .tuple []) :
    layout.tags value = [] ∧ layout.wire value = [] := by
  rcases hempty with rfl | rfl
  · rcases h.exists_struct_or_empty with ⟨name, fields, rfl⟩ | ⟨name, rfl, -⟩
    · cases fields <;> exact ⟨rfl, rfl⟩
    · exact ⟨rfl, rfl⟩
  · rcases h.exists_tuple_or_empty with ⟨name, members, rfl⟩ | ⟨name, rfl, -⟩
    · cases members <;> exact ⟨rfl, rfl⟩
    · exact ⟨rfl, rfl⟩

theorem sameBytes_empty {layout other : Layout} {value : Value} (h : layout.Admits value)
    (h' : other.Admits value) (hempty : value = .struct [] ∨ value = .tuple []) :
    SameBytes (layout.tags value) (other.tags value) (layout.wire value) (other.wire value) := by
  obtain ⟨htags, hwire⟩ := untagged_empty h hempty
  obtain ⟨htags', hwire'⟩ := untagged_empty h' hempty
  rw [htags, hwire, htags', hwire']
  exact .untagged []

theorem sameBytes_members {members others : List Layout} {values : List Value}
    (ih : ∀ member ∈ members, member.Tagged) (h : AdmitsMembers members values)
    (h' : AdmitsMembers others values) :
    SameBytes (tagsMembers members values) (tagsMembers others values)
      (wireMembers members values) (wireMembers others values) := by
  induction members generalizing others values with
  | nil =>
    cases values with
    | nil => cases others <;> exact .untagged []
    | cons value values => exact h.elim
  | cons member members ih' =>
    obtain ⟨hmember, hmembers⟩ := List.forall_mem_cons.mp ih
    cases values with
    | nil => exact h.elim
    | cons value values =>
      cases others with
      | nil => exact h'.elim
      | cons other others =>
        exact (hmember value h.1 other h'.1).append (ih' hmembers h.2 h'.2)

theorem tagged_struct (name : String) {fields : List (String × Layout)}
    (ih : ∀ field ∈ fields, field.2.Tagged) : (struct name fields).Tagged := by
  intro value h other h'
  cases value with
  | struct values =>
    rcases h'.exists_struct_or_empty with ⟨name', fields', rfl⟩ | ⟨name', -, rfl⟩
    · have hmembers := sameBytes_members (List.forall_mem_map.mpr ih) (AdmitsFields.members h)
        (AdmitsFields.members h')
      rw [tags, tags, wire, wire, tagsFields_eq, tagsFields_eq, wireFields_eq, wireFields_eq]
      exact hmembers
    · exact sameBytes_empty h h' (.inl rfl)
  | tuple values =>
    have hempty : fields = [] ∧ values = [] := h
    obtain ⟨-, rfl⟩ := hempty
    exact sameBytes_empty h h' (.inr rfl)
  | _ => exact h.elim

theorem tagged_tuple (name : String) {members : List Layout}
    (ih : ∀ member ∈ members, member.Tagged) : (tuple name members).Tagged := by
  intro value h other h'
  cases value with
  | tuple values =>
    rcases h'.exists_tuple_or_empty with ⟨name', members', rfl⟩ | ⟨name', -, rfl⟩
    · exact sameBytes_members ih h h'
    · exact sameBytes_empty h h' (.inr rfl)
  | struct values =>
    have hempty : members = [] ∧ values = [] := h
    obtain ⟨-, rfl⟩ := hempty
    exact sameBytes_empty h h' (.inl rfl)
  | _ => exact h.elim

/-- Both payloads are found at the same position. -/
theorem sameBytes_payload {variants others : List (String × Layout)} {position : Nat}
    {value : Value} (ih : ∀ variant ∈ variants, variant.2.Tagged)
    (h : AdmitsPayload variants position value) (h' : AdmitsPayload others position value) :
    SameBytes (tagsPayload variants position value) (tagsPayload others position value)
      (wirePayload variants position value) (wirePayload others position value) := by
  induction variants generalizing others position with
  | nil => exact h.elim
  | cons variant variants ih' =>
    obtain ⟨hvariant, hvariants⟩ := List.forall_mem_cons.mp ih
    cases others with
    | nil => exact h'.elim
    | cons other others =>
      cases position with
      | zero => exact hvariant value h other.2 h'
      | succ position => exact ih' hvariants h h'

theorem tagged_enum (name : String) {variants : List (String × Layout)} (tag : TagWidth)
    (ih : ∀ variant ∈ variants, variant.2.Tagged) : (enum name variants tag).Tagged := by
  intro value h other h'
  cases value with
  | enum index payload =>
    obtain ⟨name', variants', tag', rfl⟩ := h'.exists_enum
    exact (SameBytes.tag tag tag' index.toNat).append (sameBytes_payload ih h.2 h'.2)
  | _ => exact h.elim

theorem tagged (layout : Layout) : layout.Tagged := by
  induction layout with
  | primitive name kind => exact tagged_primitive name kind
  | array name element length ih => exact tagged_array name length ih
  | sequence name element bound ih => exact tagged_sequence name bound ih
  | map name key content bound ihk ihc => exact tagged_map name bound ihk ihc
  | option name inner ih => exact tagged_option name ih
  | struct name fields ih => exact tagged_struct name ih
  | tuple name members ih => exact tagged_tuple name ih
  | enum name variants tag ih => exact tagged_enum name tag ih

/-- A value does not tell how wide its tags are, and tells all else of its bytes. -/
theorem encode_eq_of_tags_eq {layout other : Layout} {limits limits' : Limits} {value : Value}
    {bs bs' : Bytes} (h : layout.encode limits value = .ok bs)
    (h' : other.encode limits' value = .ok bs') (htags : layout.tags value = other.tags value) :
    bs = bs' := by
  obtain ⟨⟨hadmits, -⟩, rfl⟩ := (encodeAt_eq_ok_iff layout _ _ _ _ _).mp h
  obtain ⟨⟨hadmits', -⟩, rfl⟩ := (encodeAt_eq_ok_iff other _ _ _ _ _).mp h'
  exact (tagged layout value hadmits other hadmits' [] [] (by rw [htags])).1

end Layout
end WireSchema
