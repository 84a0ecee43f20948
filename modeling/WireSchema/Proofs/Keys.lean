import Mathlib.Data.List.Forall2
import Mathlib.Data.List.Nodup
import WireSchema.Proofs.RoundTrip

/-!
The keys of maps. Main statement: keys are compared by their bytes, and that is to compare them as
values, those without content in the shape that their layout prescribes.
-/

namespace WireSchema

/-- The values inside a value, itself among them. -/
inductive Value.Piece : Value → Value → Prop
  | whole : Piece value value
  | arrayElement : element ∈ elements → Piece element piece → Piece (.array elements) piece
  | sequenceElement : element ∈ elements → Piece element piece → Piece (.sequence elements) piece
  | key : entry ∈ entries → Piece entry.1 piece → Piece (.map entries) piece
  | content : entry ∈ entries → Piece entry.2 piece → Piece (.map entries) piece
  | inner : Piece value piece → Piece (.present value) piece
  | field : field ∈ fields → Piece field.2 piece → Piece (.struct fields) piece
  | member : member ∈ members → Piece member piece → Piece (.tuple members) piece
  | payload : Piece value piece → Piece (.enum index value) piece

/-- Where keys and values are encoded whatever stands before them, only a key that repeats another
one can be refused. -/
theorem eq_duplicateKey_of_encodeEntries
    {encodeKey encodeValue : Nat → Value → Except CodecError Bytes}
    {entries : List (Value × Value)}
    (h : ∀ entry ∈ entries, ∀ offset, (∃ bs, encodeKey offset entry.1 = .ok bs) ∧
      ∃ bs, encodeValue offset entry.2 = .ok bs)
    {seen : List Bytes} {offset : Nat} {e : CodecError}
    (herror : encodeEntries encodeKey encodeValue seen offset entries = .error e) :
    ∃ o, e = .duplicateKey o := by
  induction entries generalizing seen offset with
  | nil => cases herror
  | cons entry entries ih =>
    obtain ⟨hentry, hentries⟩ := List.forall_mem_cons.mp h
    obtain ⟨ks, hks⟩ := (hentry offset).1
    obtain ⟨vs, hvs⟩ := (hentry (offset + ks.length)).2
    simp only [encodeEntries, hks, hvs, ok_bind] at herror
    by_cases hseen : ks ∈ seen
    · simp only [checkKey, ensure, hseen, not_true_eq_false, if_false, error_bind,
        Except.error.injEq] at herror
      exact ⟨offset, herror.symm⟩
    · simp only [checkKey, ensure, hseen, not_false_eq_true, if_true, ok_bind,
        bind_eq_error_iff, pure_eq_ok, reduceCtorEq, and_false, exists_false, or_false] at herror
      exact ih hentries herror

namespace Layout

theorem exists_admits_of_member {members : List Layout} {values : List Value}
    (ha : AdmitsMembers members values) {value : Value} (hvalue : value ∈ values) :
    ∃ layout : Layout, layout.Admits value := by
  induction members generalizing values with
  | nil =>
    cases values with
    | nil => cases hvalue
    | cons => exact ha.elim
  | cons member members ih =>
    cases values with
    | nil => cases hvalue
    | cons first values =>
      obtain ⟨hfirst, hothers⟩ := ha
      rcases List.mem_cons.mp hvalue with rfl | hmem
      · exact ⟨member, hfirst⟩
      · exact ih hothers hmem

theorem exists_admits_of_field {fields : List (String × Layout)} {values : List (String × Value)}
    (ha : AdmitsFields fields values) {value : String × Value} (hvalue : value ∈ values) :
    ∃ layout : Layout, layout.Admits value.2 :=
  exists_admits_of_member ha.members (List.mem_map_of_mem hvalue)

theorem exists_admits_of_payload {variants : List (String × Layout)} {position : Nat}
    {value : Value} (ha : AdmitsPayload variants position value) :
    ∃ layout : Layout, layout.Admits value := by
  induction variants generalizing position with
  | nil => exact ha.elim
  | cons variant variants ih =>
    cases position with
    | zero => exact ⟨variant.2, ha⟩
    | succ position => exact ih ha

theorem exists_admits_of_piece {value piece : Value} (hpiece : value.Piece piece) {layout : Layout}
    (ha : layout.Admits value) : ∃ part : Layout, part.Admits piece := by
  induction hpiece generalizing layout with
  | whole => exact ⟨layout, ha⟩
  | arrayElement hmem _ ih =>
    obtain ⟨name, element, length, rfl⟩ := ha.exists_array
    exact ih (ha.2 _ hmem)
  | sequenceElement hmem _ ih =>
    obtain ⟨name, element, bound, rfl⟩ := ha.exists_sequence
    exact ih (ha.2.2 _ hmem)
  | key hmem _ ih =>
    obtain ⟨name, key, content, bound, rfl⟩ := ha.exists_map
    exact ih (ha.2.2 _ hmem).1
  | content hmem _ ih =>
    obtain ⟨name, key, content, bound, rfl⟩ := ha.exists_map
    exact ih (ha.2.2 _ hmem).2
  | inner _ ih =>
    obtain ⟨name, inner, rfl⟩ := ha.exists_option_of_present
    exact ih ha
  | field hmem _ ih =>
    rcases ha.exists_struct_or_empty with ⟨name, fields, rfl⟩ | ⟨name, -, rfl⟩
    · obtain ⟨part, hpart⟩ := exists_admits_of_field ha hmem
      exact ih hpart
    · cases hmem
  | member hmem _ ih =>
    rcases ha.exists_tuple_or_empty with ⟨name, members, rfl⟩ | ⟨name, -, rfl⟩
    · obtain ⟨part, hpart⟩ := exists_admits_of_member ha hmem
      exact ih hpart
    · cases hmem
  | payload _ ih =>
    obtain ⟨name, variants, tag, rfl⟩ := ha.exists_enum
    obtain ⟨part, hpart⟩ := exists_admits_of_payload ha.2
    exact ih hpart

theorem nodup_keys_of_admits {layout : Layout} {entries : List (Value × Value)}
    (ha : layout.Admits (.map entries)) : (entries.map (·.1)).Nodup := by
  obtain ⟨name, key, content, bound, rfl⟩ := ha.exists_map
  have hkeys : (entries.map fun entry => key.wire entry.1) =
      (entries.map (·.1)).map key.wire := by simp
  have hnodup := ha.2.1
  rw [hkeys] at hnodup
  exact List.Nodup.of_map key.wire hnodup

theorem decodeAt_wire {layout : Layout} {value : Value} (ha : layout.Admits value) {room : Nat}
    (hroom : layout.nest value ≤ room) (limit : Nat) :
    layout.decodeAt limit room (.start (layout.wire value)) =
      .ok (layout.reshape value, ⟨(layout.wire value).reverse, []⟩) := by
  obtain ⟨hwire, hnest, hadmits, hagain⟩ := layout.reshapes value
  refine (decodeAt_eq_ok_iff layout _ _ _ _ _).mpr ⟨⟨hadmits.mpr ha, ?_, hagain⟩, ?_⟩
  · rwa [hnest]
  · rw [hwire]
    exact ⟨(List.append_nil _).symm, (List.append_nil _).symm⟩

/-- Values that are written alike are the same in the shape of the layout. -/
theorem wire_eq_iff {layout : Layout} {value value' : Value} (ha : layout.Admits value)
    (ha' : layout.Admits value') :
    layout.wire value = layout.wire value' ↔ layout.reshape value = layout.reshape value' := by
  constructor
  · intro hwire
    let room := max (layout.nest value) (layout.nest value')
    have hvalue := decodeAt_wire ha (Nat.le_max_left _ _ : _ ≤ room) 0
    have hvalue' := decodeAt_wire ha' (Nat.le_max_right _ _ : _ ≤ room) 0
    rw [hwire, hvalue'] at hvalue
    simpa using hvalue.symm
  · intro hshape
    rw [← (layout.reshapes value).wire, ← (layout.reshapes value').wire, hshape]

theorem nodup_wire_iff {key : Layout} {entries : List (Value × Value)}
    (ha : ∀ entry ∈ entries, key.Admits entry.1) :
    (entries.map fun entry => key.wire entry.1).Nodup ↔
      (entries.map fun entry => key.reshape entry.1).Nodup := by
  rw [List.Nodup, List.Nodup, List.pairwise_map, List.pairwise_map]
  apply List.Pairwise.iff_of_mem
  intro entry entry' hentry hentry'
  exact not_congr (wire_eq_iff (ha entry hentry) (ha entry' hentry'))

/-- The keys and values of a map are encoded as `parts`, each on its own. -/
def EncodesEntries (key content : Layout) (limit room : Nat) (entries : List (Value × Value))
    (parts : List (Bytes × Bytes)) : Prop :=
  List.Forall₂ (fun entry part => key.encodeAt limit room 0 entry.1 = .ok part.1 ∧
    content.encodeAt limit room 0 entry.2 = .ok part.2) entries parts

section Entries
variable {key content : Layout} {limit room : Nat} {entries : List (Value × Value)}
  {parts : List (Bytes × Bytes)}

theorem EncodesEntries.parts_eq (h : EncodesEntries key content limit room entries parts) :
    parts = entries.map fun entry => (key.wire entry.1, content.wire entry.2) := by
  induction h with
  | nil => rfl
  | @cons entry part entries parts hpart _ ih =>
    obtain ⟨hk, hv⟩ := hpart
    have hks := ((encodeAt_eq_ok_iff key _ _ _ _ _).mp hk).2
    have hvs := ((encodeAt_eq_ok_iff content _ _ _ _ _).mp hv).2
    rw [List.map_cons, ← hks, ← hvs, ih]

theorem EncodesEntries.admits (h : EncodesEntries key content limit room entries parts) :
    ∀ entry ∈ entries, (key.Admits entry.1 ∧ key.nest entry.1 ≤ room) ∧
      content.Admits entry.2 ∧ content.nest entry.2 ≤ room := by
  induction h with
  | nil => exact List.forall_mem_nil _
  | @cons entry part entries parts hpart _ ih =>
    obtain ⟨hk, hv⟩ := hpart
    exact List.forall_mem_cons.mpr ⟨⟨((encodeAt_eq_ok_iff key _ _ _ _ _).mp hk).1,
      ((encodeAt_eq_ok_iff content _ _ _ _ _).mp hv).1⟩, ih⟩

variable {name : String} {bound : Option UInt64}

theorem encodeAt_map_of_nodup (hcount : Writable bound entries.length)
    (h : EncodesEntries key content limit room entries parts)
    (hnodup : (entries.map fun entry => key.reshape entry.1).Nodup) (offset : Nat) :
    (map name key content bound).encodeAt limit (room + 1) offset (.map entries) =
      .ok (lengthBytes entries.length ++ parts.flatMap fun part => part.1 ++ part.2) := by
  have hall := h.admits
  refine (encodeAt_eq_ok_iff _ _ _ _ _ _).mpr ⟨⟨⟨hcount, ?_, ?_⟩, ?_⟩, ?_⟩
  · exact (nodup_wire_iff fun entry hentry => (hall entry hentry).1.1).mpr hnodup
  · exact fun entry hentry => ⟨(hall entry hentry).1.1, (hall entry hentry).2.1⟩
  · rw [nest, Nat.add_comm, Nat.add_le_add_iff_right, deepest_le_iff]
    exact fun entry hentry => Nat.max_le.mpr ⟨(hall entry hentry).1.2, (hall entry hentry).2.2⟩
  · rw [wire, h.parts_eq, List.flatMap_map]

theorem encodeAt_map_of_not_nodup (hcount : Writable bound entries.length)
    (h : EncodesEntries key content limit room entries parts)
    (hdup : ¬(entries.map fun entry => key.reshape entry.1).Nodup) (offset : Nat) :
    ∃ o, (map name key content bound).encodeAt limit (room + 1) offset (.map entries) =
      .error (.duplicateKey o) := by
  have hall := h.admits
  cases hresult :
      (map name key content bound).encodeAt limit (room + 1) offset (.map entries) with
  | ok bs =>
    obtain ⟨⟨⟨-, hnodup, -⟩, -⟩, -⟩ := (encodeAt_eq_ok_iff _ _ _ _ _ _).mp hresult
    exact absurd ((nodup_wire_iff fun entry hentry => (hall entry hentry).1.1).mp hnodup) hdup
  | error e =>
    have hlength : encodeLength offset entries.length bound = .ok (lengthBytes entries.length) :=
      encodeLength_eq_ok_iff.mpr ⟨hcount, rfl⟩
    simp only [encodeAt, descend_succ, ok_bind, hlength, bind_eq_error_iff, pure_eq_ok,
      reduceCtorEq, and_false, exists_false, or_false] at hresult
    have hentries : ∀ entry ∈ entries, ∀ o,
        (∃ bs, key.encodeAt limit room o entry.1 = .ok bs) ∧
          ∃ bs, content.encodeAt limit room o entry.2 = .ok bs := by
      intro entry hentry o
      obtain ⟨hk, hv⟩ := hall entry hentry
      exact ⟨⟨_, (encodeAt_eq_ok_iff key _ _ _ _ _).mpr ⟨hk, rfl⟩⟩,
        ⟨_, (encodeAt_eq_ok_iff content _ _ _ _ _).mpr ⟨hv, rfl⟩⟩⟩
    obtain ⟨o, rfl⟩ := eq_duplicateKey_of_encodeEntries hentries hresult
    exact ⟨o, rfl⟩

end Entries

/-- No two keys of a decoded map are the same. A map whose parts can be encoded is refused for its
keys exactly if two of them are, and else written in the order of its entries. It has to lie within
the depth limit itself, though. -/
theorem map_keys_compared (layout : Layout) (limits : Limits) :
    (∀ input value consumed, layout.decode limits input = .ok (value, consumed) →
      ∀ entries, value.Piece (.map entries) → (entries.map (·.1)).Nodup) ∧
    ∀ name key content bound limit room offset entries,
      (map name key content bound).encodeAt limit 0 offset (.map entries) =
        .error (.depthLimitExceeded limit) ∧
      ∀ parts, Writable bound entries.length →
        EncodesEntries key content limit room entries parts →
        let result := (map name key content bound).encodeAt limit (room + 1) offset (.map entries)
        ((∃ o, result = .error (.duplicateKey o)) ↔
          ¬(entries.map fun entry => key.reshape entry.1).Nodup) ∧
        ((entries.map fun entry => key.reshape entry.1).Nodup →
          result = .ok (lengthBytes entries.length ++
            parts.flatMap fun part => part.1 ++ part.2)) := by
  constructor
  · intro input value consumed hdecode entries hpiece
    obtain ⟨d, -, hd⟩ := decode_eq_ok_iff.mp hdecode
    obtain ⟨⟨hadmits, -⟩, -⟩ := (decodeAt_eq_ok_iff layout _ _ _ _ _).mp hd
    obtain ⟨part, hpart⟩ := exists_admits_of_piece hpiece hadmits
    exact nodup_keys_of_admits hpart
  · intro name key content bound limit room offset entries
    refine ⟨rfl, ?_⟩
    intro parts hcount hparts
    refine ⟨⟨?_, ?_⟩, ?_⟩
    · rintro ⟨o, herror⟩ hnodup
      rw [encodeAt_map_of_nodup hcount hparts hnodup] at herror
      cases herror
    · exact fun hdup => encodeAt_map_of_not_nodup hcount hparts hdup offset
    · exact fun hnodup => encodeAt_map_of_nodup hcount hparts hnodup offset

/-- Two unit keys, one of them given in the other shape, are the same key. -/
theorem map_keys_compared_unit :
    let entries := [(Value.struct [], Value.bool true), (.tuple [], .bool false)]
    (entries.map (·.1)).Nodup ∧
      ∃ o, (map "" (.struct "Unit" []) (.primitive "" .bool) none).encode {} (.map entries) =
        .error (.duplicateKey o) := by
  intro entries
  have hparts : EncodesEntries (.struct "Unit" []) (.primitive "" .bool) 64 63 entries
      [([], [1]), ([], [0])] := .cons ⟨rfl, rfl⟩ (.cons ⟨rfl, rfl⟩ .nil)
  have hcount : Writable none entries.length := ⟨nofun, by decide⟩
  refine ⟨by simp [entries], ?_⟩
  refine (((map_keys_compared (.primitive "" .bool) {}).2 "" _ _ _ 64 63 0 entries).2 _ hcount
    hparts).1.mpr ?_
  simp [entries, reshape, reshapeFields]

/-- Bytes can be encoded at any level, but a map of bytes only within the depth limit. -/
theorem map_beyond_depth :
    let byte := Layout.primitive "" (.int .u8)
    let entries := [(Value.int .u8 1, Value.int .u8 2)]
    (∀ limit room, EncodesEntries byte byte limit room entries [([1], [2])]) ∧
      (entries.map fun entry => byte.reshape entry.1).Nodup ∧
      (map "" byte byte none).encode { maxDepth := 0 } (.map entries) =
        .error (.depthLimitExceeded 0) := by
  intro byte entries
  exact ⟨fun limit room => .cons ⟨rfl, rfl⟩ .nil, by simp [entries], rfl⟩

end Layout
end WireSchema
