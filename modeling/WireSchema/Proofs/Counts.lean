import WireSchema.Proofs.Decoding
import WireSchema.Proofs.Size

/-!
Counts against bytes. Main statement: the elements of a sequence are paid for in bytes exactly where
a layout whose values take none also has a size bound, and the entries of a map always are.
-/

namespace WireSchema.Layout

/-- A sequence, read or written, takes four bytes for its count and one or more an element. -/
def PaysForElements (layout : Layout) : Prop :=
  (∀ limit room c d elements, layout.decodeAt limit room c = .ok (.sequence elements, d) →
    c.offset + (4 + elements.length) ≤ d.offset) ∧
  ∀ limit room offset elements bs,
    layout.encodeAt limit room offset (.sequence elements) = .ok bs →
      4 + elements.length ≤ bs.length

/-- A count other than zero is refused before any element is looked at. -/
def RefusesElements (name : String) (element : Layout) (bound : Option UInt64) : Prop :=
  (∀ limit room offset elements, elements ≠ [] →
    (sequence name element bound).encodeAt limit (room + 1) offset (.sequence elements) =
      .error (.zeroSizedElements offset elements.length)) ∧
  ∀ limit room c d count, decodeLength bound c = .ok (count, d) → count ≠ 0 →
    (sequence name element bound).decodeAt limit (room + 1) c =
      .error (.zeroSizedElements c.offset count)

variable {name : String} {element : Layout} {bound : Option UInt64}

theorem exists_encode_nil_iff {value : Value} :
    (∃ limits, element.encode limits value = .ok []) ↔
      element.Admits value ∧ element.wire value = [] := by
  constructor
  · rintro ⟨limits, h⟩
    obtain ⟨⟨hadmits, -⟩, hwire⟩ := (encodeAt_eq_ok_iff _ _ _ _ _ _).mp h
    exact ⟨hadmits, hwire.symm⟩
  · rintro ⟨hadmits, hwire⟩
    exact ⟨⟨element.nest value, 0⟩,
      (encodeAt_eq_ok_iff _ _ _ _ _ _).mpr ⟨⟨hadmits, Nat.le_refl _⟩, hwire.symm⟩⟩

theorem length_le_wire_sequence {elements : List Value}
    (h : ∀ value ∈ elements, element.wire value ≠ []) :
    4 + elements.length ≤ ((sequence name element bound).wire (.sequence elements)).length := by
  rw [wire, List.length_append, length_lengthBytes, lengthWidth]
  exact Nat.add_le_add_left (length_le_length_flatMap h) 4

/-- The four bytes of a count are the whole encoding of that many elements. -/
theorem decode_count_of_weightless (name : String) {value : Value} (ha : element.Admits value)
    (hw : element.wire value = []) (hz : ¬element.isZeroSized) {count : Nat}
    (hcount : Writable bound count) : ∃ limits elements, elements.length = count ∧
      (sequence name element bound).decode limits (lengthBytes count) =
        .ok (.sequence elements, 4) := by
  obtain ⟨hwire, hnest, hadmits, hagain⟩ := element.reshapes value
  let elements := List.replicate count (element.reshape value)
  have hall : ∀ v ∈ elements, v = element.reshape value := fun v => List.eq_of_mem_replicate
  have hnil : elements.flatMap element.wire = [] :=
    List.flatMap_eq_nil_iff.mpr fun v hv => by rw [hall v hv, hwire, hw]
  have hbytes : (sequence name element bound).wire (.sequence elements) = lengthBytes count := by
    simp only [wire, hnil, List.append_nil, elements, List.length_replicate]
  refine ⟨⟨1 + element.nest value, 0⟩, elements, List.length_replicate,
    decode_eq_ok_iff.mpr ⟨⟨(lengthBytes count).reverse, []⟩, ?_, ?_⟩⟩
  · simp [Cursor.offset, lengthWidth]
  refine (decodeAt_eq_ok_iff _ _ _ _ _ _).mpr ⟨⟨⟨?_, .inr hz, ?_⟩, ?_, ?_⟩, ?_⟩
  · rwa [List.length_replicate]
  · intro v hv
    rw [hall v hv]
    exact hadmits.mpr ha
  · refine Nat.add_le_add_left (deepest_le_iff.mpr fun v hv => ?_) 1
    exact Nat.le_of_eq (by rw [hall v hv, hnest])
  · refine congrArg Value.sequence (map_eq_self_iff.mpr fun v hv => ?_)
    rw [hall v hv, hagain]
  · rw [hbytes]
    exact ⟨(List.append_nil _).symm, (List.append_nil _).symm⟩

theorem paysForElements_of
    (h : ∀ elements, (sequence name element bound).Admits (.sequence elements) →
      ∀ value ∈ elements, element.wire value ≠ []) :
    (sequence name element bound).PaysForElements := by
  constructor
  · intro limit room c d elements hdecode
    obtain ⟨⟨hadmits, -⟩, hadv⟩ := (decodeAt_eq_ok_iff _ _ _ _ _ _).mp hdecode
    rw [hadv.offset]
    exact Nat.add_le_add_left (length_le_wire_sequence (h elements hadmits)) _
  · intro limit room offset elements bs hencode
    obtain ⟨⟨hadmits, -⟩, rfl⟩ := (encodeAt_eq_ok_iff _ _ _ _ _ _).mp hencode
    exact length_le_wire_sequence (h elements hadmits)

theorem refusesElements_of (h : element.isZeroSized) : RefusesElements name element bound := by
  constructor
  · intro limit room offset elements hne
    simp [encodeAt, descend_succ, ok_bind, ensure, h, hne, error_bind]
  · intro limit room c d count hlength hne
    simp [decodeAt_sequence, descend_succ, ok_bind, hlength, ensure, h, hne, error_bind]

/-- Where one key takes no bytes none does, and then no two of them differ. -/
theorem length_le_wire_map {key content : Layout} {entries : List (Value × Value)}
    (ha : (map name key content bound).Admits (.map entries)) (hlen : 2 ≤ entries.length) :
    4 + entries.length ≤ ((map name key content bound).wire (.map entries)).length := by
  obtain ⟨-, hnodup, hall⟩ := ha
  rw [wire, List.length_append, length_lengthBytes, lengthWidth]
  refine Nat.add_le_add_left (length_le_length_flatMap fun entry hentry hnil => ?_) 4
  obtain ⟨hkey, -⟩ := List.append_eq_nil_iff.mp hnil
  have hweightless := weightless_of_wire_eq_nil (hall entry hentry).1 hkey
  obtain ⟨first, others, rfl⟩ := List.exists_cons_of_length_pos (Nat.lt_of_succ_lt hlen)
  obtain ⟨second, rest, rfl⟩ := List.exists_cons_of_length_pos (Nat.lt_of_succ_lt_succ hlen)
  have hfirst := hweightless.wire_eq_nil (hall first (by simp)).1
  have hsecond := hweightless.wire_eq_nil (hall second (by simp)).1
  simp [hfirst, hsecond] at hnodup

theorem writable_one (h : bound ≠ some 0) : Writable bound 1 := by
  refine ⟨fun max hmax => ?_, by decide⟩
  have hne : max ≠ 0 := fun hzero => h (by rw [hmax, hzero])
  have hpos : max.toNat ≠ 0 := fun hzero => hne (UInt64.toNat_inj.mp hzero)
  omega

theorem paysForElements_iff : (sequence name element bound).PaysForElements ↔
    bound = some 0 ∨ element.maxEncodedLen? ≠ none ∨
      ∀ limits value, element.encode limits value ≠ .ok [] := by
  constructor
  · intro hpays
    by_cases hbound : bound = some 0
    · exact .inl hbound
    by_cases hmax : element.maxEncodedLen? = none
    · refine .inr (.inr fun limits value hencode => ?_)
      obtain ⟨hadmits, hwire⟩ := exists_encode_nil_iff.mp ⟨limits, hencode⟩
      have hz : ¬element.isZeroSized := by simp [isZeroSized, hmax]
      obtain ⟨limits, elements, hlen, hdecode⟩ :=
        decode_count_of_weightless name hadmits hwire hz (writable_one hbound)
      obtain ⟨d, hoffset, hdecode⟩ := decode_eq_ok_iff.mp hdecode
      have hle := hpays.1 _ _ _ _ _ hdecode
      have hstart : (Cursor.start (lengthBytes 1)).offset = 0 := rfl
      omega
    · exact .inr (.inl hmax)
  · intro h
    refine paysForElements_of fun elements hsequence value hvalue hwire => ?_
    obtain ⟨hlen, hz, hall⟩ := hsequence
    have hadmits := hall value hvalue
    rcases h with rfl | hmax | hnone
    · have hle : elements.length ≤ 0 := hlen.1 0 rfl
      exact Nat.not_lt.mpr hle (List.length_pos_of_mem hvalue)
    · have hzero := (weightless_of_wire_eq_nil hadmits hwire).isZeroSized_iff.mpr hmax
      exact hz.elim (List.ne_nil_of_mem hvalue) fun h => h hzero
    · obtain ⟨limits, hencode⟩ := exists_encode_nil_iff.mpr ⟨hadmits, hwire⟩
      exact hnone limits value hencode

theorem refusesElements_iff {value : Value} (hadmits : element.Admits value)
    (hwire : element.wire value = []) :
    RefusesElements name element bound ↔ element.maxEncodedLen? ≠ none := by
  rw [← (weightless_of_wire_eq_nil hadmits hwire).isZeroSized_iff]
  constructor
  · intro hrefuses
    refine Decidable.byContradiction fun hz => ?_
    have herror := hrefuses.1 0 (element.nest value) 0 [value] (List.cons_ne_nil _ _)
    by_cases hbound : bound = some 0
    -- A bound of zero is reported before the elements are, so the error is another one.
    · rw [hbound] at herror
      simp [encodeAt, descend_succ, ok_bind, ensure, hz, encodeLength, checkBound,
        error_bind] at herror
    · have hok := (encodeAt_eq_ok_iff (sequence name element bound) 0 (element.nest value + 1) 0
        (.sequence [value]) _).mpr ⟨⟨⟨writable_one hbound, .inr hz, by simpa using hadmits⟩,
          by simp [nest, deepest, Nat.add_comm]⟩, rfl⟩
      rw [herror] at hok
      cases hok
  · exact refusesElements_of

theorem decode_count_of_not_paysForElements
    (h : ¬(sequence name element bound).PaysForElements) {count : Nat}
    (hcount : Writable bound count) : ∃ limits elements, elements.length = count ∧
      (sequence name element bound).decode limits (lengthBytes count) =
        .ok (.sequence elements, 4) := by
  simp only [paysForElements_iff, not_or, Classical.not_forall, Classical.not_not] at h
  obtain ⟨-, hmax, limits, value, hencode⟩ := h
  obtain ⟨hadmits, hwire⟩ := exists_encode_nil_iff.mp ⟨limits, hencode⟩
  exact decode_count_of_weightless name hadmits hwire (by simp [isZeroSized, hmax]) hcount

/-- That the elements take no bytes goes unnoticed where their layout has no size bound: then the
four bytes of a count are read as that many elements. The entries of a map always take bytes. -/
theorem pays_for_elements_iff (name : String) (element : Layout) (bound : Option UInt64) :
    ((sequence name element bound).PaysForElements ↔
      bound = some 0 ∨ element.maxEncodedLen? ≠ none ∨
        ∀ limits value, element.encode limits value ≠ .ok []) ∧
    ((∃ limits value, element.encode limits value = .ok []) →
      (RefusesElements name element bound ↔ element.maxEncodedLen? ≠ none)) ∧
    (¬(sequence name element bound).PaysForElements → ∀ count, Writable bound count →
      ∃ limits elements, elements.length = count ∧
        (sequence name element bound).decode limits (lengthBytes count) =
          .ok (.sequence elements, 4)) ∧
    ∀ content limit room c d entries,
      (map name element content bound).decodeAt limit room c = .ok (.map entries, d) →
        2 ≤ entries.length → c.offset + (4 + entries.length) ≤ d.offset := by
  refine ⟨paysForElements_iff, ?_, ?_, ?_⟩
  · rintro ⟨limits, value, hencode⟩
    obtain ⟨hadmits, hwire⟩ := exists_encode_nil_iff.mp ⟨limits, hencode⟩
    exact refusesElements_iff hadmits hwire
  · intro hpays count hcount
    exact decode_count_of_not_paysForElements hpays hcount
  · intro content limit room c d entries hdecode hlen
    obtain ⟨⟨hadmits, -⟩, hadv⟩ := (decodeAt_eq_ok_iff _ _ _ _ _ _).mp hdecode
    rw [hadv.offset]
    exact Nat.add_le_add_left (length_le_wire_map hadmits hlen) _

/-- Two arrays of no strings, counted by four bytes and read from nothing else. -/
theorem empty_arrays_unpaid :
    let layout := sequence "" (.array "" (.primitive "" (.string none)) 0) none
    let value := Value.sequence [.array [], .array []]
    layout.decode {} [2, 0, 0, 0] = .ok (value, 4) ∧ layout.encode {} value = .ok [2, 0, 0, 0] ∧
      ¬layout.PaysForElements := by
  refine ⟨rfl, rfl, fun hpays => ?_⟩
  have hle : 4 + 2 ≤ 4 := hpays.2 64 64 0 [.array [], .array []] [2, 0, 0, 0] rfl
  omega

end WireSchema.Layout
