import WireSchema.Proofs.Decoding

/-!
Encoding and decoding undo each other. Main statements: decoding gives back what was encoded, in the
shape of the layout, and only what encoding writes is decoded.
-/

namespace WireSchema.Layout

/-- Whatever follows the encoding is left alone. -/
theorem decode_encode {layout : Layout} {limits : Limits} {value : Value} {bs : Bytes}
    (h : layout.encode limits value = .ok bs) (tail : Bytes) :
    layout.decode limits (bs ++ tail) = .ok (layout.reshape value, bs.length) ∧
      (layout.reshape value = value ↔ layout.Shaped value) := by
  obtain ⟨⟨hadmits, hnest⟩, rfl⟩ := (encodeAt_eq_ok_iff layout _ _ _ _ _).mp h
  obtain ⟨hwire, hnest', hadmits', hagain⟩ := layout.reshapes value
  refine ⟨decode_eq_ok_iff.mpr ⟨⟨(layout.wire value).reverse, tail⟩, ?_, ?_⟩, reshape_eq_self_iff⟩
  · simp [Cursor.offset]
  · refine (decodeAt_eq_ok_iff layout _ _ _ _ _).mpr
      ⟨⟨hadmits'.mpr hadmits, by rwa [hnest'], hagain⟩, ?_⟩
    rw [hwire]
    exact ⟨rfl, (List.append_nil _).symm⟩

/-- A map from unit to an optional enum, with both empty payloads given in the other shape. -/
theorem decode_encode_unit_entry :
    let layout := Layout.map "" (.struct "Unit" [])
      (.option "" (.enum "Mark" [("Off", .tuple "MarkOff" [])] .two)) none
    let value := Value.map [(.tuple [], .present (.enum 0 (.struct [])))]
    layout.encode {} value = .ok [1, 0, 0, 0, 1, 0, 0] ∧
      layout.decode {} ([1, 0, 0, 0, 1, 0, 0] ++ [9]) =
        .ok (.map [(.struct [], .present (.enum 0 (.tuple [])))], 7) := by
  intro layout value
  have hencode : layout.encode {} value = .ok [1, 0, 0, 0, 1, 0, 0] := rfl
  exact ⟨hencode, (decode_encode hencode [9]).1⟩

/-- What was decoded is encoded again to the bytes that it was read from. -/
theorem encode_of_decode {layout : Layout} {limits : Limits} {input : Bytes} {value : Value}
    {consumed : Nat} (h : layout.decode limits input = .ok (value, consumed)) :
    consumed ≤ input.length ∧ layout.encode limits value = .ok (input.take consumed) := by
  obtain ⟨d, rfl, hd⟩ := decode_eq_ok_iff.mp h
  obtain ⟨⟨hadmits, hnest, -⟩, hadv⟩ := (decodeAt_eq_ok_iff layout _ _ _ _ _).mp hd
  have hinput : input = layout.wire value ++ d.ahead := hadv.1
  have hoffset : d.offset = (layout.wire value).length := by
    rw [hadv.offset, Cursor.start, Cursor.offset, List.length_nil, Nat.zero_add]
  rw [hoffset, hinput]
  refine ⟨by simp, ?_⟩
  rw [List.take_left]
  exact (encodeAt_eq_ok_iff layout _ _ _ _ _).mpr ⟨⟨hadmits, hnest⟩, rfl⟩

theorem decodeExact_eq_ok_iff {layout : Layout} {limits : Limits} {input : Bytes} {value : Value} :
    layout.decodeExact limits input = .ok value ↔
      layout.decode limits input = .ok (value, input.length) := by
  simp only [decodeExact_eq, bind_eq_ok_iff, Prod.exists, ensure_eq_ok_iff, exists_const,
    pure_eq_ok, Except.ok.injEq]
  constructor
  · rintro ⟨_, _, h, rfl, rfl⟩
    exact h
  · exact fun h => ⟨_, _, h, rfl, rfl⟩

theorem encode_of_decodeExact {layout : Layout} {limits : Limits} {input : Bytes} {value : Value}
    (h : layout.decodeExact limits input = .ok value) :
    layout.encode limits value = .ok input := by
  have henc := (encode_of_decode (decodeExact_eq_ok_iff.mp h)).2
  rwa [List.take_length] at henc

/-- Encodings under different limits do not differ. -/
theorem encode_unique {layout : Layout} {limits limits' : Limits} {value : Value} {bs bs' : Bytes}
    (h : layout.encode limits value = .ok bs) (h' : layout.encode limits' value = .ok bs') :
    bs = bs' := by
  rw [((encodeAt_eq_ok_iff layout _ _ _ _ _).mp h).2,
    ((encodeAt_eq_ok_iff layout _ _ _ _ _).mp h').2]

/-- A value is decoded from one byte string only, the one that encoding it writes. -/
theorem decode_canonical (layout : Layout) (limits : Limits) :
    (∀ input value consumed, layout.decode limits input = .ok (value, consumed) →
      consumed ≤ input.length ∧ layout.encode limits value = .ok (input.take consumed)) ∧
    (∀ input value, layout.decodeExact limits input = .ok value →
      layout.encode limits value = .ok input) ∧
    (∀ limits' input input' value, layout.decodeExact limits input = .ok value →
      layout.decodeExact limits' input' = .ok value → input = input') :=
  ⟨fun _ _ _ h => encode_of_decode h, fun _ _ h => encode_of_decodeExact h,
    fun _ _ _ _ h h' => encode_unique (encode_of_decodeExact h) (encode_of_decodeExact h')⟩

end WireSchema.Layout
