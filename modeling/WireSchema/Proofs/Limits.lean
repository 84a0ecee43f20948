import WireSchema.Proofs.Depth
import WireSchema.Proofs.Reservation

/-!
What resource limits change. Main statement: with more levels a codec comes to the same result, a
value or an error, unless with fewer it ran out of levels. Encoding does so whatever else the limits
say; decoding does so unless the program may end for want of room under the second limits only.
-/

namespace WireSchema

/-- A result under one limit and the result under another one: the same, or the first limit is the
lower one and was exceeded. -/
def Relaxed {α : Type} (limit limit' : Nat) (result result' : Except CodecError α) : Prop :=
  result' = result ∨ limit < limit' ∧ result = .error (.depthLimitExceeded limit)

/-- The same of a program that decodes in blocks of memory. It comes to no result where there is no
room, and then nothing is asked of the second one. -/
def Kept (limit limit' : Nat) (α : Type) (result result' : Except Halt α) : Prop :=
  result = .error .capacityOverflow ∨ result' = result ∨
    limit < limit' ∧ result = .error (.refused (.depthLimitExceeded limit))

section Steps
variable {α β : Type} {limit more : Nat}

/-- A run with more levels under a limit that allows as many more. -/
theorem Deepened.relaxed {result result' : Except CodecError α}
    (h : Deepened limit (limit + more) more result result') :
    Relaxed limit (limit + more) result result' := by
  cases h with
  | same hshallow => exact .inl rfl
  | exceeded hnone =>
    cases more with
    | zero => exact .inl (hnone rfl)
    | succ more => exact .inr ⟨Nat.lt_add_of_pos_right (Nat.succ_pos more), rfl⟩

theorem Kept.refl (limit limit' : Nat) (result : Except Halt α) :
    Kept limit limit' α result result :=
  .inr (.inl rfl)

theorem Kept.bind {limit' : Nat} {step step' : Except Halt α} {next next' : α → Except Halt β}
    (h : Kept limit limit' α step step') (hnext : ∀ a, Kept limit limit' β (next a) (next' a)) :
    Kept limit limit' β (step >>= next) (step' >>= next') := by
  rcases h with rfl | rfl | ⟨hlt, rfl⟩
  · exact .inl rfl
  · cases step' with
    | error e => exact .refl _ _ _
    | ok a => exact hnext a
  · exact .inr (.inr ⟨hlt, rfl⟩)

theorem kept_no_room (step step' : Nat → Except Halt α) :
    Kept limit (limit + more) α (liftM (descend limit 0) >>= step)
      (liftM (descend (limit + more) (0 + more)) >>= step') := by
  cases more with
  | zero => exact .refl _ _ _
  | succ more => exact .inr (.inr ⟨Nat.lt_add_of_pos_right (Nat.succ_pos more), rfl⟩)

theorem lockstep_kept (limits limits' : Limits) (limit more : Nat) :
    Lockstep (Kept limit (limit + more)) limits.reserve limits'.reserve limit (limit + more)
      more where
  ret _ := .refl _ _ _
  bind := .bind
  lift _ := .refl _ _ _
  after {_ _ step _ _} _ hnext := by
    cases step with
    | error e => exact .refl _ _ _
    | ok a => exact hnext a rfl
  descend {_ step step'} h room := by
    cases room with
    | zero => exact kept_no_room step step'
    | succ room =>
      rw [Nat.add_right_comm, descend_succ, descend_succ]
      exact h room
  reserve _ _ hwidth hcount := by
    rw [Limits.reserve_counted hwidth hcount, Limits.reserve_counted hwidth hcount]
    exact .refl _ _ _

end Steps

namespace Layout
variable {limits limits' : Limits}

/-- Encoding against the layout comes to the same under the second limits. -/
structure KeepsEncoded (limits limits' : Limits) (layout : Layout) : Prop where
  encode : ∀ value, Relaxed limits.maxDepth limits'.maxDepth (layout.encode limits value)
    (layout.encode limits' value)
  encodeVariant : ∀ name variants tag, layout = .enum name variants tag → ∀ index payload,
    Relaxed limits.maxDepth limits'.maxDepth (encodeVariant variants tag limits index payload)
      (encodeVariant variants tag limits' index payload)

/-- Decoding against the layout comes to the same under the second limits. -/
structure KeepsDecoded (limits limits' : Limits) (layout : Layout) : Prop where
  decode : ∀ input, Kept limits.maxDepth limits'.maxDepth _ (layout.decodeReserving limits input)
    (layout.decodeReserving limits' input)
  decodeExact : ∀ input, Kept limits.maxDepth limits'.maxDepth _
    (layout.decodeExactReserving limits input) (layout.decodeExactReserving limits' input)
  decodeVariant : ∀ name variants tag, layout = .enum name variants tag → ∀ input,
    Kept limits.maxDepth limits'.maxDepth _ (decodeVariantReserving variants tag limits input)
      (decodeVariantReserving variants tag limits' input)

theorem keepsEncoded (h : limits.maxDepth ≤ limits'.maxDepth) (layout : Layout) :
    layout.KeepsEncoded limits limits' := by
  obtain ⟨more, hmore⟩ := Nat.exists_eq_add_of_le h
  constructor
  · intro value
    unfold Layout.encode
    rw [hmore]
    exact (deepened_encodeAt layout _ 0 value).relaxed
  · intro name variants tag _ index payload
    unfold Layout.encodeVariant
    rw [hmore]
    exact (deepened_encodeTagged (fun variant _ => deepened_encodeAt variant.2) _ _ _ _ _ _).relaxed

/-- Where the arrays of the layout are made room for in step, decoding goes on in step. -/
theorem keepsDecoded_of_roomInStep {layout : Layout} (h : limits.maxDepth ≤ limits'.maxDepth)
    (hroom : ∀ part, Occurs part layout → part.RoomInStep
      (Kept limits.maxDepth limits'.maxDepth) limits.reserve limits'.reserve) :
    layout.KeepsDecoded limits limits' := by
  obtain ⟨more, hmore⟩ := Nat.exists_eq_add_of_le h
  have hstep := lockstep_kept limits limits' limits.maxDepth more
  rw [← hmore] at hstep
  refine ⟨hstep.decodeWith hmore layout hroom, hstep.decodeExactWith hmore layout hroom, ?_⟩
  rintro name variants tag rfl
  obtain ⟨-, hinside⟩ := forall_occurs.mp hroom
  exact hstep.decodeVariantWith hmore variants
    (fun variant hvariant => hinside variant.2 (List.mem_map_of_mem hvariant)) tag

theorem roomInStep_of_addressable {part : Layout} (h : part.Addressable) (limit limit' : Nat) :
    part.RoomInStep (Kept limit limit') limits.reserve limits'.reserve := by
  cases part with
  | array name element length =>
    rw [RoomInStep, Limits.reserve_of_le h, Limits.reserve_of_le h]
    exact .refl _ _ _
  | _ => trivial

theorem roomInStep_of_fits (h : limits'.Fits ∨ ¬limits.Fits) (part : Layout) (limit limit' : Nat) :
    part.RoomInStep (Kept limit limit') limits.reserve limits'.reserve := by
  by_cases haddressable : part.Addressable
  · exact roomInStep_of_addressable haddressable limit limit'
  · cases part with
    | array name element length =>
      have hlength : largestBlock < valueWidth * length.toNat := Nat.lt_of_not_le haddressable
      rcases h with hfits | hnot
      · rw [RoomInStep, Limits.reserve_of_fits hfits]
        rcases limits.reserve_eq_ok_or valueWidth length.toNat with hok | hoverflow
        · exact .inr (.inl hok.symm)
        · exact .inl hoverflow
      · exact .inl (Limits.reserve_of_not_fits hnot hlength)
    | _ => trivial

section NoLevels
variable {limit more : Nat} {reserve reserve' : Nat → Nat → Except Halt Unit}

/-- No room is asked for where no value has any below it. -/
theorem kept_decodeAt_no_room (layout : Layout) (c : Cursor) :
    Kept limit (limit + more) _ (layout.decodeAtWith reserve limit 0 c)
      (layout.decodeAtWith reserve' (limit + more) (0 + more) c) := by
  cases layout with
  | primitive name kind => exact .refl _ _ _
  | _ => exact kept_no_room _ _

theorem kept_decodePayload_no_room (unknown : CodecError) (variants : List (String × Layout))
    (position : Nat) (c : Cursor) :
    Kept limit (limit + more) _ (decodePayloadWith reserve limit 0 unknown variants position c)
      (decodePayloadWith reserve' (limit + more) (0 + more) unknown variants position c) := by
  induction variants generalizing position with
  | nil => exact .refl _ _ _
  | cons variant variants ih =>
    cases position with
    | zero => exact kept_no_room _ _
    | succ position => exact ih position

theorem keepsDecoded_of_no_levels (h : limits.maxDepth = 0) (layout : Layout) :
    layout.KeepsDecoded limits limits' := by
  have hdepth : limits'.maxDepth = 0 + limits'.maxDepth := (Nat.zero_add _).symm
  have hdecode (input : Bytes) : Kept limits.maxDepth limits'.maxDepth _
      (layout.decodeReserving limits input) (layout.decodeReserving limits' input) := by
    unfold decodeReserving decodeWith
    rw [h, hdepth]
    exact (kept_decodeAt_no_room layout _).bind fun _ => .refl _ _ _
  refine ⟨hdecode, fun input => (hdecode input).bind fun _ => .refl _ _ _, ?_⟩
  intro name variants tag _ input
  unfold decodeVariantReserving decodeVariantWith decodeTagged
  rw [h, hdepth]
  refine Kept.bind ?_ fun _ => .refl _ _ _
  refine Kept.bind (.refl _ _ _) fun read => ?_
  exact (kept_decodePayload_no_room _ _ _ _).bind fun _ => .refl _ _ _

end NoLevels

/-- More booleans than any block of memory has room for. -/
def unaddressable : Layout :=
  .array "" (.ofPrimitive .bool) 0x1000000000000000

/-- Room for all the elements is asked for before the first of them is missed. -/
theorem decodeReserving_unaddressable (hdepth : limits.maxDepth ≠ 0) :
    unaddressable.decodeReserving limits [] =
      (limits.reserve valueWidth 0x1000000000000000 >>= fun _ =>
        .error (.refused (.truncatedInput 0 1 0))) := by
  obtain ⟨room, hroom⟩ := Nat.exists_eq_succ_of_ne_zero hdepth
  rw [decodeReserving, decodeWith, hroom]
  -- Entering the array leaves the levels in `room`.
  change (limits.reserve valueWidth 0x1000000000000000 >>= _) >>= _ = _
  rw [bind_assoc]
  rfl

theorem unaddressable_missed (hdepth : limits.maxDepth ≠ 0) (hfits : limits.Fits) :
    unaddressable.decodeReserving limits [] = .error (.refused (.truncatedInput 0 1 0)) := by
  rw [decodeReserving_unaddressable hdepth, Limits.reserve_of_fits hfits, ok_bind]

theorem unaddressable_overflow (hdepth : limits.maxDepth ≠ 0) (hnot : ¬limits.Fits) :
    unaddressable.decodeReserving limits [] = .error .capacityOverflow := by
  rw [decodeReserving_unaddressable hdepth, Limits.reserve_of_not_fits hnot (by decide), error_bind]

/-- With as many levels or more, encoding comes to the same whatever else the limits say. So does
decoding, for all layouts, exactly if the second limits never ask for more room than a block has, or
the first ones do so too, or allow no level. Under any limits it does for a layout whose arrays a
block holds. -/
theorem limits_keep_results_iff (h : limits.maxDepth ≤ limits'.maxDepth) :
    (∀ layout : Layout, layout.KeepsEncoded limits limits') ∧
    ((∀ layout : Layout, layout.KeepsDecoded limits limits') ↔
      limits'.Fits ∨ ¬limits.Fits ∨ limits.maxDepth = 0) ∧
    ∀ layout : Layout, (∀ part, Occurs part layout → part.Addressable) →
      layout.KeepsDecoded limits limits' := by
  refine ⟨keepsEncoded h, ⟨fun hkeeps => ?_, fun hroom layout => ?_⟩, fun layout haddressable => ?_⟩
  · refine Classical.byContradiction fun hnone => ?_
    simp only [not_or, Classical.not_not] at hnone
    obtain ⟨hnot, hfits, hdepth⟩ := hnone
    have hdecode := (hkeeps unaddressable).decode []
    rw [unaddressable_missed hdepth hfits, unaddressable_overflow (by omega) hnot] at hdecode
    rcases hdecode with hended | hsame | ⟨-, hexceeded⟩
    · cases hended
    · cases hsame
    · cases hexceeded
  · rcases or_assoc.mpr hroom with hfits | hzero
    · exact keepsDecoded_of_roomInStep h fun part _ => roomInStep_of_fits hfits part _ _
    · exact keepsDecoded_of_no_levels hzero layout
  · exact keepsDecoded_of_roomInStep h fun part hpart =>
      roomInStep_of_addressable (haddressable part hpart) _ _

/-- One level is enough for an absent value and not for one in another. -/
theorem limits_keep_results_nested :
    let layout : Layout := .option "" (.option "" (.ofPrimitive .bool))
    let shallow : Limits := { maxDepth := 1 }
    let deep : Limits := { maxDepth := 2, maxPreallocation := 0 }
    shallow.maxDepth ≤ deep.maxDepth ∧ deep.Fits ∧
      Kept 1 2 _ (layout.decodeReserving shallow [0]) (layout.decodeReserving deep [0]) ∧
      layout.decodeReserving shallow [0] = .ok (.absent, 1) ∧
      Kept 1 2 _ (layout.decodeReserving shallow [1, 1, 1])
        (layout.decodeReserving deep [1, 1, 1]) ∧
      layout.decodeReserving shallow [1, 1, 1] = .error (.refused (.depthLimitExceeded 1)) ∧
      layout.decodeReserving deep [1, 1, 1] = .ok (.present (.present (.bool true)), 3) := by
  intro layout shallow deep
  have hdepth : shallow.maxDepth ≤ deep.maxDepth := by decide
  have hfits : deep.Fits := by decide
  obtain ⟨-, hall, -⟩ := limits_keep_results_iff hdepth
  have hkeeps : layout.KeepsDecoded shallow deep := hall.mpr (.inl hfits) layout
  exact ⟨hdepth, hfits, hkeeps.decode [0], rfl, hkeeps.decode [1, 1, 1], rfl, rfl⟩

/-- The same input is too short for a decoder and ends the program with a decoder that asks for room
for all that is declared. -/
theorem limits_change_unaddressable :
    let limits : Limits := {}
    let limits' : Limits := { maxPreallocation := 0xffffffffffffffff }
    limits.maxDepth ≤ limits'.maxDepth ∧
      unaddressable.decodeReserving limits [] = .error (.refused (.truncatedInput 0 1 0)) ∧
      unaddressable.decodeReserving limits' [] = .error .capacityOverflow := by
  intro limits limits'
  refine ⟨Nat.le_refl 64, unaddressable_missed ?_ ?_, unaddressable_overflow ?_ ?_⟩
  all_goals decide

end Layout
end WireSchema
