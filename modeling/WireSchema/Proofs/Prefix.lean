import WireSchema.Proofs.Decoding

/-!
Decoding depends on the bytes that it has read and on no others. Main statement: more input changes
no result but that of a truncated input, which lacks exactly the bytes that its error names.
-/

namespace WireSchema

namespace Cursor

/-- The same position in an input with more bytes at its end. -/
def extend (c : Cursor) (more : Bytes) : Cursor :=
  ⟨c.read, c.ahead ++ more⟩

@[simp] theorem offset_extend (c : Cursor) (more : Bytes) : (c.extend more).offset = c.offset :=
  rfl

@[simp] theorem remaining_extend (c : Cursor) (more : Bytes) :
    (c.extend more).remaining = c.remaining + more.length :=
  List.length_append

theorem Advance.extend {c d : Cursor} {bs : Bytes} (h : c.Advance bs d) (more : Bytes) :
    (c.extend more).Advance bs (d.extend more) := by
  refine ⟨?_, h.2⟩
  simp only [Cursor.extend, h.1, List.append_assoc]

theorem Advance.remaining {c d : Cursor} {bs : Bytes} (h : c.Advance bs d) :
    c.remaining = bs.length + d.remaining := by
  simp only [Cursor.remaining, h.1, List.length_append]

end Cursor

def CodecError.isTruncation : CodecError → Bool
  | .truncatedInput _ _ _ => true
  | _ => false

section Determined
variable {α β : Type}

/-- The read ends at the offset or after it, or with an error other than truncation. -/
def Past (offset : Nat) : Except CodecError (α × Cursor) → Prop
  | .ok (_, d) => offset ≤ d.offset
  | .error (.truncatedInput found _ _) => offset ≤ found
  | .error _ => True

/-- A read that lacks bytes: with fewer than the missing ones it lacks the rest, and with all of
them it gets past the place where it stopped. -/
structure Lacks (run : Cursor → Except CodecError (α × Cursor)) (c : Cursor)
    (offset needed remaining : Nat) : Prop where
  reached : c.offset ≤ offset
  total : offset + remaining = c.offset + c.remaining
  short : remaining < needed
  still : ∀ more : Bytes, more.length < needed - remaining →
    run (c.extend more) = .error (.truncatedInput offset needed (remaining + more.length))
  past : ∀ more : Bytes, needed - remaining ≤ more.length →
    Past (offset + needed) (run (c.extend more))

/-- How the results of a read on an input and on a longer one hang together. -/
structure Determined (run : Cursor → Except CodecError (α × Cursor)) : Prop where
  ok : ∀ {c a d}, run c = .ok (a, d) →
    (∃ bs, c.Advance bs d) ∧ ∀ more, run (c.extend more) = .ok (a, d.extend more)
  error : ∀ {c e}, run c = .error e → ¬e.isTruncation → ∀ more, run (c.extend more) = .error e
  truncated : ∀ {c offset needed remaining},
    run c = .error (.truncatedInput offset needed remaining) →
      Lacks run c offset needed remaining

theorem Determined.past {run : Cursor → Except CodecError (α × Cursor)} (h : Determined run)
    {c : Cursor} {offset : Nat} (hc : offset ≤ c.offset) : Past offset (run c) := by
  cases hr : run c with
  | ok result =>
    obtain ⟨bs, hadv⟩ := (h.ok hr).1
    have := hadv.offset
    change offset ≤ result.2.offset
    omega
  | error e =>
    cases e with
    | truncatedInput found needed remaining => exact Nat.le_trans hc (h.truncated hr).reached
    | _ => trivial

theorem Past.bind {result : Except CodecError (α × Cursor)}
    {next : α × Cursor → Except CodecError (β × Cursor)} {offset : Nat} (h : Past offset result)
    (hnext : ∀ a, Determined fun d => next (a, d)) : Past offset (result >>= next) := by
  cases result with
  | ok result => exact (hnext result.1).past h
  | error e => cases e <;> exact h

/-- What follows a read may use the place where that read began. -/
theorem Determined.bind {run : Cursor → Except CodecError (α × Cursor)}
    {next : Cursor → α × Cursor → Except CodecError (β × Cursor)} (h : Determined run)
    (hextend : ∀ c more, next (c.extend more) = next c)
    (hnext : ∀ c a, Determined fun d => next c (a, d)) :
    Determined fun c => run c >>= next c := by
  constructor
  · intro c b e hrun
    obtain ⟨⟨a, d⟩, hr, hn⟩ := bind_eq_ok_iff.mp hrun
    obtain ⟨⟨bs, hadv⟩, hmore⟩ := h.ok hr
    obtain ⟨⟨cs, hadv'⟩, hmore'⟩ := (hnext c a).ok hn
    refine ⟨⟨bs ++ cs, Cursor.advance_append.mpr ⟨d, hadv, hadv'⟩⟩, fun more => ?_⟩
    simp only [hmore more, ok_bind, hextend, hmore' more]
  · intro c e hrun he more
    rcases bind_eq_error_iff.mp hrun with hr | ⟨⟨a, d⟩, hr, hn⟩
    · simp only [h.error hr he more, error_bind]
    · simp only [(h.ok hr).2 more, ok_bind, hextend, (hnext c a).error hn he more]
  · intro c offset needed remaining hrun
    rcases bind_eq_error_iff.mp hrun with hr | ⟨⟨a, d⟩, hr, hn⟩
    · obtain ⟨hreached, htotal, hshort, hstill, hpast⟩ := h.truncated hr
      refine ⟨hreached, htotal, hshort, fun more hm => ?_, fun more hm => ?_⟩
      · simp only [hstill more hm, error_bind]
      · exact (hpast more hm).bind (hnext _)
    -- The first read has its bytes; what the second lacks is counted from further on.
    · obtain ⟨⟨bs, hadv⟩, hmore⟩ := h.ok hr
      obtain ⟨hreached, htotal, hshort, hstill, hpast⟩ := (hnext c a).truncated hn
      have hoff := hadv.offset
      have hrem := hadv.remaining
      refine ⟨by omega, by omega, hshort, fun more hm => ?_, fun more hm => ?_⟩
      · simp only [hmore more, ok_bind, hextend, hstill more hm]
      · simp only [hmore more, ok_bind, hextend]
        exact hpast more hm

theorem determined_ok (a : α) : Determined fun c => .ok (a, c) := by
  constructor
  · intro c _ _ hrun
    cases hrun
    exact ⟨⟨[], Cursor.advance_nil.mpr rfl⟩, fun more => rfl⟩
  · intro c e hrun
    cases hrun
  · intro c offset needed remaining hrun
    cases hrun

theorem Determined.map {run : Cursor → Except CodecError (α × Cursor)} (h : Determined run)
    (f : α → β) : Determined fun c => run c >>= fun result => .ok (f result.1, result.2) :=
  h.bind (fun _ _ => rfl) fun _ a => determined_ok (f a)

theorem determined_error {e : CodecError} (h : ¬e.isTruncation) :
    Determined fun _ => (.error e : Except CodecError (α × Cursor)) := by
  constructor
  · intro c _ _ hrun
    cases hrun
  · intro c _ hrun _ more
    exact hrun
  · intro c offset needed remaining hrun
    cases hrun
    exact absurd rfl h

/-- The bytes read since an offset are the same in the longer input. -/
theorem Determined.since (run : Bytes → Cursor → Except CodecError (α × Cursor))
    (h : ∀ bs, Determined (run bs)) (start : Nat) : Determined fun c => run (c.since start) c := by
  constructor
  · exact (h _).ok
  · exact (h _).error
  · intro c offset needed remaining hrun
    obtain ⟨hreached, htotal, hshort, hstill, hpast⟩ := (h _).truncated hrun
    exact ⟨hreached, htotal, hshort, hstill, hpast⟩

theorem Determined.ensure {run : Cursor → Except CodecError (α × Cursor)} (h : Determined run)
    {p : Prop} [Decidable p] {e : CodecError} (he : ¬e.isTruncation) :
    Determined fun c => ensure p e >>= fun _ => run c := by
  by_cases hp : p
  · simpa only [WireSchema.ensure, if_pos hp, ok_bind] using h
  · simpa only [WireSchema.ensure, if_neg hp, error_bind] using determined_error he

theorem Determined.descend {run : Nat → Cursor → Except CodecError (α × Cursor)}
    (h : ∀ room, Determined (run room)) {limit room : Nat} :
    Determined fun c => descend limit room >>= fun room => run room c := by
  cases room with
  | zero => exact determined_error (by simp [CodecError.isTruncation])
  | succ room => exact h room

theorem determined_readBytes (count : Nat) : Determined (·.readBytes count) := by
  constructor
  · intro c bs d hrun
    obtain ⟨hl, hadv⟩ := Cursor.readBytes_eq_ok_iff.mp hrun
    exact ⟨⟨bs, hadv⟩, fun more => Cursor.readBytes_eq_ok_iff.mpr ⟨hl, hadv.extend more⟩⟩
  · intro c e hrun he
    obtain ⟨-, rfl⟩ := Cursor.readBytes_eq_error_iff.mp hrun
    exact absurd rfl he
  · intro c offset needed remaining hrun
    obtain ⟨hlt, he⟩ := Cursor.readBytes_eq_error_iff.mp hrun
    cases he
    refine ⟨Nat.le_refl _, rfl, hlt, fun more hm => ?_, fun more hm => ?_⟩
    · have hlt' : (c.extend more).remaining < count := by
        rw [Cursor.remaining_extend]
        omega
      rw [Cursor.readBytes_eq_error hlt', Cursor.offset_extend, Cursor.remaining_extend]
    · cases hr : (c.extend more).readBytes count with
      | ok result =>
        obtain ⟨hl, hadv⟩ := Cursor.readBytes_eq_ok_iff.mp hr
        have := hadv.offset
        change c.offset + count ≤ result.2.offset
        simp only [Cursor.offset_extend] at this
        omega
      | error e =>
        have hlt' := (Cursor.readBytes_eq_error_iff.mp hr).1
        rw [Cursor.remaining_extend] at hlt'
        omega

theorem determined_readByte : Determined Cursor.readByte := by
  constructor
  · intro c b d hrun
    have hadv := Cursor.readByte_eq_ok_iff.mp hrun
    exact ⟨⟨[b], hadv⟩, fun more => Cursor.readByte_eq_ok_iff.mpr (hadv.extend more)⟩
  · rintro ⟨read, ahead⟩ e hrun he
    cases ahead with
    | nil =>
      cases hrun
      exact absurd rfl he
    | cons b ahead => cases hrun
  · rintro ⟨read, ahead⟩ offset needed remaining hrun
    cases ahead with
    | nil =>
      cases hrun
      refine ⟨Nat.le_refl _, rfl, Nat.zero_lt_one, fun more hm => ?_, fun more hm => ?_⟩
      · obtain rfl : more = [] := List.length_eq_zero_iff.mp (by omega)
        rfl
      · cases more with
        | nil => cases hm
        | cons b more => exact Nat.le_refl _
    | cons b ahead => cases hrun

theorem determined_readNat (width : Nat) : Determined (·.readNat width) :=
  (determined_readBytes width).map Bytes.toNatLE

theorem determined_readInt (kind : IntKind) : Determined (·.readInt kind) := by
  simp only [Cursor.readInt_eq]
  exact (determined_readBytes kind.size).map kind.ofBytes

theorem determined_decodeLength (bound : Option UInt64) : Determined (decodeLength bound) := by
  refine (determined_readNat lengthWidth).bind (fun _ _ => rfl) fun c length => ?_
  cases bound with
  | none => exact determined_ok length
  | some max => exact (determined_ok length).ensure Bool.false_ne_true

theorem determined_decodePrimitive (kind : Primitive) : Determined (decodePrimitive kind) := by
  cases kind with
  | bool =>
    refine determined_readByte.bind (fun _ _ => rfl) fun c byte => ?_
    dsimp only
    split
    · exact determined_ok _
    · exact determined_ok _
    · exact determined_error Bool.false_ne_true
  | int kind => exact (determined_readInt kind).map (Value.int kind)
  | string bound =>
    refine (determined_decodeLength bound).bind (fun _ _ => rfl) fun _ length => ?_
    refine (determined_readBytes length).bind (fun _ _ => rfl) fun c bs => ?_
    dsimp only
    split
    · exact determined_ok _
    · exact determined_error Bool.false_ne_true
  | fixedBytes width =>
    exact (determined_readBytes width.toNat).map Value.bytes
  | publicKey => exact (determined_readBytes _).map Value.bytes

theorem determined_decodeMany {decodeOne : Cursor → Except CodecError (Value × Cursor)}
    (h : Determined decodeOne) (count : Nat) : Determined (decodeMany decodeOne count) := by
  induction count with
  | zero => exact determined_ok []
  | succ count ih => exact h.bind (fun _ _ => rfl) fun _ value => ih.map (value :: ·)

theorem determined_decodeEntries
    {decodeKey decodeValue : Cursor → Except CodecError (Value × Cursor)}
    (hk : Determined decodeKey) (hv : Determined decodeValue) (seen : List Bytes) (count : Nat) :
    Determined (decodeEntries decodeKey decodeValue seen count) := by
  induction count generalizing seen with
  | zero => exact determined_ok []
  | succ count ih =>
    refine hk.bind (fun _ _ => rfl) fun c key => ?_
    -- The bytes of the key are looked up behind the cursor, where more input changes nothing.
    refine Determined.since (fun ks d => checkKey c.offset ks seen >>= fun _ =>
      decodeValue d >>= fun value =>
        decodeEntries decodeKey decodeValue (ks :: seen) count value.2 >>= fun rest =>
          .ok ((key, value.1) :: rest.1, rest.2))
      (fun ks => Determined.ensure ?_ Bool.false_ne_true) c.offset
    exact hv.bind (fun _ _ => rfl) fun _ value => (ih (ks :: seen)).map ((key, value) :: ·)

namespace Layout

theorem determined_decodeFields {fields : List (String × Layout)} {limit room : Nat}
    (h : ∀ field ∈ fields, ∀ room, Determined (field.2.decodeAt limit room)) :
    Determined (decodeFields limit room fields) := by
  induction fields with
  | nil => exact determined_ok []
  | cons field fields ih =>
    have hrest := ih fun f hf => h f (List.mem_cons_of_mem _ hf)
    refine (h _ List.mem_cons_self room).bind (fun _ _ => rfl) fun _ value => ?_
    exact hrest.map ((field.1, value) :: ·)

theorem determined_decodeMembers {members : List Layout} {limit room : Nat}
    (h : ∀ member ∈ members, ∀ room, Determined (member.decodeAt limit room)) :
    Determined (decodeMembers limit room members) := by
  induction members with
  | nil => exact determined_ok []
  | cons member members ih =>
    have hrest := ih fun m hm => h m (List.mem_cons_of_mem _ hm)
    exact (h _ List.mem_cons_self room).bind (fun _ _ => rfl) fun _ value => hrest.map (value :: ·)

theorem determined_decodePayload {variants : List (String × Layout)} {limit room position : Nat}
    {unknown : CodecError} (hu : ¬unknown.isTruncation)
    (h : ∀ variant ∈ variants, ∀ room, Determined (variant.2.decodeAt limit room)) :
    Determined (decodePayload limit room unknown variants position) := by
  induction variants generalizing position with
  | nil => exact determined_error hu
  | cons variant variants ih =>
    cases position with
    | zero => exact Determined.descend (h _ List.mem_cons_self)
    | succ position => exact ih fun v hv => h v (List.mem_cons_of_mem _ hv)

theorem determined_decodeAt (layout : Layout) (limit room : Nat) :
    Determined (layout.decodeAt limit room) := by
  induction layout generalizing room with
  | primitive name kind => exact determined_decodePrimitive kind
  | array name element length ih =>
    refine Determined.descend fun room => ?_
    exact (determined_decodeMany (ih room) _).map Value.array
  | sequence name element bound ih =>
    refine Determined.descend fun room => ?_
    refine (determined_decodeLength bound).bind (fun _ _ => rfl) fun c count => ?_
    refine Determined.ensure ?_ Bool.false_ne_true
    exact (determined_decodeMany (ih room) count).map Value.sequence
  | map name key content bound ihk ihc =>
    refine Determined.descend fun room => ?_
    refine (determined_decodeLength bound).bind (fun _ _ => rfl) fun c count => ?_
    exact (determined_decodeEntries (ihk room) (ihc room) [] count).map Value.map
  | option name inner ih =>
    refine Determined.descend fun room => ?_
    refine determined_readByte.bind (fun _ _ => rfl) fun c tag => ?_
    dsimp only
    split
    · exact determined_ok _
    · exact (ih room).map Value.present
    · exact determined_error Bool.false_ne_true
  | struct name fields ih =>
    refine Determined.descend fun room => ?_
    exact (determined_decodeFields ih).map Value.struct
  | tuple name members ih =>
    refine Determined.descend fun room => ?_
    exact (determined_decodeMembers ih).map Value.tuple
  | enum name variants tag ih =>
    refine Determined.descend fun room => ?_
    refine (determined_readNat tag.size).bind (fun _ _ => rfl) fun c discriminant => ?_
    have hunknown : ¬(CodecError.unknownVariant name c.offset discriminant
        variants.length).isTruncation :=
      Bool.false_ne_true
    exact (determined_decodePayload hunknown ih).map (Value.enum (UInt32.ofNat discriminant))

theorem decode_append_of_ok {layout : Layout} {limits : Limits} {input : Bytes} {value : Value}
    {consumed : Nat} (h : layout.decode limits input = .ok (value, consumed)) (more : Bytes) :
    layout.decode limits (input ++ more) = .ok (value, consumed) := by
  obtain ⟨d, rfl, hd⟩ := decode_eq_ok_iff.mp h
  exact decode_eq_ok_iff.mpr ⟨d.extend more, rfl,
    ((determined_decodeAt layout _ _).ok hd).2 more⟩

theorem decode_append_of_error {layout : Layout} {limits : Limits} {input : Bytes} {e : CodecError}
    (h : layout.decode limits input = .error e) (he : ¬e.isTruncation) (more : Bytes) :
    layout.decode limits (input ++ more) = .error e :=
  decode_eq_error_iff.mpr
    ((determined_decodeAt layout _ _).error (decode_eq_error_iff.mp h) he more)

theorem consumed_le {layout : Layout} {limits : Limits} {input : Bytes} {value : Value}
    {consumed : Nat} (h : layout.decode limits input = .ok (value, consumed)) :
    consumed ≤ input.length := by
  obtain ⟨d, rfl, hd⟩ := decode_eq_ok_iff.mp h
  obtain ⟨bs, hadv⟩ := ((determined_decodeAt layout _ _).ok hd).1
  have hoffset : d.offset = 0 + bs.length := hadv.offset
  have hlength : input.length = bs.length + d.remaining := hadv.remaining
  omega

/-- A value is read from all of its bytes: without the last of them the input is truncated. -/
theorem decode_take_of_ok {layout : Layout} {limits : Limits} {input : Bytes} {value : Value}
    {consumed : Nat} (h : layout.decode limits input = .ok (value, consumed)) {count : Nat}
    (hcount : count < consumed) : ∃ offset needed remaining,
      layout.decode limits (input.take count) =
        .error (.truncatedInput offset needed remaining) := by
  have hsplit := List.take_append_drop count input
  cases hr : layout.decode limits (input.take count) with
  | ok result =>
    have hle := consumed_le hr
    have h' := decode_append_of_ok hr (input.drop count)
    rw [hsplit, h] at h'
    cases h'
    rw [List.length_take] at hle
    omega
  | error e =>
    by_cases he : e.isTruncation
    · cases e with
      | truncatedInput offset needed remaining => exact ⟨offset, needed, remaining, rfl⟩
      | _ => cases he
    · have h' := decode_append_of_error hr he (input.drop count)
      rw [hsplit, h] at h'
      cases h'

theorem not_isTruncation {e : CodecError}
    (h : ∀ offset needed remaining, e ≠ .truncatedInput offset needed remaining) :
    ¬e.isTruncation := by
  cases e with
  | truncatedInput offset needed remaining => exact absurd rfl (h offset needed remaining)
  | _ => exact Bool.false_ne_true

/-- Bytes after those that were read change nothing. Where the input ended too early, the error says
at which offset, how many bytes were needed there and how many remained: every longer input that
still has too few fails likewise, and one with enough gets past them. -/
theorem decode_determined (layout : Layout) (limits : Limits) (input : Bytes) :
    (∀ value consumed, layout.decode limits input = .ok (value, consumed) →
      ∀ more, layout.decode limits (input ++ more) = .ok (value, consumed)) ∧
    (∀ e, layout.decode limits input = .error e →
      (∀ offset needed remaining, e ≠ .truncatedInput offset needed remaining) →
      ∀ more, layout.decode limits (input ++ more) = .error e) ∧
    (∀ offset needed remaining,
      layout.decode limits input = .error (.truncatedInput offset needed remaining) →
      offset + remaining = input.length ∧ remaining < needed ∧
      (∀ more : Bytes, more.length < needed - remaining →
        layout.decode limits (input ++ more) =
          .error (.truncatedInput offset needed (remaining + more.length))) ∧
      (∀ more : Bytes, needed - remaining ≤ more.length → ∀ offset' needed' remaining',
        layout.decode limits (input ++ more) =
          .error (.truncatedInput offset' needed' remaining') → offset + needed ≤ offset')) ∧
    (∀ value consumed, layout.decode limits input = .ok (value, consumed) →
      ∀ count < consumed, ∃ offset needed remaining,
        layout.decode limits (input.take count) =
          .error (.truncatedInput offset needed remaining)) := by
  refine ⟨fun value consumed h => decode_append_of_ok h,
    fun e h he => decode_append_of_error h (not_isTruncation he), ?_,
    fun value consumed h count hcount => decode_take_of_ok h hcount⟩
  intro offset needed remaining h
  obtain ⟨-, htotal, hshort, hstill, hpast⟩ :=
    (determined_decodeAt layout _ _).truncated (decode_eq_error_iff.mp h)
  have htotal : offset + remaining = 0 + input.length := htotal
  refine ⟨by omega, hshort, fun more hm => decode_eq_error_iff.mpr (hstill more hm), ?_⟩
  intro more hm offset' needed' remaining' h'
  have hpast : Past (offset + needed) (layout.decodeAt limits.maxDepth limits.maxDepth
      (.start (input ++ more))) := hpast more hm
  rwa [decode_eq_error_iff.mp h'] at hpast

end Layout
end Determined
end WireSchema
