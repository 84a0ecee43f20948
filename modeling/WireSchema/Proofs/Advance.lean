import WireSchema.Codec.Cursor
import WireSchema.Proofs.Outcome

/-!
How far a read moves a cursor. Main statement: a read of so many bytes succeeds exactly when they
are ahead, and moves the cursor over them.
-/

namespace WireSchema.Cursor

/-- Reading `bs` leads from the one cursor to the other. -/
def Advance (c : Cursor) (bs : Bytes) (d : Cursor) : Prop :=
  c.ahead = bs ++ d.ahead ∧ d.read = bs.reverse ++ c.read

variable {c d : Cursor} {bs : Bytes}

theorem Advance.eq (h : c.Advance bs d) :
    c = ⟨c.read, bs ++ d.ahead⟩ ∧ d = ⟨bs.reverse ++ c.read, d.ahead⟩ := by
  obtain ⟨ha, hr⟩ := h
  rw [← ha, ← hr]
  exact ⟨rfl, rfl⟩

theorem Advance.offset (h : c.Advance bs d) : d.offset = c.offset + bs.length := by
  simp [Cursor.offset, h.2, Nat.add_comm]

theorem Advance.since (h : c.Advance bs d) : d.since c.offset = bs := by
  obtain ⟨hc, hd⟩ := h.eq
  rw [hd]
  exact since_offset c.read bs d.ahead

@[simp] theorem advance_nil : c.Advance [] d ↔ d = c := by
  obtain ⟨r, a⟩ := c
  obtain ⟨r', a'⟩ := d
  simp [Advance, eq_comm, and_comm]

theorem advance_append {xs ys : Bytes} :
    c.Advance (xs ++ ys) d ↔ ∃ m, c.Advance xs m ∧ m.Advance ys d := by
  constructor
  · rintro ⟨ha, hr⟩
    exact ⟨⟨xs.reverse ++ c.read, ys ++ d.ahead⟩, ⟨by rw [ha, List.append_assoc], rfl⟩, rfl,
      by rw [hr, List.reverse_append, List.append_assoc]⟩
  · rintro ⟨m, ⟨ha, hr⟩, ha', hr'⟩
    exact ⟨by rw [ha, ha', List.append_assoc],
      by rw [hr', hr, List.reverse_append, List.append_assoc]⟩

theorem advance_cons {b : UInt8} :
    c.Advance (b :: bs) d ↔ ∃ m, c.Advance [b] m ∧ m.Advance bs d :=
  @advance_append c d [b] bs

/-- The bytes are ahead, or there are fewer. -/
theorem advance_or_remaining_lt (c : Cursor) (count : Nat) :
    (∃ bs d, bs.length = count ∧ c.Advance bs d) ∨ c.remaining < count := by
  rcases Nat.lt_or_ge c.remaining count with hlt | hle
  · exact .inr hlt
  · refine .inl ⟨c.ahead.take count, ⟨(c.ahead.take count).reverse ++ c.read, c.ahead.drop count⟩,
      List.length_take_of_le hle, ?_, rfl⟩
    exact (List.take_append_drop count c.ahead).symm

theorem take_of_advance (h : c.Advance bs d) : c.take bs.length = (.ok bs, d) := by
  obtain ⟨hc, hd⟩ := h.eq
  rw [hc, hd]
  exact take_append c.read bs d.ahead

theorem readBytes_of_advance (h : c.Advance bs d) : c.readBytes bs.length = .ok (bs, d) := by
  rw [readBytes, take_of_advance h, onward]

theorem readBytes_eq_ok_iff {count : Nat} :
    c.readBytes count = .ok (bs, d) ↔ bs.length = count ∧ c.Advance bs d := by
  constructor
  · intro h
    rcases advance_or_remaining_lt c count with ⟨bs', d', rfl, hadv⟩ | hlt
    · rw [readBytes_of_advance hadv] at h
      cases h
      exact ⟨rfl, hadv⟩
    · rw [readBytes_eq_error hlt] at h
      cases h
  · rintro ⟨rfl, h⟩
    exact readBytes_of_advance h

theorem readBytes_eq_error_iff {count : Nat} {e : CodecError} :
    c.readBytes count = .error e ↔
      c.remaining < count ∧ e = .truncatedInput c.offset count c.remaining := by
  constructor
  · intro h
    rcases advance_or_remaining_lt c count with ⟨bs, d, rfl, hadv⟩ | hlt
    · rw [readBytes_of_advance hadv] at h
      cases h
    · rw [readBytes_eq_error hlt] at h
      cases h
      exact ⟨hlt, rfl⟩
  · rintro ⟨h, rfl⟩
    exact readBytes_eq_error h

theorem readByte_eq_ok_iff {b : UInt8} : c.readByte = .ok (b, d) ↔ c.Advance [b] d := by
  obtain ⟨r, a⟩ := c
  obtain ⟨r', a'⟩ := d
  cases a with
  | nil => simp [readByte, Advance]
  | cons x a =>
    simp only [readByte, Advance, Except.ok.injEq, Prod.mk.injEq, Cursor.mk.injEq, List.cons_append,
      List.nil_append, List.cons.injEq, List.reverse_singleton]
    constructor
    · rintro ⟨rfl, rfl, rfl⟩
      exact ⟨⟨rfl, rfl⟩, rfl⟩
    · rintro ⟨⟨rfl, rfl⟩, rfl⟩
      exact ⟨rfl, rfl, rfl⟩

theorem readNat_eq_ok_iff {width n : Nat} :
    c.readNat width = .ok (n, d) ↔ n < Nat.pow 256 width ∧ c.Advance (Bytes.ofNatLE width n) d := by
  simp only [readNat, bind_eq_ok_iff, Prod.exists, readBytes_eq_ok_iff, pure_eq_ok, Except.ok.injEq,
    Prod.mk.injEq]
  constructor
  · rintro ⟨bs, _, ⟨rfl, h⟩, rfl, rfl⟩
    exact ⟨Bytes.toNatLE_lt bs, by rwa [Bytes.ofNatLE_toNatLE]⟩
  · rintro ⟨hn, h⟩
    exact ⟨_, d, ⟨Bytes.length_ofNatLE width n, h⟩,
      by rw [Bytes.toNatLE_ofNatLE, Nat.mod_eq_of_lt hn], rfl⟩

theorem readInt_eq_ok_iff {kind : IntKind} {word : kind.Word} :
    c.readInt kind = .ok (word, d) ↔ c.Advance (kind.toBytes word) d := by
  simp only [readInt_eq, bind_eq_ok_iff, Prod.exists, readBytes_eq_ok_iff, pure_eq_ok,
    Except.ok.injEq, Prod.mk.injEq]
  constructor
  · rintro ⟨bs, _, ⟨hl, h⟩, rfl, rfl⟩
    rwa [kind.toBytes_ofBytes hl]
  · intro h
    exact ⟨_, d, ⟨kind.length_toBytes word, h⟩, kind.ofBytes_toBytes word, rfl⟩

end WireSchema.Cursor
