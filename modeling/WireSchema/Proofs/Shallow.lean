import WireSchema.Codec.Variant
import WireSchema.Proofs.Advance

/-!
Steps that know of no levels. Main statement: no read and no write of a primitive, of a length or of
a tag fails for want of levels.
-/

namespace WireSchema

def CodecError.isTooDeep : CodecError → Bool
  | .depthLimitExceeded _ => true
  | _ => false

/-- No level was missing. -/
def Shallow {α : Type} (result : Except CodecError α) : Prop :=
  ∀ e, result = .error e → ¬e.isTooDeep

section Shallow
variable {α β : Type}

theorem shallow_ok (a : α) : Shallow (.ok a) := by
  intro e herror
  cases herror

theorem shallow_error {e : CodecError} (h : ¬e.isTooDeep) :
    Shallow (.error e : Except CodecError α) := by
  intro e' herror
  cases herror
  exact h

theorem Shallow.bind {step : Except CodecError α} {next : α → Except CodecError β}
    (h : Shallow step) (hnext : ∀ a, Shallow (next a)) : Shallow (step >>= next) := by
  intro e herror
  rcases bind_eq_error_iff.mp herror with hstep | ⟨a, -, ha⟩
  · exact h e hstep
  · exact hnext a e ha

theorem Shallow.ite {p : Prop} [Decidable p] {result other : Except CodecError α}
    (h : Shallow result) (hother : Shallow other) : Shallow (if p then result else other) := by
  split
  · exact h
  · exact hother

theorem shallow_ensure {p : Prop} [Decidable p] {e : CodecError} (h : ¬e.isTooDeep) :
    Shallow (ensure p e) :=
  (shallow_ok ()).ite (shallow_error h)

theorem shallow_checkBound (offset length : Nat) (bound : Option UInt64) :
    Shallow (checkBound offset length bound) := by
  cases bound with
  | none => exact shallow_ok ()
  | some max => exact shallow_ensure Bool.false_ne_true

theorem shallow_encodeLength (offset length : Nat) (bound : Option UInt64) :
    Shallow (encodeLength offset length bound) := by
  refine (shallow_checkBound offset length bound).bind fun _ => ?_
  have hfits : Shallow (ensure (length < UInt32.size)
      (.boundExceeded offset length (UInt32.size - 1))) :=
    shallow_ensure Bool.false_ne_true
  exact hfits.bind fun _ => shallow_ok _

theorem shallow_encodeFixed (offset width : Nat) (bs : Bytes) :
    Shallow (encodeFixed offset width bs) :=
  (shallow_ok bs).ite (shallow_error Bool.false_ne_true)

theorem shallow_kindMismatch (layout : Layout) (value : Value) :
    Shallow (.error (kindMismatch layout value) : Except CodecError α) :=
  shallow_error Bool.false_ne_true

theorem shallow_encodePrimitive (offset : Nat) (layout : Layout) (kind : Primitive)
    (value : Value) : Shallow (encodePrimitive offset layout kind value) := by
  unfold encodePrimitive
  split
  · exact shallow_ok _
  · exact (shallow_ok _).ite (shallow_kindMismatch layout _)
  · exact (shallow_encodeLength offset _ _).bind fun _ => shallow_ok _
  · exact shallow_encodeFixed offset _ _
  · exact shallow_encodeFixed offset _ _
  · exact shallow_kindMismatch layout _

theorem shallow_readBytes (c : Cursor) (count : Nat) : Shallow (c.readBytes count) := by
  intro e herror
  obtain ⟨-, rfl⟩ := Cursor.readBytes_eq_error_iff.mp herror
  exact Bool.false_ne_true

theorem shallow_readByte (c : Cursor) : Shallow c.readByte := by
  unfold Cursor.readByte
  split
  · exact shallow_error Bool.false_ne_true
  · exact shallow_ok _

theorem shallow_readNat (c : Cursor) (width : Nat) : Shallow (c.readNat width) :=
  (shallow_readBytes c width).bind fun _ => shallow_ok _

theorem shallow_readInt (c : Cursor) (kind : IntKind) : Shallow (c.readInt kind) := by
  rw [Cursor.readInt_eq]
  exact (shallow_readBytes c kind.size).bind fun _ => shallow_ok _

theorem shallow_decodeLength (bound : Option UInt64) (c : Cursor) :
    Shallow (decodeLength bound c) := by
  refine (shallow_readNat c lengthWidth).bind fun length => ?_
  exact (shallow_checkBound c.offset length.1 bound).bind fun _ => shallow_ok _

theorem shallow_decodePrimitive (kind : Primitive) (c : Cursor) :
    Shallow (decodePrimitive kind c) := by
  cases kind with
  | bool =>
    refine (shallow_readByte c).bind fun byte => ?_
    dsimp only
    split
    · exact shallow_ok _
    · exact shallow_ok _
    · exact shallow_error Bool.false_ne_true
  | int kind => exact (shallow_readInt c kind).bind fun _ => shallow_ok _
  | string bound =>
    refine (shallow_decodeLength bound c).bind fun length => ?_
    refine (shallow_readBytes length.2 length.1).bind fun text => ?_
    dsimp only
    split
    · exact shallow_ok _
    · exact shallow_error Bool.false_ne_true
  | fixedBytes width => exact (shallow_readBytes c width.toNat).bind fun _ => shallow_ok _
  | publicKey => exact (shallow_readBytes c _).bind fun _ => shallow_ok _

end Shallow

end WireSchema
