import WireSchema.Codec.Limits

/-!
Steps that may fail. Main statement: a sequence of two steps succeeds exactly when the first does
and the second does on what the first yields.
-/

namespace WireSchema

section Steps
variable {ε α β : Type}

theorem bind_eq_ok_iff {x : Except ε α} {f : α → Except ε β} {b : β} :
    (x >>= f) = .ok b ↔ ∃ a, x = .ok a ∧ f a = .ok b := by
  cases x with
  | error e => simp [bind, Except.bind]
  | ok a => simp [bind, Except.bind]

theorem bind_eq_error_iff {x : Except ε α} {f : α → Except ε β} {e : ε} :
    (x >>= f) = .error e ↔ x = .error e ∨ ∃ a, x = .ok a ∧ f a = .error e := by
  cases x with
  | error e => simp [bind, Except.bind]
  | ok a => simp [bind, Except.bind]

theorem ok_bind (a : α) (f : α → Except ε β) : ((.ok a : Except ε α) >>= f) = f a :=
  rfl

theorem error_bind (e : ε) (f : α → Except ε β) : ((.error e : Except ε α) >>= f) = .error e :=
  rfl

theorem pure_eq_ok (a : α) : (pure a : Except ε α) = .ok a :=
  rfl

theorem liftM_eq (result : Except ε α) : (liftM result : Except ε α) = result :=
  rfl

theorem mapError_eq_ok_iff {ε' : Type} {x : Except ε α} {f : ε → ε'} {a : α} :
    x.mapError f = .ok a ↔ x = .ok a := by
  cases x with
  | error e => constructor <;> intro h <;> cases h
  | ok b => constructor <;> intro h <;> cases h <;> rfl

/-- The result of a step can be compared where its errors cannot. -/
theorem eq_ok_of_toOption {x : Except ε α} {a : α} (h : x.toOption = some a) : x = .ok a := by
  cases x with
  | error e => cases h
  | ok b => exact congrArg _ (Option.some.inj h)

end Steps

theorem ensure_eq_ok_iff {p : Prop} [Decidable p] {error : CodecError} {u : Unit} :
    ensure p error = .ok u ↔ p := by
  by_cases h : p <;> simp [ensure, h]

/-- A length that the bound of a layout admits. -/
def Within (bound : Option UInt64) (length : Nat) : Prop :=
  ∀ max, bound = some max → length ≤ max.toNat

theorem checkBound_eq_ok_iff {offset length : Nat} {bound : Option UInt64} {u : Unit} :
    checkBound offset length bound = .ok u ↔ Within bound length := by
  cases bound with
  | none => simp [checkBound, Within]
  | some max => simp [checkBound, Within, ensure_eq_ok_iff]

theorem checkKey_eq_ok_iff {offset : Nat} {ks : Bytes} {seen : List Bytes} {u : Unit} :
    checkKey offset ks seen = .ok u ↔ ks ∉ seen :=
  ensure_eq_ok_iff

theorem descend_zero (limit : Nat) : descend limit 0 = .error (.depthLimitExceeded limit) :=
  rfl

theorem descend_succ (limit room : Nat) : descend limit (room + 1) = .ok room :=
  rfl

end WireSchema
