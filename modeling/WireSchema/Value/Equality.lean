import WireSchema.Value

/-!
Equality of values is decidable.
-/

namespace WireSchema.Value

def beqInt (kind : IntKind) (word : kind.Word) (kind' : IntKind) (word' : kind'.Word) : Bool :=
  kind == kind' && word.toNat == word'.toNat

theorem beqInt_iff {kind kind' : IntKind} {word : kind.Word} {word' : kind'.Word} :
    beqInt kind word kind' word' ↔ Value.int kind word = Value.int kind' word' := by
  rw [Value.int.injEq]
  simp only [beqInt, Bool.and_eq_true, beq_iff_eq]
  constructor
  · rintro ⟨rfl, h⟩
    exact ⟨rfl, heq_of_eq (BitVec.eq_of_toNat_eq h)⟩
  · rintro ⟨rfl, h⟩
    exact ⟨rfl, by rw [eq_of_heq h]⟩

mutual

def beq : Value → Value → Bool
  | .bool b, .bool b' => b == b'
  | .int k w, .int k' w' => beqInt k w k' w'
  | .string s, .string s' => s == s'
  | .bytes bs, .bytes bs' => bs == bs'
  | .array es, .array es' => beqItems es es'
  | .sequence es, .sequence es' => beqItems es es'
  | .map es, .map es' => beqEntries es es'
  | .absent, .absent => true
  | .present v, .present v' => beq v v'
  | .struct fs, .struct fs' => beqFields fs fs'
  | .tuple ms, .tuple ms' => beqItems ms ms'
  | .enum i v, .enum i' v' => i == i' && beq v v'
  | _, _ => false

def beqItems : List Value → List Value → Bool
  | [], [] => true
  | v :: vs, v' :: vs' => beq v v' && beqItems vs vs'
  | _, _ => false

def beqEntries : List (Value × Value) → List (Value × Value) → Bool
  | [], [] => true
  | (k, v) :: es, (k', v') :: es' => beq k k' && beq v v' && beqEntries es es'
  | _, _ => false

def beqFields : List (String × Value) → List (String × Value) → Bool
  | [], [] => true
  | (n, v) :: fs, (n', v') :: fs' => n == n' && beq v v' && beqFields fs fs'
  | _, _ => false

end

private theorem beqItems_iff {vs ws : List Value} (h : ∀ v ∈ vs, ∀ w, beq v w ↔ v = w) :
    beqItems vs ws ↔ vs = ws := by
  induction vs generalizing ws with
  | nil => cases ws <;> simp [beqItems]
  | cons v vs ih =>
    cases ws with
    | nil => simp [beqItems]
    | cons w ws =>
      have hv := h v List.mem_cons_self w
      have hvs : beqItems vs ws ↔ vs = ws := ih fun v hv => h v (List.mem_cons_of_mem _ hv)
      simp [beqItems, hv, hvs]

private theorem beqEntries_iff {es gs : List (Value × Value)}
    (h : ∀ e ∈ es, (∀ w, beq e.1 w ↔ e.1 = w) ∧ ∀ w, beq e.2 w ↔ e.2 = w) :
    beqEntries es gs ↔ es = gs := by
  induction es generalizing gs with
  | nil => cases gs <;> simp [beqEntries]
  | cons e es ih =>
    obtain ⟨k, v⟩ := e
    cases gs with
    | nil => simp [beqEntries]
    | cons g gs =>
      obtain ⟨k', v'⟩ := g
      have hk := (h (k, v) List.mem_cons_self).1 k'
      have hv := (h (k, v) List.mem_cons_self).2 v'
      have hes : beqEntries es gs ↔ es = gs :=
        ih fun e he => h e (List.mem_cons_of_mem _ he)
      simp [beqEntries, hk, hv, hes]

private theorem beqFields_iff {fs gs : List (String × Value)}
    (h : ∀ f ∈ fs, ∀ w, beq f.2 w ↔ f.2 = w) : beqFields fs gs ↔ fs = gs := by
  induction fs generalizing gs with
  | nil => cases gs <;> simp [beqFields]
  | cons f fs ih =>
    obtain ⟨n, v⟩ := f
    cases gs with
    | nil => simp [beqFields]
    | cons g gs =>
      obtain ⟨n', v'⟩ := g
      have hv := h (n, v) List.mem_cons_self v'
      have hfs : beqFields fs gs ↔ fs = gs :=
        ih fun f hf => h f (List.mem_cons_of_mem _ hf)
      simp [beqFields, hv, hfs]

theorem beq_iff (a b : Value) : beq a b ↔ a = b := by
  induction a generalizing b with
  | bool b => cases b <;> simp [beq]
  | int k w =>
    cases b with
    | int k' w' => rw [beq, beqInt_iff]
    | _ => simp [beq]
  | string s => cases b <;> simp [beq]
  | bytes bs => cases b <;> simp [beq]
  | array es h => cases b <;> simp [beq, beqItems_iff h]
  | sequence es h => cases b <;> simp [beq, beqItems_iff h]
  | map es h => cases b <;> simp [beq, beqEntries_iff h]
  | absent => cases b <;> simp [beq]
  | present v h => cases b <;> simp [beq, h]
  | struct fs h => cases b <;> simp [beq, beqFields_iff h]
  | tuple ms h => cases b <;> simp [beq, beqItems_iff h]
  | enum i v h => cases b <;> simp [beq, h]

instance : DecidableEq Value := fun a b => decidable_of_iff _ (beq_iff a b)

end WireSchema.Value
