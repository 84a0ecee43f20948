import WireSchema.Layout

/-!
Equality of layouts is decidable.
-/

namespace WireSchema.Layout

mutual

def beq : Layout → Layout → Bool
  | .primitive n k, .primitive n' k' => n == n' && k == k'
  | .array n e l, .array n' e' l' => n == n' && beq e e' && l == l'
  | .sequence n e b, .sequence n' e' b' => n == n' && beq e e' && b == b'
  | .map n k v b, .map n' k' v' b' => n == n' && beq k k' && beq v v' && b == b'
  | .option n i, .option n' i' => n == n' && beq i i'
  | .struct n fs, .struct n' fs' => n == n' && beqFields fs fs'
  | .tuple n ms, .tuple n' ms' => n == n' && beqMembers ms ms'
  | .enum n vs t, .enum n' vs' t' => n == n' && beqFields vs vs' && t == t'
  | _, _ => false

def beqFields : List (String × Layout) → List (String × Layout) → Bool
  | [], [] => true
  | (n, l) :: fs, (n', l') :: fs' => n == n' && beq l l' && beqFields fs fs'
  | _, _ => false

def beqMembers : List Layout → List Layout → Bool
  | [], [] => true
  | l :: ms, l' :: ms' => beq l l' && beqMembers ms ms'
  | _, _ => false

end

private theorem beqFields_iff {fs gs : List (String × Layout)}
    (h : ∀ f ∈ fs, ∀ l, beq f.2 l ↔ f.2 = l) : beqFields fs gs ↔ fs = gs := by
  induction fs generalizing gs with
  | nil => cases gs <;> simp [beqFields]
  | cons f fs ih =>
    obtain ⟨n, l⟩ := f
    cases gs with
    | nil => simp [beqFields]
    | cons g gs =>
      obtain ⟨n', l'⟩ := g
      have hl := h (n, l) List.mem_cons_self l'
      have hfs : beqFields fs gs ↔ fs = gs :=
        ih fun f hf => h f (List.mem_cons_of_mem _ hf)
      simp [beqFields, hl, hfs]

private theorem beqMembers_iff {ms ns : List Layout} (h : ∀ m ∈ ms, ∀ l, beq m l ↔ m = l) :
    beqMembers ms ns ↔ ms = ns := by
  induction ms generalizing ns with
  | nil => cases ns <;> simp [beqMembers]
  | cons m ms ih =>
    cases ns with
    | nil => simp [beqMembers]
    | cons n ns =>
      have hm := h m List.mem_cons_self n
      have hms : beqMembers ms ns ↔ ms = ns :=
        ih fun m hm => h m (List.mem_cons_of_mem _ hm)
      simp [beqMembers, hm, hms]

theorem beq_iff (a b : Layout) : beq a b ↔ a = b := by
  induction a generalizing b with
  | primitive n k => cases b <;> simp [beq]
  | array n e l he => cases b <;> simp [beq, he, and_assoc]
  | sequence n e m he => cases b <;> simp [beq, he, and_assoc]
  | map n k v m hk hv => cases b <;> simp [beq, hk, hv, and_assoc]
  | option n i hi => cases b <;> simp [beq, hi]
  | struct n fs hfs => cases b <;> simp [beq, beqFields_iff hfs]
  | tuple n ms hms => cases b <;> simp [beq, beqMembers_iff hms]
  | enum n vs t hvs => cases b <;> simp [beq, beqFields_iff hvs, and_assoc]

instance : DecidableEq Layout := fun a b => decidable_of_iff _ (beq_iff a b)

end WireSchema.Layout
