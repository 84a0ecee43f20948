/-!
Decimal numbers in text. Main statement: the digits of a number are read back as that number.
-/

namespace WireSchema.Text

def digits (n : Nat) : List Char :=
  Nat.toDigits 10 n

theorem toList_toString (n : Nat) : (toString n).toList = digits n := by
  simp [digits]

/-- One or more ASCII digits and nothing else. -/
def readNat? (s : List Char) : Option Nat :=
  if s.isEmpty || !s.all Char.isDigit then none else some (Nat.ofDigitChars 10 s 0)

theorem readNat?_eq_some {s : List Char} {n : Nat} (h : readNat? s = some n) :
    s ≠ [] ∧ (∀ c ∈ s, c.isDigit) ∧ Nat.ofDigitChars 10 s 0 = n := by
  simp only [readNat?, Option.ite_none_left_eq_some, Bool.or_eq_true, not_or] at h
  obtain ⟨⟨hne, hall⟩, hn⟩ := h
  exact ⟨by simpa using hne, by simpa using hall, by simpa using hn⟩

theorem readNat?_digits (n : Nat) : readNat? (digits n) = some n := by
  have hne : (digits n).isEmpty = false := by
    simp [digits, Nat.toDigits_ne_nil]
  have hall : (digits n).all Char.isDigit = true := by
    rw [List.all_eq_true]
    exact fun c hc => Nat.isDigit_of_mem_toDigits (by decide) (by decide) hc
  rw [readNat?, hne, hall]
  simp [digits, Nat.ofDigitChars_ten_toDigits]

theorem eq_of_digits_eq {n m : Nat} (h : digits n = digits m) : n = m := by
  have hread := congrArg readNat? h
  rw [readNat?_digits, readNat?_digits] at hread
  exact Option.some.inj hread

/-- A number below `2 ^ 64`, with an optional plus sign. -/
def readUInt64? (s : List Char) : Option UInt64 := do
  let n ← readNat? (match s with | '+' :: rest => rest | _ => s)
  if n < UInt64.size then some (UInt64.ofNat n) else none

end WireSchema.Text
