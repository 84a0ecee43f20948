import WireSchema.Text.CharSet

/-!
Blanks are the characters with the property White_Space. Trimming removes them at both ends.
-/

namespace WireSchema.Text

def blanks : CharSet :=
  ⟨[0x9, 0xe, 0x20, 0x21, 0x85, 0x86, 0xa0, 0xa1, 0x1680, 0x1681, 0x2000, 0x200b, 0x2028, 0x202a,
    0x202f, 0x2030, 0x205f, 0x2060, 0x3000, 0x3001]⟩

def isBlank (c : Char) : Bool :=
  blanks.contains c

def trimStart (s : List Char) : List Char :=
  s.dropWhile isBlank

def trimEnd (s : List Char) : List Char :=
  (s.reverse.dropWhile isBlank).reverse

def trim (s : List Char) : List Char :=
  trimEnd (trimStart s)

theorem trim_split (s : List Char) : ∃ before after, s = before ++ (trim s ++ after) ∧
    (∀ c ∈ before, isBlank c) ∧ (∀ c ∈ after, isBlank c) := by
  have hblank (s : List Char) : ∀ c ∈ s.takeWhile isBlank, isBlank c :=
    List.all_eq_true.mp List.all_takeWhile
  have hend : trim s ++ ((trimStart s).reverse.takeWhile isBlank).reverse = trimStart s := by
    rw [trim, trimEnd, ← List.reverse_append, List.takeWhile_append_dropWhile, List.reverse_reverse]
  refine ⟨s.takeWhile isBlank, ((trimStart s).reverse.takeWhile isBlank).reverse, ?_, hblank s,
    fun c hc => hblank _ c (List.mem_reverse.mp hc)⟩
  rw [hend, trimStart, List.takeWhile_append_dropWhile]

theorem mem_trim_iff {c : Char} (s : List Char) (h : ¬isBlank c) : c ∈ trim s ↔ c ∈ s := by
  obtain ⟨before, after, hs, hbefore, hafter⟩ := trim_split s
  have hnot {gap : List Char} (hgap : ∀ d ∈ gap, isBlank d) : c ∉ gap := fun hc => h (hgap c hc)
  constructor
  · intro hc
    rw [hs]
    simp [hc]
  · intro hc
    rw [hs] at hc
    simpa [hnot hbefore, hnot hafter] using hc

end WireSchema.Text
