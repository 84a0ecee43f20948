import WireSchema.Grammar.Form
import WireSchema.Text.Decimal

/-!
The characters of words. Main statement: a name consists of such characters, and of a hash if it is
raw.
-/

namespace WireSchema
open Text

/-- A character of a word. -/
def InWord (c : Char) : Prop :=
  isIdentStart c ∨ isIdentContinue c

instance (c : Char) : Decidable (InWord c) :=
  inferInstanceAs (Decidable (_ ∨ _))

theorem InWord.ne {c d : Char} (hc : InWord c) (hd : ¬InWord d) : c ≠ d :=
  fun h => hd (h ▸ hc)

theorem inWord_of_isWord {s : List Char} (h : isWord s) : ∀ c ∈ s, InWord c := by
  cases s with
  | nil => simp
  | cons first rest =>
    simp only [isWord, Bool.and_eq_true, List.all_eq_true] at h
    intro c hc
    rcases List.mem_cons.mp hc with rfl | hc
    · exact .inl h.1
    · exact .inr (h.2 c hc)

theorem isWord_of_mem_pathWords {text : String} (h : text ∈ pathWords) : isWord text.toList := by
  have hall : ∀ text ∈ pathWords, isWord text.toList := by decide
  exact hall text h

theorem Name.toList_raw (word : Word) (free : word.text ∉ Word.neverRaw) :
    (Name.raw word free).text.toList = 'r' :: '#' :: word.text.toList := by
  simp [Name.text]

/-- A raw word has a hash in it. -/
theorem PathWord.inWord (word : PathWord) : ∀ c ∈ word.text.toList, InWord c ∨ c = '#' := by
  intro c hc
  cases word with
  | name own =>
    cases own with
    | plain word free => exact .inl (inWord_of_isWord word.spelled c hc)
    | raw word free =>
      rw [PathWord.text, Name.toList_raw, List.mem_cons, List.mem_cons] at hc
      rcases hc with rfl | rfl | hc
      · exact .inl (by decide)
      · exact .inr rfl
      · exact .inl (inWord_of_isWord word.spelled c hc)
  | reserved text allowed =>
    exact .inl (inWord_of_isWord (isWord_of_mem_pathWords allowed) c hc)

/-- Any of the words begins like a plain one. -/
theorem PathWord.exists_cons (word : PathWord) :
    ∃ c rest, word.text.toList = c :: rest ∧ isIdentStart c := by
  have plain {s : List Char} (h : isWord s) : ∃ c rest, s = c :: rest ∧ isIdentStart c := by
    cases s with
    | nil => simp [isWord] at h
    | cons c rest =>
      simp only [isWord, Bool.and_eq_true] at h
      exact ⟨c, rest, rfl, h.1⟩
  cases word with
  | name own =>
    cases own with
    | plain word free => exact plain word.spelled
    | raw word free => exact ⟨'r', _, Name.toList_raw word free, by decide⟩
  | reserved text allowed => exact plain (isWord_of_mem_pathWords allowed)

theorem toNat_of_isDigit {c : Char} (h : c.isDigit) : 48 ≤ c.toNat ∧ c.toNat ≤ 57 := by
  simp only [Char.isDigit, Bool.and_eq_true, decide_eq_true_eq] at h
  exact h

theorem inWord_of_isDigit {c : Char} (h : c.isDigit) : InWord c := by
  obtain ⟨-, hhigh⟩ := toNat_of_isDigit h
  have hascii : c.toNat < 0x80 := by omega
  right
  simp [isIdentContinue, hascii, Char.isAlphanum, h]

theorem isDigit_of_mem_digits {n : Nat} {c : Char} (h : c ∈ digits n) : c.isDigit :=
  Nat.isDigit_of_mem_toDigits (by decide) (by decide) h

theorem inWord_of_mem_digits {n : Nat} {c : Char} (h : c ∈ digits n) : InWord c :=
  inWord_of_isDigit (isDigit_of_mem_digits h)

end WireSchema
