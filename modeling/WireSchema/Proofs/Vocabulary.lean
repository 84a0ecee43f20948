import Mathlib.Data.List.TakeWhile
import WireSchema.Primitive
import WireSchema.Proofs.Tokens

/-!
The names of primitives. Main statement: the canonical name of a primitive is read as that
primitive, so that only strings of different bounds have one name.
-/

namespace WireSchema.Primitive
open Text

/-- The name shows the whole primitive. -/
def Shown (kind : Primitive) : Prop :=
  ∀ max, kind ≠ .string (some max)

theorem shown_or_bounded (kind : Primitive) : kind.Shown ∨ ∃ max, kind = .string (some max) := by
  by_cases h : ∃ max, kind = .string (some max)
  · exact .inr h
  · exact .inl fun max hmax => h ⟨max, hmax⟩

theorem toList_name_fixedBytes (width : UInt64) :
    (fixedBytes width).name.toList = '[' :: (digits width.toNat ++ [']']) := by
  have hopen : (toString "[").toList = ['['] := rfl
  have hclose : (toString "]").toList = [']'] := rfl
  simp [name, digits, hopen, hclose]

theorem trim_digits (n : Nat) : trim (digits n) = digits n := by
  have hblank : ∀ c ∈ digits n, ¬isBlank c := by
    intro c hc
    simp [Token.isBlank_eq_false (inWord_of_mem_digits hc)]
  have hstart : trimStart (digits n) = digits n :=
    List.dropWhile_eq_self_iff.mpr fun _ => hblank _ (List.getElem_mem _)
  have hend : (digits n).reverse.dropWhile isBlank = (digits n).reverse :=
    List.dropWhile_eq_self_iff.mpr fun _ => hblank _ (List.mem_reverse.mp (List.getElem_mem _))
  rw [trim, hstart, trimEnd, hend, List.reverse_reverse]

theorem readUInt64?_digits (n : UInt64) : readUInt64? (digits n.toNat) = some n := by
  have hread : readNat? (digits n.toNat) = some n.toNat := readNat?_digits n.toNat
  unfold readUInt64?
  split
  · rename_i rest heq
    have hplus : '+' ∈ digits n.toNat := by
      rw [heq]
      exact List.mem_cons_self
    cases isDigit_of_mem_digits hplus
  · simp [hread, n.toNat_lt_size]

theorem eq_of_unbracket? {s inner : List Char} (h : unbracket? s = some inner) :
    s = '[' :: (inner ++ [']']) := by
  unfold unbracket? at h
  split at h
  · split at h
    · rename_i heq
      have hrest := congrArg List.reverse heq
      cases h
      simpa using hrest
    · cases h
  · cases h

theorem ofBrackets?_name (width : UInt64) :
    ofBrackets? (fixedBytes width).name.toList = some (fixedBytes width) := by
  have hinner : unbracket? (fixedBytes width).name.toList = some (digits width.toNat) := by
    rw [toList_name_fixedBytes]
    simp [unbracket?]
  have hwhole : (digits width.toNat).dropWhile (· != ';') = [] := by
    rw [List.dropWhile_eq_nil_iff]
    intro c hc
    have hne : c ≠ ';' := (inWord_of_mem_digits hc).ne (by decide)
    simpa using hne
  simp [ofBrackets?, hinner, trim_digits, hwhole, readUInt64?_digits]

theorem ofWord?_bracket (body : List Char) : ofWord? (String.ofList ('[' :: body)) = none := by
  have hwords : ∀ word ∈ words, word.1.toList.head? ≠ some '[' := by decide
  unfold ofWord?
  rw [List.lookup_eq_none_iff]
  intro word hword
  have hne := hwords word hword
  rw [bne_iff_ne]
  intro heq
  simp [← heq] at hne

/-- The bare words may stand for themselves in a text. -/
theorem word_of_mem_words {entry : String × Primitive} (h : entry ∈ words) :
    isWord entry.1.toList ∧ entry.1 ∉ Word.reserved ∧ isName entry.1 := by
  have hall : ∀ entry ∈ words,
      isWord entry.1.toList ∧ entry.1 ∉ Word.reserved ∧ isName entry.1 := by
    decide
  exact hall entry h

theorem ofText?_of_mem_words {entry : String × Primitive} (h : entry ∈ words) :
    ofText? entry.1 = some entry.2 := by
  have hall : ∀ entry ∈ words, ofText? entry.1 = some entry.2 := by decide
  exact hall entry h

theorem ofText?_name {kind : Primitive} (h : kind.Shown) : ofText? kind.name = some kind := by
  cases kind with
  | bool => decide
  | int kind => cases kind <;> decide
  | string bound =>
    cases bound with
    | none => decide
    | some max => exact absurd rfl (h max)
  | fixedBytes width =>
    have htrim : trim (fixedBytes width).name.toList = (fixedBytes width).name.toList := by
      rw [toList_name_fixedBytes, TypeExpr.trim_bracket]
    have hword : ofWord? (String.ofList (fixedBytes width).name.toList) = none := by
      rw [toList_name_fixedBytes, ofWord?_bracket]
    simp only [ofText?, htrim, hword, ofBrackets?_name, Option.none_or]
  | publicKey => decide

theorem eq_of_name_eq {kind kind' : Primitive} (h : kind.Shown) (h' : kind'.Shown)
    (hname : kind.name = kind'.name) : kind = kind' := by
  have hread := ofText?_name h
  rw [hname, ofText?_name h'] at hread
  exact (Option.some.inj hread).symm

end WireSchema.Primitive
