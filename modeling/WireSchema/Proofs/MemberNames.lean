import Mathlib.Data.Bool.AllAny
import WireSchema.Proofs.Words
import WireSchema.Table.ClientModule

/-!
The names of members in a client module. Main statement: whatever a field is called, there is
nothing in the name of its member that would end it, neither a quote nor a sign of equality.
-/

namespace WireSchema.Text

/-- Neither a quote nor a sign of equality. -/
def Unmarked (c : Char) : Prop :=
  c ≠ '\'' ∧ c ≠ '='

instance (c : Char) : Decidable (Unmarked c) :=
  inferInstanceAs (Decidable (_ ∧ _))

theorem unmarked_of_inWord {c : Char} (h : InWord c) : Unmarked c :=
  ⟨h.ne (by decide), h.ne (by decide)⟩

theorem unmarked_of_le {c : Char} (h : 0x3e ≤ c.toNat) : Unmarked c := by
  constructor
  · rintro rfl
    exact absurd h (by decide)
  · rintro rfl
    exact absurd h (by decide)

/-- Numbers that are no characters stand for the null character. -/
theorem unmarked_ofNat {n : Nat} (h : 0x3e ≤ n) : Unmarked (Char.ofNat n) := by
  by_cases hvalid : n.isValidChar
  · have htoNat : (Char.ofNat n).toNat = n := by
      rw [Char.ofNat, dif_pos hvalid]
      rfl
    apply unmarked_of_le
    rwa [htoNat]
  · have hnull : Char.ofNat n = Char.ofNat 0 := by
      rw [Char.ofNat, dif_neg hvalid]
      rfl
    rw [hnull]
    decide

section Mapping
variable {c : Char}

/-- Below 0x80 everything can be tried. -/
theorem forall_ascii (p : Char → Prop) (h : ∀ n < 0x80, p (Char.ofNat n)) (hc : c.toNat < 0x80) :
    p c := by
  have hall := h c.toNat hc
  rwa [Char.ofNat_toNat] at hall

theorem unmarked_mapCase {runs : List Property.CaseRun} {expansions : List (Nat × List Nat)}
    (hruns : ∀ run ∈ runs, 0x3e ≤ run.target)
    (hexpansions : ∀ entry ∈ expansions, ∀ n ∈ entry.2, 0x3e ≤ n)
    (hc : 0x80 ≤ c.toNat) : ∀ d ∈ mapCase runs expansions c, Unmarked d := by
  unfold mapCase
  split
  · rename_i ns hlookup
    obtain ⟨before, after, hentry, -⟩ := List.lookup_eq_some_iff.mp hlookup
    intro d hd
    obtain ⟨n, hn, rfl⟩ := List.mem_map.mp hd
    exact unmarked_ofNat (hexpansions (c.toNat, ns) (by simp [hentry]) n hn)
  · rw [List.forall_mem_singleton]
    cases hfound : runs.findSome? (·.map? c.toNat) with
    | none => exact unmarked_of_le (Nat.le_trans (by decide) hc)
    | some n =>
      obtain ⟨run, hrun, hmap⟩ := List.exists_of_findSome?_eq_some hfound
      unfold Property.CaseRun.map? at hmap
      split at hmap
      · obtain rfl := Option.some.inj hmap
        exact unmarked_ofNat (Nat.le_add_right_of_le (hruns run hrun))
      · cases hmap

theorem unmarked_toLower (h : isAlphanumeric c) : ∀ d ∈ toLower c, Unmarked d := by
  unfold toLower
  split
  · rename_i hascii
    simp only [isAlphanumeric, hascii, if_true] at h
    rw [List.forall_mem_singleton]
    exact forall_ascii (fun c => c.isAlphanum → Unmarked (c.toLower)) (by decide +kernel) hascii h
  · rename_i hascii
    exact unmarked_mapCase (by decide +kernel) (by decide +kernel) (Nat.le_of_not_lt hascii)

theorem unmarked_toUpper (h : isAlphanumeric c) : ∀ d ∈ toUpper c, Unmarked d := by
  unfold toUpper
  split
  · rename_i hascii
    simp only [isAlphanumeric, hascii, if_true] at h
    rw [List.forall_mem_singleton]
    exact forall_ascii (fun c => c.isAlphanum → Unmarked (c.toUpper)) (by decide +kernel) hascii h
  · rename_i hascii
    exact unmarked_mapCase (by decide +kernel) (by decide +kernel) (Nat.le_of_not_lt hascii)

end Mapping

theorem pieces_ne_nil (s : List Char) : pieces s ≠ [] := by
  cases s with
  | nil => exact List.cons_ne_nil _ _
  | cons c s =>
    unfold pieces
    split
    · exact List.cons_ne_nil _ _
    · split <;> exact List.cons_ne_nil _ _

/-- Pieces consist of letters and digits. -/
theorem isAlphanumeric_of_mem_pieces (s : List Char) :
    ∀ piece ∈ pieces s, ∀ c ∈ piece, isAlphanumeric c := by
  induction s with
  | nil => simp [pieces]
  | cons c s ih =>
    unfold pieces
    split
    · rename_i hnil
      exact absurd hnil (pieces_ne_nil s)
    · rename_i piece rest hpieces
      rw [hpieces, List.forall_mem_cons] at ih
      obtain ⟨hpiece, hrest⟩ := ih
      split
      · rename_i hc
        exact List.forall_mem_cons.mpr ⟨List.forall_mem_cons.mpr ⟨hc, hpiece⟩, hrest⟩
      · exact List.forall_mem_cons.mpr
          ⟨List.forall_mem_nil _, List.forall_mem_cons.mpr ⟨hpiece, hrest⟩⟩

/-- Nothing comes into a word that is not in the piece. -/
theorem forall_of_mem_splitHumps {p : Char → Prop} {hump : Hump} {word cs : List Char}
    (hword : ∀ c ∈ word, p c) (hcs : ∀ c ∈ cs, p c) :
    ∀ part ∈ splitHumps hump word cs, ∀ c ∈ part, p c := by
  fun_induction splitHumps hump word cs with
  | case1 hump word => exact List.forall_mem_nil _
  | case2 hump word c =>
    rw [List.forall_mem_singleton] at hcs ⊢
    intro d hd
    rcases List.mem_cons.mp (List.mem_reverse.mp hd) with rfl | hd
    · exact hcs
    · exact hword d hd
  | case3 hump word c next rest hcut ih =>
    obtain ⟨hc, hrest⟩ := List.forall_mem_cons.mp hcs
    rw [List.forall_mem_cons]
    refine ⟨?_, ih (List.forall_mem_nil _) hrest⟩
    intro d hd
    rcases List.mem_cons.mp (List.mem_reverse.mp hd) with rfl | hd
    · exact hc
    · exact hword d hd
  | case4 hump word c next rest hlow hcut ih =>
    obtain ⟨hc, hrest⟩ := List.forall_mem_cons.mp hcs
    rw [List.forall_mem_cons]
    refine ⟨?_, ih (List.forall_mem_singleton.mpr hc) hrest⟩
    intro d hd
    exact hword d (List.mem_reverse.mp hd)
  | case5 hump word c next rest hlow hcut ih =>
    obtain ⟨hc, hrest⟩ := List.forall_mem_cons.mp hcs
    exact ih (List.forall_mem_cons.mpr ⟨hc, hword⟩) hrest

theorem unmarked_lowerWord {word : List Char} (h : ∀ c ∈ word, isAlphanumeric c) :
    ∀ d ∈ lowerWord word, Unmarked d := by
  fun_induction lowerWord word with
  | case1 => exact List.forall_mem_nil _
  | case2 => exact List.forall_mem_singleton.mpr (by decide)
  | case3 c cs hsigma ih =>
    obtain ⟨hc, hcs⟩ := List.forall_mem_cons.mp h
    exact List.forall_mem_append.mpr ⟨unmarked_toLower hc, ih hcs⟩

theorem unmarked_capitalWord {word : List Char} (h : ∀ c ∈ word, isAlphanumeric c) :
    ∀ d ∈ capitalWord word, Unmarked d := by
  cases word with
  | nil => exact List.forall_mem_nil _
  | cons c cs =>
    obtain ⟨hc, hcs⟩ := List.forall_mem_cons.mp h
    exact List.forall_mem_append.mpr ⟨unmarked_toUpper hc, unmarked_lowerWord hcs⟩

theorem unmarked_lowerCamelCase (s : String) : ∀ d ∈ (lowerCamelCase s).toList, Unmarked d := by
  have hwords : ∀ word ∈ words s.toList, ∀ c ∈ word, isAlphanumeric c := by
    intro word hword
    obtain ⟨piece, hpiece, hpart⟩ := List.mem_flatMap.mp hword
    exact forall_of_mem_splitHumps (List.forall_mem_nil _)
      (isAlphanumeric_of_mem_pieces _ piece hpiece) word hpart
  rw [lowerCamelCase, String.toList_ofList]
  cases hall : words s.toList with
  | nil => exact List.forall_mem_nil _
  | cons word rest =>
    rw [hall, List.forall_mem_cons] at hwords
    rw [camelWords, List.forall_mem_append]
    refine ⟨unmarked_lowerWord hwords.1, ?_⟩
    intro d hd
    obtain ⟨later, hlater, hd⟩ := List.mem_flatMap.mp hd
    exact unmarked_capitalWord (hwords.2 later hlater) d hd

end WireSchema.Text

namespace WireSchema.ClientClass
open Text

theorem toList_ofPosition_name (position : Nat) (layout : Layout) :
    (ClientMember.ofPosition position layout).name.toList =
      "unnamed_".toList ++ digits position := by
  simp [ClientMember.ofPosition, ClientMember.ofLayout, digits, toString]

theorem unmarked_ofPosition (position : Nat) (layout : Layout) :
    ∀ d ∈ (ClientMember.ofPosition position layout).name.toList, Unmarked d := by
  rw [toList_ofPosition_name, List.forall_mem_append]
  exact ⟨List.all_iff_forall_prop.mp (by decide), fun d hd =>
    unmarked_of_inWord (inWord_of_mem_digits hd)⟩

/-- All members have names that the text of the module can be read past. -/
def Unmarked (c : ClientClass) : Prop :=
  ∀ m ∈ c.members, ∀ d ∈ m.name.toList, Text.Unmarked d

theorem unmarked_ofLayout (name : String) (layout : Layout) : (ofLayout name layout).Unmarked := by
  intro m hm
  cases layout with
  | struct typeName fields =>
    obtain ⟨field, -, rfl⟩ := List.mem_map.mp hm
    exact unmarked_lowerCamelCase field.1
  | tuple typeName members =>
    obtain ⟨position, hposition, rfl⟩ := List.mem_mapIdx.mp hm
    exact unmarked_ofPosition position _
  | _ =>
    obtain rfl := List.mem_singleton.mp hm
    exact unmarked_ofPosition 0 _

theorem unmarked_ofEntry (entry : String × Layout) : ∀ c ∈ ofEntry entry, c.Unmarked := by
  obtain ⟨name, layout⟩ := entry
  intro c hc
  cases layout with
  | enum typeName variants tag =>
    rcases List.mem_cons.mp hc with rfl | hc
    · intro m hm
      obtain ⟨variant, -, rfl⟩ := List.mem_map.mp hm
      exact unmarked_lowerCamelCase _
    · obtain ⟨variant, -, rfl⟩ := List.mem_map.mp hc
      exact unmarked_ofLayout _ variant.2
  | _ =>
    obtain rfl := List.mem_singleton.mp hc
    exact unmarked_ofLayout name _

end WireSchema.ClientClass
