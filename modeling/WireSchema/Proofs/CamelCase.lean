import Mathlib.Data.List.Basic
import WireSchema.Proofs.MemberNames

/-!
Camel case of the usual spellings of names: words with underscores between them, and capital words.
Main statement: among names of one of these spellings, no two have the same camel case.
-/

namespace WireSchema.Text

/-- A character that a word may go on with. -/
def isSmall (c : Char) : Bool :=
  c.isLower || c.isDigit

/-- A word of such characters, but for its first one. -/
def isWordFrom (first : Char → Bool) : List Char → Bool
  | [] => false
  | c :: cs => first c && cs.all isSmall

/-- Words with single underscores between them. Each one begins with a letter: the camel case of
`part_1` is that of `part1`. -/
def SnakeCase (s : String) : Prop :=
  ∃ (word : List Char) (rest : List (List Char)), isWordFrom Char.isLower word ∧
    (∀ later ∈ rest, isWordFrom Char.isLower later) ∧ s.toList = word ++ rest.flatMap ('_' :: ·)

/-- Capital words. All but the last one have a lower-case letter in them: the camel case of
`HTTPError` is that of `HttpError`. -/
inductive CapitalWords : List (List Char) → Prop
  | last {word} : isWordFrom Char.isUpper word → CapitalWords [word]
  | cons {word rest} : isWordFrom Char.isUpper word → word.any Char.isLower → CapitalWords rest →
      CapitalWords (word :: rest)

/-- Capital words with nothing between them. -/
def CapitalCase (s : String) : Prop :=
  ∃ words, CapitalWords words ∧ s.toList = words.flatten

theorem SnakeCase.word {s : String} (h : isWordFrom Char.isLower s.toList) : SnakeCase s :=
  ⟨s.toList, [], h, List.forall_mem_nil _, (List.append_nil _).symm⟩

theorem CapitalCase.word {s : String} (h : isWordFrom Char.isUpper s.toList) : CapitalCase s :=
  ⟨[s.toList], .last h, List.flatten_singleton.symm⟩

/-- The name of an enum before that of a variant. -/
theorem CapitalCase.append {s s' : String} (h : isWordFrom Char.isUpper s.toList)
    (hlow : s.toList.any Char.isLower) (h' : CapitalCase s') : CapitalCase (s ++ s') := by
  obtain ⟨words, hwords, hs'⟩ := h'
  refine ⟨s.toList :: words, .cons h hlow hwords, ?_⟩
  rw [String.toList_append, hs', List.flatten_cons]

section Ascii
variable {c : Char}

theorem ascii_of_isUpper (h : c.isUpper) : c.toNat < 0x80 := by
  have hle : c.val ≤ 'Z'.val := (of_decide_eq_true h).2
  exact Nat.lt_of_le_of_lt hle (by decide)

theorem ascii_of_isLower (h : c.isLower) : c.toNat < 0x80 := by
  have hle : c.val ≤ 'z'.val := of_decide_eq_true (Bool.and_eq_true_iff.mp h).2
  exact Nat.lt_of_le_of_lt hle (by decide)

theorem ascii_of_isSmall (h : isSmall c) : c.toNat < 0x80 := by
  rcases Bool.or_eq_true_iff.mp h with h | h
  · exact ascii_of_isLower h
  · exact Nat.lt_of_le_of_lt (toNat_of_isDigit h).2 (by decide)

theorem isSmall_of_isLower (h : c.isLower) : isSmall c := by
  rw [isSmall, h, Bool.true_or]

/-- Small characters stay as they are, and no word is cut before them. -/
theorem isSmall_spec (h : isSmall c) :
    isAlphanumeric c ∧ isUpper c = false ∧ c.isUpper = false ∧ c.toLower = c := by
  have hascii := ascii_of_isSmall h
  have hall := forall_ascii (fun c => isSmall c → c.isAlphanum ∧ c.isUpper = false ∧ c.toLower = c)
    (by decide +kernel) hascii
  obtain ⟨halphanum, hupper, hlower⟩ := hall h
  simp [isAlphanumeric, isUpper, hascii, halphanum, hupper, hlower]

/-- A lower-case letter goes through upper case and back. -/
theorem isLower_spec (h : c.isLower) :
    toUpper c = [c.toUpper] ∧ c.toUpper.isUpper ∧ c.toUpper.toLower = c := by
  have hascii := ascii_of_isLower h
  have hall := forall_ascii (fun c => c.isLower → c.toUpper.isUpper ∧ c.toUpper.toLower = c)
    (by decide +kernel) hascii
  obtain ⟨hupper, hback⟩ := hall h
  simp [toUpper, hascii, hupper, hback]

theorem isUpper_spec (h : c.isUpper) : isAlphanumeric c ∧ isUpper c ∧ isLower c = false ∧
    toUpper c = [c] ∧ c.toLower.toUpper = c := by
  have hascii := ascii_of_isUpper h
  have hall := forall_ascii (fun c => c.isUpper →
      c.isAlphanum ∧ c.isLower = false ∧ c.toUpper = c ∧ c.toLower.toUpper = c)
    (by decide +kernel) hascii
  obtain ⟨halphanum, hlower, hupper, hback⟩ := hall h
  simp [isAlphanumeric, isUpper, isLower, toUpper, hascii, halphanum, h, hlower, hupper, hback]

end Ascii

section Words
variable {word cs : List Char}

theorem exists_cons_of_isWordFrom {first : Char → Bool} (h : isWordFrom first word) :
    ∃ c cs, word = c :: cs ∧ first c ∧ ∀ d ∈ cs, isSmall d := by
  cases word with
  | nil => cases h
  | cons c cs =>
    rw [isWordFrom, Bool.and_eq_true, List.all_eq_true] at h
    exact ⟨c, cs, rfl, h⟩

theorem forall_of_isWordFrom {first p : Char → Bool} (h : isWordFrom first word)
    (hfirst : ∀ c, first c → p c) (hsmall : ∀ c, isSmall c → p c) : ∀ c ∈ word, p c := by
  obtain ⟨c, cs, rfl, hc, hcs⟩ := exists_cons_of_isWordFrom h
  exact List.forall_mem_cons.mpr ⟨hfirst c hc, fun d hd => hsmall d (hcs d hd)⟩

theorem forall_isSmall_of_isWordFrom (h : isWordFrom Char.isLower word) : ∀ c ∈ word, isSmall c :=
  forall_of_isWordFrom h (fun _ => isSmall_of_isLower) fun _ => id

theorem pieces_append {s piece : List Char} {rest : List (List Char)}
    (hword : ∀ c ∈ word, isAlphanumeric c) (hs : pieces s = piece :: rest) :
    pieces (word ++ s) = (word ++ piece) :: rest := by
  induction word with
  | nil => exact hs
  | cons c word ih =>
    obtain ⟨hc, hword⟩ := List.forall_mem_cons.mp hword
    rw [List.cons_append, pieces, ih hword]
    simp [hc]

theorem pieces_separated {separator : Char} {s : List Char} (h : isAlphanumeric separator = false) :
    pieces (separator :: s) = [] :: pieces s := by
  rw [pieces]
  cases hpieces : pieces s with
  | nil => exact absurd hpieces (pieces_ne_nil s)
  | cons piece rest => simp [h]

theorem pieces_words {rest : List (List Char)} (hword : ∀ c ∈ word, isAlphanumeric c)
    (hrest : ∀ later ∈ rest, ∀ c ∈ later, isAlphanumeric c) :
    pieces (word ++ rest.flatMap ('_' :: ·)) = word :: rest := by
  induction rest generalizing word with
  | nil =>
    have hpieces := pieces_append (s := []) hword rfl
    rw [List.append_nil] at hpieces
    rw [List.flatMap_nil, List.append_nil, hpieces]
  | cons later rest ih =>
    obtain ⟨hlater, hrest⟩ := List.forall_mem_cons.mp hrest
    have hpieces : pieces ((later :: rest).flatMap ('_' :: ·)) = [] :: later :: rest := by
      rw [List.flatMap_cons, List.cons_append, pieces_separated (by decide), ih hlater hrest]
    have hall := pieces_append hword hpieces
    rwa [List.append_nil] at hall

/-- There are no cuts but before capitals. -/
theorem splitHumps_small {hump : Hump} (hcs : ∀ c ∈ cs, isSmall c) (hne : cs ≠ []) :
    splitHumps hump word cs = [word.reverse ++ cs] := by
  fun_induction splitHumps hump word cs with
  | case1 hump word => exact absurd rfl hne
  | case2 hump word c => rw [List.reverse_cons]
  | case3 hump word c next rest hcut ih =>
    have hnext := (isSmall_spec (hcs next (by simp))).2.1
    exact absurd hcut.2 (by simp [hnext])
  | case4 hump word c next rest hlow hcut ih =>
    have hc := (isSmall_spec (hcs c (by simp))).2.1
    exact absurd hcut.2.1 (by simp [hc])
  | case5 hump word c next rest hlow hcut ih =>
    rw [ih (List.forall_mem_cons.mp hcs).2 (List.cons_ne_nil _ _), List.reverse_cons,
      List.append_assoc]
    rfl

theorem lowerWord_ascii (h : ∀ c ∈ word, c.toNat < 0x80) :
    lowerWord word = word.map (·.toLower) := by
  fun_induction lowerWord word with
  | case1 => rfl
  | case2 => exact absurd (h 'Σ' (List.mem_singleton_self _)) (by decide)
  | case3 c cs hsigma ih =>
    obtain ⟨hc, hcs⟩ := List.forall_mem_cons.mp h
    rw [ih hcs]
    simp [toLower, hc]

theorem lowerWord_small (h : ∀ c ∈ word, isSmall c) : lowerWord word = word := by
  rw [lowerWord_ascii fun c hc => ascii_of_isSmall (h c hc)]
  calc word.map (·.toLower) = word.map id :=
        List.map_congr_left fun c hc => (isSmall_spec (h c hc)).2.2.2
    _ = word := List.map_id word

end Words

section Snake

/-- Undoes camel case: a capital stands for an underscore and a small letter. -/
def snakeChar (c : Char) : List Char :=
  if c.isUpper then ['_', c.toLower] else [c]

theorem flatMap_snakeChar_small {cs : List Char} (h : ∀ c ∈ cs, isSmall c) :
    cs.flatMap snakeChar = cs := by
  induction cs with
  | nil => rfl
  | cons c cs ih =>
    obtain ⟨hc, hcs⟩ := List.forall_mem_cons.mp h
    rw [List.flatMap_cons, ih hcs]
    simp [snakeChar, (isSmall_spec hc).2.2.1]

theorem flatMap_snakeChar_capitalWord {word : List Char} (h : isWordFrom Char.isLower word) :
    (capitalWord word).flatMap snakeChar = '_' :: word := by
  obtain ⟨c, cs, rfl, hc, hcs⟩ := exists_cons_of_isWordFrom h
  obtain ⟨hupper, hcapital, hback⟩ := isLower_spec hc
  rw [capitalWord, hupper, lowerWord_small hcs, List.flatMap_append, flatMap_snakeChar_small hcs]
  simp [snakeChar, hcapital, hback]

theorem words_snake {word : List Char} {rest : List (List Char)}
    (hword : isWordFrom Char.isLower word) (hrest : ∀ later ∈ rest, isWordFrom Char.isLower later) :
    words (word ++ rest.flatMap ('_' :: ·)) = word :: rest := by
  have hall : ∀ part ∈ word :: rest, isWordFrom Char.isLower part :=
    List.forall_mem_cons.mpr ⟨hword, hrest⟩
  have halphanumeric : ∀ part, isWordFrom Char.isLower part → ∀ c ∈ part, isAlphanumeric c :=
    fun part h c hc => (isSmall_spec (forall_isSmall_of_isWordFrom h c hc)).1
  rw [words, pieces_words (halphanumeric word hword) fun later hlater =>
    halphanumeric later (hrest later hlater)]
  have hsplit : ∀ part ∈ word :: rest, splitHumps .fresh [] part = [part] := by
    intro part hpart
    have hsmall := forall_isSmall_of_isWordFrom (hall part hpart)
    obtain ⟨c, cs, rfl, -⟩ := exists_cons_of_isWordFrom (hall part hpart)
    exact splitHumps_small hsmall (List.cons_ne_nil _ _)
  rw [List.flatMap_congr hsplit, List.flatMap_singleton']

/-- The way back from camel case. -/
theorem flatMap_snakeChar_lowerCamelCase {s : String} (h : SnakeCase s) :
    (lowerCamelCase s).toList.flatMap snakeChar = s.toList := by
  obtain ⟨word, rest, hword, hrest, hs⟩ := h
  have hsmall := forall_isSmall_of_isWordFrom hword
  rw [lowerCamelCase, String.toList_ofList, hs, words_snake hword hrest, camelWords,
    lowerWord_small hsmall, List.flatMap_append, flatMap_snakeChar_small hsmall, List.flatMap_assoc]
  rw [List.flatMap_congr fun later hlater => flatMap_snakeChar_capitalWord (hrest later hlater)]

theorem SnakeCase.eq_of_lowerCamelCase {s s' : String} (h : SnakeCase s) (h' : SnakeCase s')
    (heq : lowerCamelCase s = lowerCamelCase s') : s = s' := by
  apply String.toList_inj.mp
  rw [← flatMap_snakeChar_lowerCamelCase h, ← flatMap_snakeChar_lowerCamelCase h', heq]

end Snake

section Capitals
variable {word : List Char} {first : Char} {rest : List Char}

theorem Hump.after_small {hump : Hump} {c : Char} (hc : isSmall c) :
    hump.after c = .lower ↔ c.isLower ∨ hump = .lower := by
  have hupper := (isSmall_spec hc).2.1
  have hlower : isLower c = c.isLower := by simp [isLower, ascii_of_isSmall hc]
  unfold Hump.after
  rw [hlower, hupper]
  by_cases h : c.isLower <;> simp [h]

theorem Hump.after_capital {hump : Hump} {c : Char} (hc : c.isUpper) : hump.after c = .upper := by
  obtain ⟨-, hupper, hlower, -⟩ := isUpper_spec hc
  simp [Hump.after, hupper, hlower]

/-- The end of a word with a lower-case letter in it is before the next capital. -/
theorem splitHumps_before_capital {hump : Hump} {cs : List Char} (hcs : ∀ c ∈ cs, isSmall c)
    (hne : cs ≠ []) (hlow : hump = .lower ∨ ∃ c ∈ cs, c.isLower) (hfirst : first.isUpper) :
    splitHumps hump word (cs ++ first :: rest) =
      (word.reverse ++ cs) :: splitHumps .fresh [] (first :: rest) := by
  induction cs generalizing hump word with
  | nil => exact absurd rfl hne
  | cons c cs ih =>
    obtain ⟨hc, hcs⟩ := List.forall_mem_cons.mp hcs
    have hcupper := (isSmall_spec hc).2.1
    cases cs with
    | nil =>
      have hafter : hump.after c = .lower := by
        refine (Hump.after_small hc).mpr (hlow.symm.imp ?_ id)
        simp
      have hupper := (isUpper_spec hfirst).2.1
      rw [List.cons_append, List.nil_append, splitHumps, if_pos ⟨hafter, hupper⟩, List.reverse_cons]
    | cons d cs =>
      have hdupper := (isSmall_spec (hcs d List.mem_cons_self)).2.1
      have hlow' : hump.after c = .lower ∨ ∃ e ∈ d :: cs, e.isLower := by
        rw [Hump.after_small hc]
        rcases hlow with hhump | ⟨e, he, helower⟩
        · exact .inl (.inr hhump)
        · rcases List.mem_cons.mp he with rfl | he
          · exact .inl (.inl helower)
          · exact .inr ⟨e, he, helower⟩
      have hrest : splitHumps (hump.after c) (c :: word) (d :: cs ++ first :: rest) = _ :=
        ih hcs (List.cons_ne_nil _ _) hlow'
      rw [List.cons_append] at hrest
      rw [List.cons_append, List.cons_append, splitHumps, if_neg (by simp [hdupper]),
        if_neg (by simp [hcupper]), hrest, List.reverse_cons, List.append_assoc]
      rfl

theorem splitHumps_capital {c next : Char} (hc : c.isUpper) :
    splitHumps .fresh [] (c :: next :: rest) = splitHumps .upper [c] (next :: rest) := by
  rw [splitHumps, Hump.after_capital hc, if_neg (by simp), if_neg (by simp)]

/-- A capital word ends where the next one begins. -/
theorem splitHumps_before_next (hword : isWordFrom Char.isUpper word)
    (hlow : word.any Char.isLower) (hfirst : first.isUpper) :
    splitHumps .fresh [] (word ++ first :: rest) =
      word :: splitHumps .fresh [] (first :: rest) := by
  obtain ⟨c, cs, rfl, hc, hcs⟩ := exists_cons_of_isWordFrom hword
  have hexists : ∃ d ∈ cs, d.isLower := by
    obtain ⟨d, hd, hlower⟩ := List.any_eq_true.mp hlow
    rcases List.mem_cons.mp hd with rfl | hd
    · have hnot := (isUpper_spec hc).2.2.1
      rw [isLower, if_pos (ascii_of_isUpper hc), hlower] at hnot
      cases hnot
    · exact ⟨d, hd, hlower⟩
  cases cs with
  | nil => simp at hexists
  | cons d cs =>
    rw [List.cons_append, List.cons_append, splitHumps_capital hc, ← List.cons_append,
      splitHumps_before_capital hcs (List.cons_ne_nil _ _) (.inr hexists) hfirst]
    rfl

theorem CapitalWords.exists_capital {words : List (List Char)} (h : CapitalWords words) :
    ∃ first rest, words.flatten = first :: rest ∧ first.isUpper := by
  cases h with
  | last hword | cons hword _ _ =>
    obtain ⟨c, cs, rfl, hc, -⟩ := exists_cons_of_isWordFrom hword
    exact ⟨c, _, rfl, hc⟩

theorem CapitalWords.isWordFrom {words : List (List Char)} (h : CapitalWords words) :
    ∀ word ∈ words, isWordFrom Char.isUpper word := by
  induction h with
  | last hword => exact List.forall_mem_singleton.mpr hword
  | cons hword _ _ ih => exact List.forall_mem_cons.mpr ⟨hword, ih⟩

theorem CapitalWords.splitHumps {words : List (List Char)} (h : CapitalWords words) :
    splitHumps .fresh [] words.flatten = words := by
  induction h with
  | last hword =>
    obtain ⟨c, cs, rfl, hc, hcs⟩ := exists_cons_of_isWordFrom hword
    cases cs with
    | nil => rfl
    | cons d cs =>
      rw [List.flatten_singleton, splitHumps_capital hc,
        splitHumps_small hcs (List.cons_ne_nil _ _)]
      rfl
  | cons hword hlow hrest ih =>
    obtain ⟨next, rest, hnext, hcapital⟩ := hrest.exists_capital
    rw [List.flatten_cons, hnext, splitHumps_before_next hword hlow hcapital, ← hnext, ih]

theorem CapitalWords.words_flatten {all : List (List Char)} (h : CapitalWords all) :
    words all.flatten = all := by
  have halphanumeric : ∀ c ∈ all.flatten, isAlphanumeric c := by
    intro c hc
    obtain ⟨word, hword, hc⟩ := List.mem_flatten.mp hc
    exact forall_of_isWordFrom (h.isWordFrom word hword) (fun c hc => (isUpper_spec hc).1)
      (fun c hc => (isSmall_spec hc).1) c hc
  have hpieces := pieces_words halphanumeric (List.forall_mem_nil _)
  rw [List.flatMap_nil, List.append_nil] at hpieces
  rw [words, hpieces, List.flatMap_singleton, h.splitHumps]

theorem capitalWord_capital (h : isWordFrom Char.isUpper word) : capitalWord word = word := by
  obtain ⟨c, cs, rfl, hc, hcs⟩ := exists_cons_of_isWordFrom h
  rw [capitalWord, (isUpper_spec hc).2.2.2.1, lowerWord_small hcs]
  rfl

theorem lowerWord_capital {c : Char} {cs : List Char} (hc : c.isUpper)
    (hcs : ∀ d ∈ cs, isSmall d) : lowerWord (c :: cs) = c.toLower :: cs := by
  have hascii : ∀ d ∈ c :: cs, d.toNat < 0x80 :=
    List.forall_mem_cons.mpr ⟨ascii_of_isUpper hc, fun d hd => ascii_of_isSmall (hcs d hd)⟩
  have hsmall := lowerWord_small hcs
  rw [lowerWord_ascii fun d hd => ascii_of_isSmall (hcs d hd)] at hsmall
  rw [lowerWord_ascii hascii, List.map_cons, hsmall]

/-- Nothing is changed but the first capital. -/
theorem lowerCamelCase_capitals {s : String} (h : CapitalCase s) :
    ∃ first rest, s.toList = first :: rest ∧ first.isUpper ∧
      (lowerCamelCase s).toList = first.toLower :: rest := by
  obtain ⟨all, hall, hs⟩ := h
  rw [lowerCamelCase, String.toList_ofList, hs, hall.words_flatten]
  cases all with
  | nil => cases hall
  | cons word later =>
    obtain ⟨hword, hlater⟩ := List.forall_mem_cons.mp hall.isWordFrom
    obtain ⟨c, cs, rfl, hc, hcs⟩ := exists_cons_of_isWordFrom hword
    refine ⟨c, cs ++ later.flatten, rfl, hc, ?_⟩
    have hkept := List.flatMap_congr fun word hword => capitalWord_capital (hlater word hword)
    rw [camelWords, lowerWord_capital hc hcs, hkept, List.flatMap_id']
    rfl

theorem CapitalCase.eq_of_lowerCamelCase {s s' : String} (h : CapitalCase s) (h' : CapitalCase s')
    (heq : lowerCamelCase s = lowerCamelCase s') : s = s' := by
  obtain ⟨first, rest, hs, hfirst, hcamel⟩ := lowerCamelCase_capitals h
  obtain ⟨first', rest', hs', hfirst', hcamel'⟩ := lowerCamelCase_capitals h'
  rw [heq, hcamel', List.cons.injEq] at hcamel
  obtain ⟨hlower, rfl⟩ := hcamel
  have hback := congrArg Char.toUpper hlower
  rw [(isUpper_spec hfirst').2.2.2.2, (isUpper_spec hfirst).2.2.2.2] at hback
  rw [← String.toList_inj, hs, hs', hback]

end Capitals
end WireSchema.Text
