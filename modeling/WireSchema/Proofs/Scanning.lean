import Mathlib.Data.Bool.AllAny
import Mathlib.Data.List.Basic
import WireSchema.Proofs.Words
import WireSchema.Token.Scan

/-!
Words, numbers and marks are scanned as the tokens they were written for, whatever is scanned after
them.
-/

namespace WireSchema.Token
open Text

/-- The marks that make a literal of a word before them. -/
def literalMarks : List Char :=
  ['"', '\x27', '#']

/-- A word or a number is over: nothing follows that it would go on with, and no point. -/
def Apart (rest : List Char) : Prop :=
  ∀ c, rest.head? = some c → ¬InWord c ∧ c ≠ '.' ∧ c ∉ literalMarks

theorem apart_cons {c : Char} (s : List Char) (h : ¬InWord c ∧ c ≠ '.' ∧ c ∉ literalMarks) :
    Apart (c :: s) := by
  intro d hd
  have heq : c = d := by simpa using hd
  exact heq ▸ h

theorem Apart.takeWhile {p : Char → Bool} {rest : List Char} (h : Apart rest)
    (hp : ∀ c, p c → InWord c) : rest.takeWhile p = [] := by
  cases rest with
  | nil => rfl
  | cons c rest =>
    have hc : p c = false := by simpa using mt (hp c) (h c rfl).1
    simp [hc]

theorem Apart.dropWhile {p : Char → Bool} {rest : List Char} (h : Apart rest)
    (hp : ∀ c, p c → InWord c) : rest.dropWhile p = rest := by
  cases rest with
  | nil => rfl
  | cons c rest =>
    have hc : p c = false := by simpa using mt (hp c) (h c rfl).1
    simp [hc]

/-- A word is read up to what it is apart from. -/
theorem split?_append (word : Word) {rest : List Char} (h : Apart rest) :
    Word.split? (word.text.toList ++ rest) = some (word, rest) := by
  have hspelled := word.spelled
  have hcontinue (c : Char) (hc : isIdentContinue c) : InWord c := .inr hc
  cases hword : word.text.toList with
  | nil => simp [hword, isWord] at hspelled
  | cons c body =>
    simp only [hword, isWord, Bool.and_eq_true, List.all_eq_true] at hspelled
    have htext : String.ofList (c :: body) = word.text := by
      rw [← hword, String.ofList_toList]
    simp [Word.split?, hspelled.1, List.takeWhile_append_of_pos hspelled.2,
      List.dropWhile_append_of_pos hspelled.2, h.takeWhile hcontinue, h.dropWhile hcontinue,
      htext]

/-- No quote or hash that would make a literal of the word before it. -/
def Unquoted (s : List Char) : Prop :=
  ∀ c, s.head? = some c → c ∉ literalMarks

theorem Unquoted.ne {c d : Char} {s : List Char} (h : Unquoted (c :: s)) (hd : d ∈ literalMarks) :
    c ≠ d := by
  intro heq
  subst heq
  exact h c rfl hd

theorem openRaw?_of_unquoted (kind : QuoteKind) {s : List Char} (h : Unquoted s) :
    openRaw? kind s = none := by
  cases s with
  | nil => rfl
  | cons c s =>
    have hquote : c ≠ '"' := h.ne (by decide)
    have hhash : c ≠ '#' := h.ne (by decide)
    unfold openRaw?
    simp [hhash, hquote]

theorem not_unquoted_cons {d : Char} (s : List Char) (h : d ∈ literalMarks) :
    ¬Unquoted (d :: s) :=
  fun hs => hs.ne h rfl

/-- A literal that begins like a word has a quote or a hash after one or two characters. -/
theorem quoted?_eq_none {c : Char} {s : List Char} (hc : InWord c) (hs : Unquoted s)
    (hraw : ∀ s', s = 'r' :: s' → Unquoted s') : quoted? (c :: s) = none := by
  have hplain : plainRest? (c :: s) = none := by
    unfold plainRest?
    split
    · rename_i heq
      cases heq
      exact absurd hc (by decide)
    · rename_i heq
      cases heq
      exact openRaw?_of_unquoted .text hs
    · rfl
  have hquoted : quotedRest? (c :: s) = none := by
    unfold quotedRest?
    split <;> rename_i heq <;> first | rfl | cases heq
    · exact absurd hs (not_unquoted_cons _ (by decide))
    · exact absurd hs (not_unquoted_cons _ (by decide))
    · exact openRaw?_of_unquoted .bytes (hraw _ rfl)
    · exact openRaw?_of_unquoted .terminated (hraw _ rfl)
    · exact absurd hs (not_unquoted_cons _ (by decide))
    · exact absurd hc (by decide)
  simp [quoted?, hplain, hquoted]

theorem isBrokenQuote_eq_false {c : Char} {s : List Char} (hs : Unquoted s)
    (hraw : ∀ s', s = 'r' :: s' → Unquoted s') : isBrokenQuote (c :: s) = false := by
  unfold isBrokenQuote
  split <;> rename_i heq <;> first | rfl | cases heq
  all_goals first
    | exact absurd hs (not_unquoted_cons _ (by decide))
    | exact absurd (hraw _ rfl) (not_unquoted_cons _ (by decide))

theorem isDigit_of_isIdentStart {c : Char} (h : isIdentStart c) : c.isDigit = false := by
  cases hdigit : c.isDigit with
  | false => rfl
  | true =>
    have hall : ∀ n < 58, isIdentStart (Char.ofNat n) = false := by decide
    obtain ⟨-, hhigh⟩ := toNat_of_isDigit hdigit
    have hstart := hall c.toNat (by omega)
    rw [Char.ofNat_toNat, h] at hstart
    cases hstart

theorem decimal?_eq_none {c : Char} (s : List Char) (h : c.isDigit = false) :
    decimal? (c :: s) = none := by
  simp [decimal?, decimalRest?, h]

theorem hexValue?_of_isDigit {c : Char} (h : c.isDigit) :
    Bytes.hexValue? c = some (c.toNat - 48) := by
  have hrange : '0' ≤ c ∧ c ≤ '9' := toNat_of_isDigit h
  rw [Bytes.hexValue?, if_pos hrange]

theorem filterMap_hexValue? {cs : List Char} (h : ∀ c ∈ cs, c.isDigit) :
    cs.filterMap Bytes.hexValue? = cs.map fun c => c.toNat - 48 := by
  induction cs with
  | nil => rfl
  | cons c cs ih =>
    obtain ⟨hc, hcs⟩ := List.forall_mem_cons.mp h
    simp [hexValue?_of_isDigit hc, ih hcs]

theorem isNumberChar_of_isDigit {c : Char} (h : c.isDigit) : isNumberChar 10 c := by
  obtain ⟨hlow, hhigh⟩ := toNat_of_isDigit h
  simp [isNumberChar, hexValue?_of_isDigit h]
  omega

theorem isNumberChar_eq_false {c : Char} (h : c.isDigit = false) (hbreak : c ≠ '_') :
    isNumberChar 10 c = false := by
  have hrange : ¬('0' ≤ c ∧ c ≤ '9') := by
    intro hrange
    have hdigit : c.isDigit = true := by
      simp only [Char.isDigit, Bool.and_eq_true, decide_eq_true_eq]
      exact hrange
    simp [hdigit] at h
  have hlower (hrange : 'a' ≤ c ∧ c ≤ 'f') : 97 ≤ c.toNat := hrange.1
  have hupper (hrange : 'A' ≤ c ∧ c ≤ 'F') : 65 ≤ c.toNat := hrange.1
  unfold isNumberChar Bytes.hexValue?
  rw [if_neg hrange]
  split
  · rename_i hrange
    have hlow := hlower hrange
    simp [hbreak]
    omega
  · split
    · rename_i hrange
      have hlow := hupper hrange
      simp [hbreak]
      omega
    · simp [hbreak]

theorem integer?_eq_none {c : Char} (s : List Char) (h : c.isDigit = false) :
    integer? (c :: s) = none := by
  have hbase : splitBase (c :: s) = (10, c :: s) := by
    unfold splitBase
    split <;> simp_all
  by_cases hbreak : c = '_'
  · subst hbreak
    simp [integer?, hbase, isNumberChar]
  · simp [integer?, hbase, isNumberChar_eq_false h hbreak]

theorem atMark_of_inWord {c : Char} (s : List Char) (h : InWord c) : atMark (c :: s) = false := by
  have hmarks : c ∉ marks := by
    intro hmem
    have hall : marks.Forall fun d => ¬InWord d := by decide
    exact List.forall_iff_forall_mem.mp hall c hmem h
  simp [atMark, hmarks]

theorem mark?_eq_none {c : Char} (s : List Char) (h : InWord c) : mark? (c :: s) = none := by
  unfold mark?
  split
  · rename_i heq
    cases heq
    exact absurd h (by decide)
  · rename_i heq
    cases heq
    simp [atMark_of_inWord _ h]
  · rfl

theorem ofDelimiter?_eq_none {c : Char} (h : InWord c) : ofDelimiter? c = none := by
  unfold ofDelimiter?
  split <;> first | rfl | exact absurd h (by decide)

theorem inWord_of_isDigitOrBreak (c : Char) (h : isDigitOrBreak c) : InWord c := by
  simp only [isDigitOrBreak, Bool.or_eq_true, beq_iff_eq] at h
  rcases h with hdigit | rfl
  · exact inWord_of_isDigit hdigit
  · decide

theorem inWord_of_isNumberChar (c : Char) (h : isNumberChar 10 c) : InWord c := by
  apply inWord_of_isDigitOrBreak
  simp only [isDigitOrBreak, Bool.or_eq_true, beq_iff_eq]
  by_contra hnot
  obtain ⟨hdigit, hbreak⟩ := not_or.mp hnot
  rw [isNumberChar_eq_false (by simpa using hdigit) hbreak] at h
  cases h

section Numbers
variable {ds rest : List Char} (hne : ds ≠ []) (hall : ∀ c ∈ ds, c.isDigit) (h : Apart rest)
include hall h

theorem decimal?_digits : decimal? (ds ++ rest) = none := by
  have hbreak : ∀ c ∈ ds, isDigitOrBreak c := by
    intro c hc
    simp [isDigitOrBreak, hall c hc]
  have hdrop : (ds ++ rest).dropWhile isDigitOrBreak = rest := by
    rw [List.dropWhile_append_of_pos hbreak, h.dropWhile inWord_of_isDigitOrBreak]
  have hrest : decimalRest? (ds ++ rest) = none := by
    unfold decimalRest?
    rw [hdrop]
    cases rest with
    | nil => simp
    | cons c rest =>
      obtain ⟨hword, hpoint, -⟩ := h c rfl
      have hexponent : isExponentMark c = false := by
        cases hmark : isExponentMark c with
        | false => rfl
        | true =>
          simp only [isExponentMark, Bool.or_eq_true, beq_iff_eq] at hmark
          rcases hmark with rfl | rfl <;> exact absurd (by decide) hword
      simp [hexponent]
  simp [decimal?, hrest]

include hne

/-- The letter of another base is no digit, and nothing that a number is apart from. -/
theorem splitBase_digits : splitBase (ds ++ rest) = (10, ds ++ rest) := by
  have hsecond (c d : Char) (s : List Char) (heq : ds ++ rest = c :: d :: s) :
      d.isDigit ∨ ¬InWord d := by
    cases ds with
    | nil => exact absurd rfl hne
    | cons first body =>
      cases body with
      | nil =>
        simp only [List.cons_append, List.nil_append, List.cons.injEq] at heq
        exact .inr (h d (by simp [heq.2])).1
      | cons second body =>
        simp only [List.cons_append, List.cons.injEq] at heq
        exact .inl (hall d (by simp [heq.2.1]))
  unfold splitBase
  split <;> rename_i heq
  · exact absurd (hsecond _ _ _ heq) (by decide)
  · exact absurd (hsecond _ _ _ heq) (by decide)
  · exact absurd (hsecond _ _ _ heq) (by decide)
  · rfl

theorem integer?_digits :
    integer? (ds ++ rest) =
      some (.integer (String.ofList ds) (Nat.ofDigitChars 10 ds 0) true, rest) := by
  have hnumber : ∀ c ∈ ds, isNumberChar 10 c := fun c hc => isNumberChar_of_isDigit (hall c hc)
  have hrun : (ds ++ rest).takeWhile (isNumberChar 10) = ds := by
    rw [List.takeWhile_append_of_pos hnumber, h.takeWhile inWord_of_isNumberChar, List.append_nil]
  have hdrop : (ds ++ rest).dropWhile (isNumberChar 10) = rest := by
    rw [List.dropWhile_append_of_pos hnumber, h.dropWhile inWord_of_isNumberChar]
  have hvalue : ds.foldl (fun n c => 10 * n + (c.toNat - 48)) 0 = Nat.ofDigitChars 10 ds 0 := rfl
  have hsuffix : dropSuffix? rest = some rest := by
    cases rest with
    | nil => rfl
    | cons c rest =>
      have hword := (h c rfl).1
      simp only [InWord, not_or, Bool.not_eq_true] at hword
      simp [dropSuffix?, dropWord, hword]
  have hsmall : ∀ c ∈ ds, c.toNat - 48 < 10 := by
    intro c hc
    have hrange := toNat_of_isDigit (hall c hc)
    omega
  have hhead : ds.head? ≠ some '_' := by
    intro heq
    have hdigit := hall '_' (List.mem_of_mem_head? heq)
    simp at hdigit
  simp [integer?, splitBase_digits hne hall h, hrun, hdrop, filterMap_hexValue? hall,
    List.foldl_map, hvalue, hsuffix, textBefore, hne, hhead]
  exact hsmall

end Numbers

theorem unquoted_append {body rest : List Char} (hbody : ∀ c ∈ body, InWord c) (h : Apart rest) :
    Unquoted (body ++ rest) := by
  intro c hc
  cases body with
  | nil => exact (h c hc).2.2
  | cons first body =>
    have heq : first = c := by simpa using hc
    have hin := hbody c (by simp [heq])
    have hnone : literalMarks.Forall fun d => ¬InWord d := by decide
    exact fun hmem => List.forall_iff_forall_mem.mp hnone c hmem hin

theorem lostLiteral_isPrefixOf {c : Char} (s : List Char) (h : c ≠ '(') :
    lostLiteral.isPrefixOf (c :: s) = false := by
  have hcons : lostLiteral = '(' :: "/*ERROR*/)".toList := rfl
  rw [hcons, List.isPrefixOf_cons_cons]
  simp [h.symm]

theorem unquoted_of_append {body rest s : List Char} (hbody : ∀ c ∈ body, InWord c)
    (h : Apart rest) (heq : body ++ rest = 'r' :: s) : Unquoted s := by
  cases body with
  | nil =>
    simp only [List.nil_append] at heq
    exact absurd (by decide) (h 'r' (by simp [heq])).1
  | cons first body =>
    simp only [List.cons_append, List.cons.injEq] at heq
    rw [← heq.2]
    exact unquoted_append (fun c hc => hbody c (by simp [hc])) h

/-- What is no literal and no mark is a word. -/
theorem token?_eq_word? {c : Char} {body rest : List Char} (hc : isIdentStart c)
    (hbody : ∀ c ∈ body, InWord c) (h : Apart rest) :
    token? (c :: (body ++ rest)) = word? (c :: (body ++ rest)) := by
  have hword : InWord c := .inl hc
  have hs : Unquoted (body ++ rest) := unquoted_append hbody h
  have hraw : ∀ s, body ++ rest = 'r' :: s → Unquoted s := fun _ => unquoted_of_append hbody h
  simp [token?, lostLiteral_isPrefixOf _ (hword.ne (d := '(') (by decide)),
    ofDelimiter?_eq_none hword, quoted?_eq_none hword hs hraw,
    decimal?_eq_none _ (isDigit_of_isIdentStart hc),
    integer?_eq_none _ (isDigit_of_isIdentStart hc), mark?_eq_none _ hword,
    isBrokenQuote_eq_false hs hraw]

theorem token?_ofWord (word : Word) {rest : List Char} (h : Apart rest) :
    token? (word.text.toList ++ rest) = some (ofWord word, rest) := by
  have hspelled := word.spelled
  have hsplit := split?_append word h
  cases hword : word.text.toList with
  | nil => simp [hword, isWord] at hspelled
  | cons c body =>
    have hin : ∀ c ∈ body, InWord c := fun d hd =>
      inWord_of_isWord hspelled d (by simp [hword, hd])
    simp only [hword, isWord, Bool.and_eq_true] at hspelled
    rw [hword, List.cons_append] at hsplit
    rw [List.cons_append, token?_eq_word? hspelled.1 hin h]
    unfold word?
    split
    · rename_i heq
      have hs := unquoted_append hin h
      rw [(List.cons.inj heq).2] at hs
      exact absurd hs (not_unquoted_cons _ (by decide))
    · simp [hsplit]

theorem token?_raw (word : Word) (free : word.text ∉ Word.neverRaw) {rest : List Char}
    (h : Apart rest) :
    token? ('r' :: '#' :: (word.text.toList ++ rest)) = some (.name (.raw word free), rest) := by
  have hspelled := word.spelled
  have hsplit := split?_append word h
  cases hword : word.text.toList with
  | nil => simp [hword, isWord] at hspelled
  | cons c body =>
    simp only [hword, isWord, Bool.and_eq_true] at hspelled
    have hin : InWord c := .inl hspelled.1
    have hquote : c ≠ '"' := hin.ne (by decide)
    have hhash : c ≠ '#' := hin.ne (by decide)
    rw [hword, List.cons_append] at hsplit
    have hquoted : quoted? ('r' :: '#' :: c :: (body ++ rest)) = none := by
      simp [quoted?, plainRest?, quotedRest?, openRaw?, hhash, hquote]
    have hbroken : isBrokenQuote ('r' :: '#' :: c :: (body ++ rest)) = false := by
      unfold isBrokenQuote
      split <;> simp_all
    simp [token?, lostLiteral_isPrefixOf _ (c := 'r') (by decide), ofDelimiter?, hquoted,
      decimal?_eq_none _ (c := 'r') (by decide), integer?_eq_none _ (c := 'r') (by decide),
      mark?_eq_none _ (c := 'r') (by decide), hbroken, word?, hsplit, free]

/-- The token that a word of a path is written for. -/
def ofPathWord : PathWord → Token
  | .name own => .name own
  | .reserved text _ => .keyword text

theorem token?_pathWord (word : PathWord) {rest : List Char} (h : Apart rest) :
    token? (word.text.toList ++ rest) = some (ofPathWord word, rest) := by
  cases word with
  | name own =>
    cases own with
    | plain word free =>
      simpa [PathWord.text, Name.text, ofPathWord, ofWord, free] using token?_ofWord word h
    | raw word free =>
      simpa [PathWord.text, Name.text, ofPathWord] using token?_raw word free h
  | reserved text allowed =>
    have hreserved : ∀ text ∈ pathWords, text ∈ Word.reserved := by decide
    have htoken := token?_ofWord ⟨text, isWord_of_mem_pathWords allowed⟩ h
    simpa [PathWord.text, ofPathWord, ofWord, hreserved text allowed] using htoken

/-- A number is no decimal: no point follows it. -/
theorem token?_digits {ds rest : List Char} (hne : ds ≠ []) (hall : ∀ c ∈ ds, c.isDigit)
    (h : Apart rest) :
    token? (ds ++ rest) =
      some (.integer (String.ofList ds) (Nat.ofDigitChars 10 ds 0) true, rest) := by
  have hdecimal := decimal?_digits hall h
  have hinteger := integer?_digits hne hall h
  cases ds with
  | nil => exact absurd rfl hne
  | cons c body =>
    have hword := inWord_of_isDigit (hall c List.mem_cons_self)
    rw [List.cons_append] at hdecimal hinteger
    have hin : ∀ c ∈ body, InWord c := fun d hd =>
      inWord_of_isDigit (hall d (List.mem_cons_of_mem c hd))
    have hquoted : quoted? (c :: (body ++ rest)) = none :=
      quoted?_eq_none hword (unquoted_append hin h) fun _ => unquoted_of_append hin h
    simp [token?, lostLiteral_isPrefixOf _ (hword.ne (d := '(') (by decide)),
      ofDelimiter?_eq_none hword, hquoted, hdecimal, hinteger]

theorem token?_mark {c : Char} (h : c ∈ ['<', '>', ',', ';', '+']) (rest : List Char) :
    token? (c :: rest) = some (.mark c (atMark rest), rest) := by
  simp only [List.mem_cons, List.not_mem_nil, or_false] at h
  rcases h with rfl | rfl | rfl | rfl | rfl <;> rfl

theorem token?_opening (rest : List Char) :
    token? ('[' :: rest) = some (.opening .bracket, rest) :=
  rfl

theorem token?_closing (rest : List Char) :
    token? (']' :: rest) = some (.closing .bracket, rest) :=
  rfl

/-- The tokens of a text, however many steps may be taken above one for each character. -/
def Scans (s : List Char) (ts : List Token) : Prop :=
  ∀ steps, s.length ≤ steps → scanWith? steps s = some ts

theorem scans_nil : Scans [] [] := by
  intro steps _
  cases steps <;> rfl

theorem Scans.gap {c : Char} {s : List Char} {ts : List Token} (h : Scans s ts)
    (hc : isGap c = true) : Scans (c :: s) ts := by
  intro steps hsteps
  cases steps with
  | zero => simp at hsteps
  | succ steps =>
    rw [List.length_cons] at hsteps
    rw [scanWith?, if_pos hc, h steps (by omega)]

theorem Scans.token {c : Char} {s rest : List Char} {t : Token} {ts : List Token}
    (h : Scans rest ts) (htoken : token? (c :: s) = some (t, rest))
    (hlength : rest.length ≤ s.length) (hgap : isGap c = false) (hslash : c ≠ '/') :
    Scans (c :: s) (t :: ts) := by
  have hcomment : comment? (c :: s) = none := by
    unfold comment?
    split <;> simp_all
  intro steps hsteps
  cases steps with
  | zero => simp at hsteps
  | succ steps =>
    rw [List.length_cons] at hsteps
    simp [scanWith?, hgap, hcomment, htoken, h steps (by omega)]

/-- A comment that documents nothing leaves no token. -/
theorem Scans.comment {c : Char} {s rest : List Char} {ts : List Token} (h : Scans rest ts)
    (hcomment : comment? (c :: s) = some ([], rest)) (hlength : rest.length ≤ s.length)
    (hgap : isGap c = false) : Scans (c :: s) ts := by
  intro steps hsteps
  cases steps with
  | zero => simp at hsteps
  | succ steps =>
    rw [List.length_cons] at hsteps
    simp [scanWith?, hgap, hcomment, h steps (by omega)]

theorem not_inWord_byteOrderMark : ¬InWord '\ufeff' := by
  decide +kernel

/-- There is no byte order mark that would be skipped. -/
theorem scan?_of_scans {s : List Char} {ts : List Token} (h : Scans s ts)
    (hmark : s.head? ≠ some '\ufeff') : scan? s = some ts := by
  unfold scan?
  split
  · exact absurd rfl hmark
  · exact h _ (Nat.le_refl _)

/-- The blanks one by one. -/
def blankPoints : List Nat :=
  [9, 10, 11, 12, 13, 32, 133, 160, 5760, 8192, 8193, 8194, 8195, 8196, 8197, 8198, 8199, 8200,
    8201, 8202, 8232, 8233, 8239, 8287, 12288]

theorem toNat_of_isBlank {c : Char} (h : isBlank c) : c.toNat ∈ blankPoints := by
  simp [isBlank, CharSet.contains, blanks, CharSet.changed] at h
  simp only [blankPoints, List.mem_cons, List.not_mem_nil, or_false]
  omega

theorem isBlank_eq_false {c : Char} (h : InWord c) : isBlank c = false := by
  have hall : ∀ n ∈ blankPoints, ¬InWord (Char.ofNat n) := by decide +kernel
  cases hblank : isBlank c with
  | false => rfl
  | true =>
    have hnot := hall c.toNat (toNat_of_isBlank hblank)
    rw [Char.ofNat_toNat] at hnot
    exact absurd h hnot

/-- Words and numbers are over at a blank. -/
theorem apart_of_isBlank {c : Char} (s : List Char) (h : isBlank c) : Apart (c :: s) := by
  have hmarks : ∀ d ∈ '.' :: literalMarks, ¬isBlank d := List.all_iff_forall_prop.mp (by decide)
  obtain ⟨hpoint, hliteral⟩ := List.forall_mem_cons.mp hmarks
  apply apart_cons
  refine ⟨fun hin => by simp [isBlank_eq_false hin] at h, ?_, fun hmem => hliteral c hmem h⟩
  rintro rfl
  exact hpoint h

theorem Apart.blanks {gap rest : List Char} (h : Apart rest) (hgap : ∀ c ∈ gap, isBlank c) :
    Apart (gap ++ rest) := by
  cases gap with
  | nil => exact h
  | cons c gap => exact apart_of_isBlank _ (hgap c List.mem_cons_self)

theorem Scans.blanks {gap s : List Char} {ts : List Token} (h : Scans s ts)
    (hgap : ∀ c ∈ gap, isBlank c) : Scans (gap ++ s) ts := by
  induction gap with
  | nil => exact h
  | cons c gap ih =>
    obtain ⟨hc, hrest⟩ := List.forall_mem_cons.mp hgap
    exact (ih hrest).gap (by simp [isGap, hc])

theorem isGap_eq_false {c : Char} (h : InWord c) : isGap c = false := by
  have hleft : c ≠ '\u200e' := h.ne (by decide +kernel)
  have hright : c ≠ '\u200f' := h.ne (by decide +kernel)
  simp [isGap, isBlank_eq_false h, hleft, hright]

theorem Scans.pathWord {rest : List Char} {ts : List Token} (h : Scans rest ts) (hrest : Apart rest)
    (word : PathWord) : Scans (word.text.toList ++ rest) (ofPathWord word :: ts) := by
  have htoken := token?_pathWord word hrest
  obtain ⟨c, body, hword, hc⟩ := word.exists_cons
  have hin : InWord c := .inl hc
  rw [hword, List.cons_append] at htoken ⊢
  exact h.token htoken (by simp) (isGap_eq_false hin) (hin.ne (by decide))

theorem Scans.digits {ds rest : List Char} {ts : List Token} (h : Scans rest ts)
    (hrest : Apart rest) (hne : ds ≠ []) (hall : ∀ c ∈ ds, c.isDigit) :
    Scans (ds ++ rest) (.integer (String.ofList ds) (Nat.ofDigitChars 10 ds 0) true :: ts) := by
  have htoken := token?_digits hne hall hrest
  cases ds with
  | nil => exact absurd rfl hne
  | cons c body =>
    have hin : InWord c := inWord_of_isDigit (hall c List.mem_cons_self)
    rw [List.cons_append] at htoken
    exact h.token htoken (by simp) (isGap_eq_false hin) (hin.ne (by decide))

theorem Scans.number {rest : List Char} {ts : List Token} (h : Scans rest ts) (hrest : Apart rest)
    (n : Nat) :
    Scans (Text.digits n ++ rest) (.integer (String.ofList (Text.digits n)) n true :: ts) := by
  have hne : Text.digits n ≠ [] := by simp [Text.digits, Nat.toDigits_ne_nil]
  have hvalue : Nat.ofDigitChars 10 (Text.digits n) 0 = n := Nat.ofDigitChars_ten_toDigits
  have hscans := h.digits hrest hne fun _ => isDigit_of_mem_digits
  rwa [hvalue] at hscans

theorem Scans.mark {rest : List Char} {ts : List Token} (h : Scans rest ts) {c : Char}
    (hc : c ∈ ['<', '>', ',', ';', '+']) : Scans (c :: rest) (.mark c (atMark rest) :: ts) := by
  have hall : ['<', '>', ',', ';', '+'].Forall fun c => isGap c = false ∧ c ≠ '/' := by decide
  obtain ⟨hgap, hslash⟩ := List.forall_iff_forall_mem.mp hall c hc
  exact h.token (token?_mark hc rest) (Nat.le_refl _) hgap hslash

end WireSchema.Token
