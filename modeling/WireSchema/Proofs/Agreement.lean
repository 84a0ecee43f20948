import WireSchema.Proofs.Reparse
import WireSchema.Proofs.Vocabulary

/-!
The texts that name primitives as type expressions. Main statement: such a text stands for the
primitive that it names, unless it has a plus sign; with one it is refused.
-/

namespace WireSchema.TypeExpr
open Text Token

/-- A character of words, numbers and blanks, or one of the two signs that a width may have. -/
def Unbracketed (c : Char) : Prop :=
  InWord c ∨ isBlank c ∨ c = ';' ∨ c = '+'

theorem Unbracketed.not_mem {c : Char} (h : Unbracketed c) :
    c ∉ ['<', '[', '(', '>', ']', ')', '/'] := by
  have hall : ['<', '[', '(', '>', ']', ')', '/'].Forall fun d =>
      ¬InWord d ∧ ¬isBlank d ∧ d ≠ ';' ∧ d ≠ '+' := by
    decide
  intro hmem
  obtain ⟨hword, hblank, hsemicolon, hplus⟩ := List.forall_iff_forall_mem.mp hall c hmem
  rcases h with h | h | h | h
  · exact hword h
  · exact hblank h
  · exact hsemicolon h
  · exact hplus h

theorem Unbracketed.ne_byteOrderMark {c : Char} (h : Unbracketed c) : c ≠ '\ufeff' := by
  rcases h with h | h | rfl | rfl
  · exact h.ne not_inWord_byteOrderMark
  · rintro rfl
    exact absurd h (by decide)
  · decide
  · decide

theorem Unbracketed.flat {c : Char} (h : Unbracketed c) : opens c = false ∧ closes c = false := by
  have hnot := h.not_mem
  simp only [List.mem_cons, List.not_mem_nil, or_false, not_or] at hnot
  simp [opens, closes, hnot]

theorem Unbracketed.atMark_cons {c : Char} (h : Unbracketed c) (s : List Char) :
    atMark (c :: s) = decide (c ∈ marks) := by
  have hslash : c ≠ '/' := by
    rintro rfl
    exact h.not_mem (by decide)
  have hcomment : isComment (c :: s) = false := by
    unfold isComment
    split <;> simp_all
  simp [atMark, hcomment]

/-- The text is not empty and is scanned as the tokens, whatever it is apart from. -/
structure Lexed (text : List Char) (ts : List Token) : Prop where
  ne_nil : text ≠ []
  unbracketed : ∀ c ∈ text, Unbracketed c
  scans : ∀ rest more, Apart rest → Scans rest more → Scans (text ++ rest) (ts ++ more)

namespace Lexed
variable {text width : List Char} {ts us : List Token}

theorem nests (h : Lexed text ts) : Nests text 0 :=
  nests_flat fun c hc => (h.unbracketed c hc).flat

theorem scan? (h : Lexed text ts) : Token.scan? text = some ts := by
  have hscans := h.scans [] [] (by simp [Apart]) scans_nil
  rw [List.append_nil, List.append_nil] at hscans
  refine scan?_of_scans hscans fun hmark => ?_
  exact (h.unbracketed _ (List.mem_of_mem_head? hmark)).ne_byteOrderMark rfl

theorem pathWord (word : PathWord) (h : ∀ c ∈ word.text.toList, InWord c) :
    Lexed word.text.toList [ofPathWord word] where
  ne_nil := by
    obtain ⟨c, rest, htext, -⟩ := word.exists_cons
    simp [htext]
  unbracketed c hc := .inl (h c hc)
  scans _ _ hrest hmore := hmore.pathWord hrest word

theorem of_trim (h : Lexed (trim text) ts) : Lexed text ts := by
  obtain ⟨before, after, htext, hbefore, hafter⟩ := trim_split text
  constructor
  · rintro rfl
    exact h.ne_nil rfl
  · intro c hc
    rw [htext, List.mem_append, List.mem_append] at hc
    rcases hc with hc | hc | hc
    · exact .inr (.inl (hbefore c hc))
    · exact h.unbracketed c hc
    · exact .inr (.inl (hafter c hc))
  · intro rest more hrest hmore
    have hall := (h.scans _ _ (hrest.blanks hafter) (hmore.blanks hafter)).blanks hbefore
    rw [← List.append_assoc, ← List.append_assoc, List.append_assoc before, ← htext] at hall
    exact hall

theorem separate (h : Lexed text ts) (hwidth : Lexed width us) :
    ∃ joint, Lexed (text ++ ';' :: width) (ts ++ mark ';' joint :: us) := by
  obtain ⟨c, tail, rfl⟩ := List.exists_cons_of_ne_nil hwidth.ne_nil
  refine ⟨decide (c ∈ marks), by simp, fun d hd => ?_, fun rest more hrest hmore => ?_⟩
  · rw [List.mem_append, List.mem_cons] at hd
    rcases hd with hd | rfl | hd
    · exact h.unbracketed d hd
    · exact .inr (.inr (.inl rfl))
    · exact hwidth.unbracketed d hd
  · have hmark := (hwidth.scans rest more hrest hmore).mark (c := ';') (by decide)
    rw [List.cons_append, (hwidth.unbracketed c List.mem_cons_self).atMark_cons] at hmark
    have hscans := h.scans _ _ (apart_cons _ (by decide)) hmark
    simpa using hscans

end Lexed

/-- The tokens of a width. A plus sign is a token of its own. -/
def widthTokens (text : String) (n : UInt64) (plus : Bool) : List Token :=
  if plus then [mark '+' false, integer text n.toNat true] else [integer text n.toNat true]

theorem lexed_digits {ds : List Char} {n : UInt64} (h : readNat? ds = some n.toNat) :
    '+' ∉ ds ∧ Lexed ds (widthTokens (String.ofList ds) n false) := by
  obtain ⟨hne, hall, hn⟩ := readNat?_eq_some h
  refine ⟨fun hplus => ?_, hne, fun c hc => .inl (inWord_of_isDigit (hall c hc)),
    fun rest more hrest hmore => ?_⟩
  · exact absurd (hall '+' hplus) (by decide)
  · have hscans := hmore.digits hrest hne hall
    rwa [hn] at hscans

theorem lexed_signed {ds : List Char} {n : UInt64} (h : readNat? ds = some n.toNat) :
    Lexed ('+' :: ds) (widthTokens (String.ofList ds) n true) := by
  obtain ⟨hne, hall, -⟩ := readNat?_eq_some h
  obtain ⟨-, hds⟩ := lexed_digits h
  obtain ⟨c, tail, rfl⟩ := List.exists_cons_of_ne_nil hne
  have hc : InWord c := inWord_of_isDigit (hall c List.mem_cons_self)
  refine ⟨by simp, List.forall_mem_cons.mpr ⟨.inr (.inr (.inr rfl)), hds.unbracketed⟩,
    fun rest more hrest hmore => ?_⟩
  have hscans := (hds.scans rest more hrest hmore).mark (c := '+') (by decide)
  rw [List.cons_append, atMark_of_inWord _ hc] at hscans
  exact hscans

theorem lexed_width {width : List Char} {n : UInt64} (h : readUInt64? width = some n) :
    ∃ text, Lexed width (widthTokens text n ('+' ∈ width)) := by
  simp only [readUInt64?, Option.bind_eq_bind, Option.bind_eq_some_iff,
    Option.ite_none_right_eq_some, Option.some.injEq] at h
  obtain ⟨value, hread, hlt, rfl⟩ := h
  rw [← UInt64.toNat_ofNat_of_lt' hlt] at hread
  split at hread
  · exact ⟨_, by simpa using lexed_signed hread⟩
  · obtain ⟨hplus, hds⟩ := lexed_digits hread
    exact ⟨_, by simpa [hplus] using hds⟩

theorem plus_mem_trim (s : List Char) : '+' ∈ trim s ↔ '+' ∈ s :=
  mem_trim_iff s (by decide)

theorem lexed_trim {s : List Char} {n : UInt64} (h : readUInt64? (trim s) = some n) :
    ∃ text, Lexed s (widthTokens text n ('+' ∈ s)) := by
  obtain ⟨text, hlexed⟩ := lexed_width h
  simp only [plus_mem_trim] at hlexed
  exact ⟨text, hlexed.of_trim⟩

theorem lexed_byteWord {s : List Char} (h : trim s = ['u', '8']) :
    Lexed s [ofPathWord byteWord] := by
  apply Lexed.of_trim
  rw [h]
  exact .pathWord byteWord (List.all_iff_forall_prop.mp (by decide))

theorem append_semicolon {s rest : List Char} {first : Char}
    (h : s.dropWhile (· != ';') = first :: rest) : s.takeWhile (· != ';') ++ ';' :: rest = s := by
  have hfirst := List.head?_dropWhile_not (· != ';') s
  simp only [h, List.head?_cons, bne_eq_false_iff_eq] at hfirst
  subst hfirst
  rw [← h, List.takeWhile_append_dropWhile]

/-- What stands in the brackets of fixed bytes, with the element or without. -/
inductive BracketTokens (n : UInt64) (plus : Bool) : List Token → Prop
  | short (text : String) : BracketTokens n plus (widthTokens text n plus)
  | long (text : String) (joint : Bool) :
    BracketTokens n plus ([ofPathWord byteWord] ++ mark ';' joint :: widthTokens text n plus)

/-- The element has no sign, so that a sign in the brackets is that of the width. -/
theorem lexed_of_ofBrackets? {s : List Char} {kind : Primitive}
    (h : Primitive.ofBrackets? s = some kind) :
    ∃ inner n ts, s = '[' :: (inner ++ [']']) ∧ kind = .fixedBytes n ∧
      Lexed inner ts ∧ BracketTokens n ('+' ∈ inner) ts := by
  simp only [Primitive.ofBrackets?, Option.bind_eq_bind, Option.bind_eq_some_iff] at h
  obtain ⟨inner, hinner, h⟩ := h
  have hbrackets := Primitive.eq_of_unbracket? hinner
  split at h
  · simp only [Option.bind_some, Option.bind_eq_some_iff, Option.pure_def, Option.some.injEq] at h
    obtain ⟨n, hn, rfl⟩ := h
    obtain ⟨text, hlexed⟩ := lexed_trim hn
    exact ⟨inner, n, _, hbrackets, rfl, hlexed, .short text⟩
  · rename_i first rest heq
    have hparts := append_semicolon heq
    split at h
    · rename_i helement
      simp only [Option.bind_some, Option.bind_eq_some_iff, Option.pure_def, Option.some.injEq] at h
      obtain ⟨n, hn, rfl⟩ := h
      obtain ⟨text, hwidth⟩ := lexed_trim hn
      obtain ⟨joint, hlexed⟩ := (lexed_byteWord helement).separate hwidth
      have hplus : '+' ∈ inner ↔ '+' ∈ rest := by
        have hnot : '+' ∉ (trim inner).takeWhile (· != ';') := by
          rw [← plus_mem_trim, helement]
          decide
        rw [← plus_mem_trim, ← hparts]
        simp [hnot]
      rw [hparts] at hlexed
      simp only [← hplus] at hlexed
      exact ⟨inner, n, _, hbrackets, rfl, hlexed.of_trim, .long text joint⟩
    · cases h

section Brackets
variable {s inner : List Char} {ts : List Token} (hs : trim s = '[' :: (inner ++ [']']))
  (hinner : Lexed inner ts)
include hs hinner

theorem nesting_brackets : nesting s = 1 := by
  obtain ⟨before, after, heq, hbefore, hafter⟩ := trim_split s
  have hblanks {gap : List Char} (hgap : ∀ c ∈ gap, isBlank c) : Nests gap 0 :=
    nests_flat fun c hc => Unbracketed.flat (.inr (.inl (hgap c hc)))
  have hbrackets := hinner.nests.enclose '[' ']' rfl rfl rfl
  have hall := (hblanks hbefore).append (hbrackets.append (hblanks hafter))
  rw [← hs, ← heq] at hall
  simpa [nesting, nestingFrom] using hall 0 0 [] (Nat.le_refl 0)

theorem scan?_brackets : Token.scan? s = some (opening .bracket :: (ts ++ [closing .bracket])) := by
  obtain ⟨before, after, heq, hbefore, hafter⟩ := trim_split s
  have hend := scans_nil.blanks hafter
  have hclose := hend.token (token?_closing _) (Nat.le_refl _) (by decide) (by decide)
  have hbody := hinner.scans _ _ (apart_cons _ (by decide)) hclose
  have hopen := hbody.token (token?_opening _) (Nat.le_refl _) (by decide) (by decide)
  have hall := hopen.blanks hbefore
  have htext : before ++ '[' :: (inner ++ ']' :: (after ++ [])) = s := by
    rw [heq, hs]
    simp
  rw [htext] at hall
  refine scan?_of_scans hall ?_
  rw [← htext]
  cases before with
  | nil => simp
  | cons c before =>
    have hc := hbefore c List.mem_cons_self
    rintro ⟨⟩
    exact absurd hc (by decide)

/-- A sign is no part of the number that follows it. -/
theorem ofText_brackets {n : UInt64} {plus : Bool} (hts : BracketTokens n plus ts) :
    ofText s = if plus then .error .grammar else .ok (bytes n) := by
  have hlimit : ¬nestingLimit < nesting s := by
    rw [nesting_brackets hs hinner]
    decide
  have hunbracket : Primitive.unbracket? (trim s) = some inner := by
    rw [hs]
    simp [Primitive.unbracket?]
  have hshort := shorthand?_of_length hunbracket hinner.scan?
  rw [ofText, if_neg hlimit, scan?_brackets hs hinner, Option.bind_some]
  cases hts with
  | short text =>
    cases plus with
    | true =>
      rw [hshort (by simp [widthTokens])]
      rfl
    | false =>
      have hwidth : shorthand? s = some n := by
        simp [shorthand?, hunbracket, hinner.scan?, widthTokens, n.toNat_lt_size]
      rw [hwidth]
      rfl
  | long text joint =>
    rw [hshort (by simp)]
    cases plus with
    | true => cases joint <;> rfl
    | false =>
      have hform : TypeForm.ofTokens? (opening .bracket :: ([ofPathWord byteWord] ++
          mark ';' joint :: widthTokens text n false ++ [closing .bracket])) =
          some (.array (.path byteWord none true) (LengthForm.ofNat text n.toNat)) := by
        cases joint <;> rfl
      rw [hform]
      exact ofForm_bytes (by decide) text n

end Brackets

theorem ofText_of_ofBrackets? {s : List Char} {kind : Primitive}
    (h : Primitive.ofBrackets? (trim s) = some kind) :
    ∃ n, kind = .fixedBytes n ∧
      ofText s = if '+' ∈ s then .error .grammar else .ok (bytes n) := by
  obtain ⟨inner, n, ts, hs, hkind, hinner, hts⟩ := lexed_of_ofBrackets? h
  have hplus : '+' ∈ s ↔ '+' ∈ inner := by
    rw [← plus_mem_trim, hs]
    simp
  have htext := ofText_brackets hs hinner hts
  simp only [← hplus, decide_eq_true_eq] at htext
  exact ⟨n, hkind, htext⟩

/-- The word is not raw, for it has no hash. -/
theorem ofText_of_word {s : List Char} {word : PathWord} (hs : trim s = word.text.toList)
    (hin : ∀ c ∈ word.text.toList, InWord c) :
    ofText s = if "try" ∈ (ofName word.text).references then .error .grammar
      else .ok (ofName word.text) := by
  have hlexed : Lexed s [ofPathWord word] := by
    apply Lexed.of_trim
    rw [hs]
    exact .pathWord word hin
  have hnesting : nesting s = 0 := by
    simpa [nesting, nestingFrom] using hlexed.nests 0 0 [] (Nat.le_refl 0)
  have hshort : shorthand? s = none := by
    obtain ⟨c, rest, hcons, hc⟩ := word.exists_cons
    rw [hcons] at hs
    exact shorthand?_of_trim hs (.inl hc)
  exact ofText_of_tokens (.name word rfl) (by omega) (by rw [levels_ofName]; omega) hshort
    hlexed.scan?

theorem ofText_of_ofWord? {s : List Char} {kind : Primitive}
    (h : Primitive.ofWord? (String.ofList (trim s)) = some kind) :
    '+' ∉ s ∧ ∃ name, ofText s = .ok (primitive name) ∧ Primitive.ofText? name = some kind := by
  obtain ⟨before, after, hwords, -⟩ := List.lookup_eq_some_iff.mp h
  have hmem : (String.ofList (trim s), kind) ∈ Primitive.words := by
    rw [hwords]
    exact List.mem_append_right _ List.mem_cons_self
  obtain ⟨hspelled, hfree, hname⟩ := Primitive.word_of_mem_words hmem
  have hkind := Primitive.ofText?_of_mem_words hmem
  obtain ⟨word, hword⟩ : ∃ word : PathWord, word.text = String.ofList (trim s) :=
    ⟨plainWord _ hspelled hfree, rfl⟩
  rw [← hword] at hspelled hname hkind
  have hin := inWord_of_isWord hspelled
  have hs : trim s = word.text.toList := by rw [hword, String.toList_ofList]
  have hplus : '+' ∉ s := by
    rw [← plus_mem_trim, hs]
    exact fun hmem => absurd (hin '+' hmem) (by decide)
  have htext := ofText_of_word hs hin
  rw [ofName, if_pos hname] at htext
  exact ⟨hplus, word.text, by simpa [references] using htext, hkind⟩

/-- The expression resolves to the primitive, whatever types are declared. -/
def StandsFor (e : TypeExpr) (kind : Primitive) : Prop :=
  ∀ (m : Type → Type) [Monad m] [MonadExceptOf SchemaError m] (refer : String → Option (m Layout))
    (owner : String), e.resolve refer owner = pure (.ofPrimitive kind)

theorem standsFor_primitive {name : String} {kind : Primitive}
    (h : Primitive.ofText? name = some kind) : (primitive name).StandsFor kind := by
  intro m _ _ refer owner
  simp only [resolve, h]

theorem standsFor_bytes (n : UInt64) : (bytes n).StandsFor (.fixedBytes n) :=
  fun _ _ _ _ _ => rfl

theorem parse_eq {s : String} {result : Except TypeFault TypeExpr} (h : ofText s.toList = result) :
    parse s = result.mapError (.invalidTypeExpr s) := by
  rw [parse, h]

/-- What the vocabulary takes for a primitive is read as that primitive, unless there is a plus sign
before the width. -/
theorem parse_of_ofText? {s : String} {kind : Primitive} (h : Primitive.ofText? s = some kind) :
    ('+' ∉ s.toList → ∃ e, parse s = .ok e ∧ e.StandsFor kind) ∧
    ('+' ∈ s.toList → parse s = .error (.invalidTypeExpr s .grammar)) := by
  simp only [Primitive.ofText?, Option.or_eq_some_iff] at h
  rcases h with hword | ⟨-, hbrackets⟩
  · obtain ⟨hplus, name, htext, hkind⟩ := ofText_of_ofWord? hword
    exact ⟨fun _ => ⟨primitive name, parse_eq htext, standsFor_primitive hkind⟩,
      fun hmem => absurd hmem hplus⟩
  · obtain ⟨n, rfl, htext⟩ := ofText_of_ofBrackets? hbrackets
    constructor
    · intro hplus
      rw [if_neg hplus] at htext
      exact ⟨bytes n, parse_eq htext, standsFor_bytes n⟩
    · intro hplus
      rw [if_pos hplus] at htext
      exact parse_eq htext

theorem parse_of_ofText?_bytes :
    (Primitive.ofText? " [u8\t;007 ] " = some (.fixedBytes 7) ∧
      ∃ e, parse " [u8\t;007 ] " = .ok e ∧ e.StandsFor (.fixedBytes 7)) ∧
    (Primitive.ofText? "[u8; +7]" = some (.fixedBytes 7) ∧
      parse "[u8; +7]" = .error (.invalidTypeExpr "[u8; +7]" .grammar)) := by
  have hpadded : Primitive.ofText? " [u8\t;007 ] " = some (.fixedBytes 7) := by decide
  have hsigned : Primitive.ofText? "[u8; +7]" = some (.fixedBytes 7) := by decide
  exact ⟨⟨hpadded, (parse_of_ofText? hpadded).1 (by decide)⟩,
    hsigned, (parse_of_ofText? hsigned).2 (by decide)⟩

/-- The sign is read by one reader only. -/
theorem parse_plus :
    Primitive.ofText? "[+5]" = some (.fixedBytes 5) ∧
      parse "[+5]" = .error (.invalidTypeExpr "[+5]" .grammar) := by
  have hbrackets : Primitive.ofBrackets? (trim "[+5]".toList) = some (.fixedBytes 5) := by
    decide
  obtain ⟨n, -, htext⟩ := ofText_of_ofBrackets? hbrackets
  rw [if_pos (by decide)] at htext
  exact ⟨by decide, parse_eq htext⟩

end WireSchema.TypeExpr
