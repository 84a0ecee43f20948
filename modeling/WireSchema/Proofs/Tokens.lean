import Mathlib.Data.List.Forall2
import WireSchema.Proofs.Scanning
import WireSchema.Proofs.Spelling

/-!
The tokens of printed forms. Main statement: a printed form is scanned as the tokens that its
spelling tells.
-/

namespace WireSchema.TypeExpr
open Text Token

/-- A word of a path that is a name and not raw. -/
def plainWord (text : String) (spelled : isWord text.toList := by decide)
    (free : text ∉ Word.reserved := by decide) : PathWord :=
  .name (.plain ⟨text, spelled⟩ free)

/-- The word that a generic type is printed with. Nothing is printed as a transparent one. -/
def Generic.word : Generic → PathWord
  | sequence => plainWord "Vec"
  | option => plainWord "Option"
  | transparent => plainWord "Box"
  | map => plainWord "BTreeMap"
  | boundedSequence => plainWord "MaxLenVec"
  | boundedString => plainWord "MaxLenString"
  | boundedMap => plainWord "MaxLenBTreeMap"

def byteWord : PathWord :=
  plainWord "u8"

def number (n : UInt64) : Token :=
  .integer (String.ofList (digits n.toNat)) n.toNat true

/-- The tokens of a generic type. `joint` tells whether a mark follows at once. -/
def enclosed (word : PathWord) (arguments : List (List Token)) (joint : Bool) : List Token :=
  ofPathWord word :: mark '<' false ::
    ([mark ',' false].intercalate arguments ++ [mark '>' joint])

/-- The tokens of an array. -/
def bracketed (element : List Token) (length : UInt64) : List Token :=
  opening .bracket :: (element ++ [mark ';' false, number length, closing .bracket])

def Spelling.tokens {e : TypeExpr} : Spelling e → Bool → List Token
  | name word _, _ => [ofPathWord word]
  | sequence element, joint => enclosed (Generic.word .sequence) [element.tokens true] joint
  | boundedSequence element bound, joint =>
    enclosed (Generic.word .boundedSequence) [element.tokens true, [number bound]] joint
  | option inner, joint => enclosed (Generic.word .option) [inner.tokens true] joint
  | map key value, joint =>
    enclosed (Generic.word .map) [key.tokens true, value.tokens true] joint
  | boundedMap key value bound, joint =>
    enclosed (Generic.word .boundedMap) [key.tokens true, value.tokens true, [number bound]] joint
  | array element length _, _ => bracketed (element.tokens true) length
  | bytes width, _ => bracketed [ofPathWord byteWord] width
  | boundedString bound, joint => enclosed (Generic.word .boundedString) [[number bound]] joint

/-- The text is scanned as the tokens, which may tell whether a mark follows at once. It does not
begin with a mark. -/
structure Legible (text : List Char) (tokens : Bool → List Token) : Prop where
  start : ∃ c rest, text = c :: rest ∧ (InWord c ∨ c = '[')
  scans : ∀ rest ts, Apart rest → Scans rest ts →
    Scans (text ++ rest) (tokens (atMark rest) ++ ts)

theorem Legible.not_atMark {text : List Char} {tokens : Bool → List Token}
    (h : Legible text tokens) (rest : List Char) : atMark (text ++ rest) = false := by
  obtain ⟨c, tail, htext, hc⟩ := h.start
  rw [htext]
  rcases hc with hin | rfl
  · exact atMark_of_inWord _ hin
  · rfl

theorem legible_pathWord (word : PathWord) :
    Legible word.text.toList fun _ => [ofPathWord word] where
  start := by
    obtain ⟨c, rest, htext, hc⟩ := word.exists_cons
    exact ⟨c, rest, htext, .inl (.inl hc)⟩
  scans rest ts hrest h := h.pathWord hrest word

theorem legible_number (n : UInt64) : Legible (toString n.toNat).toList fun _ => [number n] := by
  rw [toList_toString]
  constructor
  · cases hdigits : digits n.toNat with
    | nil => simp [digits, Nat.toDigits_ne_nil] at hdigits
    | cons c body =>
      have hin : InWord c := inWord_of_mem_digits (n := n.toNat) (by simp [hdigits])
      exact ⟨c, body, rfl, .inl hin⟩
  · intro rest ts hrest h
    exact h.number hrest n.toNat

theorem atMark_cons {c : Char} (s : List Char) (h : c ∈ ['<', '>', ',', ';']) :
    atMark (c :: s) = true := by
  simp only [List.mem_cons, List.not_mem_nil, or_false] at h
  rcases h with rfl | rfl | rfl | rfl <;> rfl

theorem atMark_blank (s : List Char) : atMark (' ' :: s) = false :=
  rfl

theorem scans_arguments {texts : List (List Char)} {tokens : List (Bool → List Token)}
    (h : List.Forall₂ Legible texts tokens) {rest : List Char} {ts : List Token}
    (hrest : Scans rest ts) :
    Scans ([',', ' '].intercalate texts ++ '>' :: rest)
      ([mark ',' false].intercalate (tokens.map (· true)) ++ mark '>' (atMark rest) :: ts) := by
  induction h with
  | nil => exact hrest.mark (by decide)
  | @cons text argument texts tokens htext htexts ih =>
    cases htexts with
    | nil =>
      have hclose := hrest.mark (c := '>') (by decide)
      have hscans := htext.scans _ _ (apart_cons rest (by decide)) hclose
      simpa [List.intercalate, atMark_cons] using hscans
    | cons hnext hmore =>
      have hgap := ih.gap (c := ' ') (by decide)
      have hcomma := hgap.mark (c := ',') (by decide)
      have hscans := htext.scans _ _ (apart_cons _ (by decide)) hcomma
      simpa [List.intercalate, atMark_cons, atMark_blank] using hscans

theorem atMark_arguments {texts : List (List Char)} {tokens : List (Bool → List Token)}
    (h : List.Forall₂ Legible texts tokens) (hne : texts ≠ []) (rest : List Char) :
    atMark ([',', ' '].intercalate texts ++ rest) = false := by
  cases h with
  | nil => exact absurd rfl hne
  | cons hfirst hmore =>
    cases hmore with
    | nil => simpa [List.intercalate] using hfirst.not_atMark rest
    | cons hnext hlater =>
      simp only [List.intercalate, List.intersperse_cons_cons, List.flatten_cons, List.append_assoc]
      exact hfirst.not_atMark _

/-- No mark follows the opening bracket at once. -/
theorem legible_enclosed (word : PathWord) {arguments : List String}
    {tokens : List (Bool → List Token)} (hne : arguments ≠ [])
    (h : List.Forall₂ (fun argument => Legible argument.toList) arguments tokens) :
    Legible (enclose word.text arguments).toList (enclosed word (tokens.map (· true))) where
  start := by
    obtain ⟨c, rest, htext, hc⟩ := word.exists_cons
    rw [toList_enclose, htext]
    exact ⟨c, _, rfl, .inl (.inl hc)⟩
  scans rest ts hrest hts := by
    have htexts : List.Forall₂ Legible (arguments.map String.toList) tokens :=
      List.forall₂_map_left_iff.mpr h
    have hinner := scans_arguments htexts hts
    have hopen := atMark_arguments htexts (by simpa using hne) ('>' :: rest)
    have hscans := (hinner.mark (c := '<') (by decide)).pathWord (apart_cons _ (by decide)) word
    rw [hopen] at hscans
    simpa [toList_enclose, enclosed] using hscans

theorem legible_bracketed {element : String} {tokens : Bool → List Token}
    (h : Legible element.toList tokens) (length : UInt64) :
    Legible (bracket element length).toList fun _ => bracketed (tokens true) length where
  start := ⟨'[', _, toList_bracket element length, .inr rfl⟩
  scans rest ts hrest hts := by
    have hclose : Scans (']' :: rest) (closing .bracket :: ts) :=
      hts.token (token?_closing rest) (Nat.le_refl _) (by decide) (by decide)
    have hnumber := (legible_number length).scans _ _ (apart_cons rest (by decide)) hclose
    have hmark := (hnumber.gap (c := ' ') (by decide)).mark (c := ';') (by decide)
    have helement := h.scans _ _ (apart_cons _ (by decide)) hmark
    have hscans := helement.token (token?_opening _) (Nat.le_refl _) (by decide) (by decide)
    simpa [toList_bracket, bracketed, atMark_cons, atMark_blank] using hscans

theorem Spelling.legible {e : TypeExpr} (spelling : Spelling e) :
    Legible e.render.toList spelling.tokens := by
  induction spelling with
  | name word he =>
    subst he
    rw [render_ofName]
    exact legible_pathWord word
  | sequence element ih =>
    exact legible_enclosed (Generic.word .sequence) (by simp) (.cons ih .nil)
  | boundedSequence element bound ih =>
    exact legible_enclosed (Generic.word .boundedSequence) (by simp)
      (.cons ih (.cons (legible_number bound) .nil))
  | option inner ih =>
    exact legible_enclosed (Generic.word .option) (by simp) (.cons ih .nil)
  | map key value ihk ihv =>
    exact legible_enclosed (Generic.word .map) (by simp) (.cons ihk (.cons ihv .nil))
  | boundedMap key value bound ihk ihv =>
    exact legible_enclosed (Generic.word .boundedMap) (by simp)
      (.cons ihk (.cons ihv (.cons (legible_number bound) .nil)))
  | array element length hbytes ih => exact legible_bracketed ih length
  | bytes width => exact legible_bracketed (legible_pathWord byteWord) width
  | boundedString bound =>
    exact legible_enclosed (Generic.word .boundedString) (by simp)
      (.cons (legible_number bound) .nil)

theorem Legible.scan? {text rest : List Char} {tokens : Bool → List Token} {ts : List Token}
    (h : Legible text tokens) (hscans : Scans (text ++ rest) ts) :
    Token.scan? (text ++ rest) = some ts := by
  obtain ⟨c, tail, htext, hc⟩ := h.start
  have hmark : c ≠ '\ufeff' := by
    rcases hc with hin | rfl
    · exact hin.ne not_inWord_byteOrderMark
    · decide
  exact scan?_of_scans hscans (by simpa [htext] using hmark)

theorem scan?_render {e : TypeExpr} (spelling : Spelling e) :
    Token.scan? e.render.toList = some (spelling.tokens false) := by
  have hscans := spelling.legible.scans [] [] (by simp [Apart]) scans_nil
  simpa [atMark] using spelling.legible.scan? hscans

/-- Every delimiter among the tokens is closed among them. -/
def Closes (ts : List Token) : Prop :=
  ∀ unclosed rest, balanced unclosed (ts ++ rest) = balanced unclosed rest

theorem Closes.append {a b : List Token} (ha : Closes a) (hb : Closes b) : Closes (a ++ b) := by
  intro unclosed rest
  rw [List.append_assoc, ha, hb]

theorem closes_pathWord (word : PathWord) : Closes [ofPathWord word] := by
  intro unclosed rest
  cases word <;> rfl

theorem closes_intercalate {arguments : List (List Token)} (h : ∀ ts ∈ arguments, Closes ts) :
    Closes ([mark ',' false].intercalate arguments) := by
  induction arguments with
  | nil => intro unclosed rest; rfl
  | cons first arguments ih =>
    obtain ⟨hfirst, hmore⟩ := List.forall_mem_cons.mp h
    cases arguments with
    | nil => simpa [List.intercalate] using hfirst
    | cons second arguments =>
      have hcomma : Closes [mark ',' false] := fun _ _ => rfl
      have hall := (hfirst.append hcomma).append (ih hmore)
      simpa [List.intercalate] using hall

theorem closes_enclosed (word : PathWord) {arguments : List (List Token)}
    (h : ∀ ts ∈ arguments, Closes ts) (joint : Bool) : Closes (enclosed word arguments joint) := by
  have hopen : Closes [mark '<' false] := fun _ _ => rfl
  have hclose : Closes [mark '>' joint] := fun _ _ => rfl
  have hall := ((closes_pathWord word).append hopen).append ((closes_intercalate h).append hclose)
  simpa [enclosed] using hall

theorem closes_bracketed {element : List Token} (h : Closes element) (length : UInt64) :
    Closes (bracketed element length) := by
  have heq : ∀ unclosed rest, balanced unclosed (element ++ rest) = balanced unclosed rest := h
  intro unclosed rest
  simp [bracketed, balanced, heq, number]

theorem Spelling.closes {e : TypeExpr} (spelling : Spelling e) (joint : Bool) :
    Closes (spelling.tokens joint) := by
  have hnumber (n : UInt64) : Closes [number n] := fun _ _ => rfl
  induction spelling generalizing joint with
  | name word he => exact closes_pathWord word
  | sequence element ih => exact closes_enclosed _ (by simp [ih]) joint
  | boundedSequence element bound ih => exact closes_enclosed _ (by simp [ih, hnumber]) joint
  | option inner ih => exact closes_enclosed _ (by simp [ih]) joint
  | map key value ihk ihv => exact closes_enclosed _ (by simp [ihk, ihv]) joint
  | boundedMap key value bound ihk ihv =>
    exact closes_enclosed _ (by simp [ihk, ihv, hnumber]) joint
  | array element length hbytes ih => exact closes_bracketed (ih true) length
  | bytes width => exact closes_bracketed (closes_pathWord _) width
  | boundedString bound => exact closes_enclosed _ (by simp [hnumber]) joint

theorem trim_cons {c : Char} (s : List Char) (h : isBlank c = false) :
    ∃ rest, trim (c :: s) = c :: rest := by
  have hstart : trimStart (c :: s) = c :: s := by simp [trimStart, h]
  simp only [trim, hstart, trimEnd, List.reverse_cons, List.dropWhile_append]
  split
  · exact ⟨[], by simp [h]⟩
  · exact ⟨_, List.reverse_append⟩

theorem trim_bracket (body : List Char) :
    trim ('[' :: (body ++ [']'])) = '[' :: (body ++ [']']) := by
  have hopen : isBlank '[' = false := by decide
  have hclose : isBlank ']' = false := by decide
  simp [trim, trimStart, trimEnd, hopen, hclose]

theorem shorthand?_of_trim {c : Char} {s rest : List Char} (hs : trim s = c :: rest)
    (h : InWord c) : shorthand? s = none := by
  have hbracket : c ≠ '[' := h.ne (by decide)
  have hnone : Primitive.unbracket? (c :: rest) = none := by
    unfold Primitive.unbracket?
    split
    · simp_all
    · rfl
  simp [shorthand?, hs, hnone]

/-- What the brackets hold is no single number. -/
theorem shorthand?_of_length {s inner : List Char} {ts : List Token}
    (hinner : Primitive.unbracket? (trim s) = some inner) (hscan : Token.scan? inner = some ts)
    (hlength : ts.length ≠ 1) : shorthand? s = none := by
  unfold shorthand?
  simp only [hinner, hscan, Option.bind_eq_bind, Option.bind_some]
  split
  · exact absurd rfl hlength
  · rfl

/-- An array has an element besides its length. -/
theorem shorthand?_bracket {element : String} {tokens : Bool → List Token}
    (h : Legible element.toList tokens) (length : UInt64) :
    shorthand? (bracket element length).toList = none := by
  have hbody : Token.scan? (element.toList ++ [';', ' '] ++ (toString length.toNat).toList) =
      some (tokens true ++ [mark ';' false, number length]) := by
    have hnumber := (legible_number length).scans [] [] (by simp [Apart]) scans_nil
    have hmark := (hnumber.gap (c := ' ') (by decide)).mark (c := ';') (by decide)
    have hscans := h.scans _ _ (apart_cons _ (by decide)) hmark
    have hall := h.scan? hscans
    simpa [atMark_cons, atMark_blank] using hall
  have hinner : Primitive.unbracket? (trim (bracket element length).toList) =
      some (element.toList ++ [';', ' '] ++ (toString length.toNat).toList) := by
    rw [toList_bracket, trim_bracket]
    simp [Primitive.unbracket?]
  exact shorthand?_of_length hinner hbody (by simp)

theorem shorthand?_pathWord (word : PathWord) (rest : List Char) :
    shorthand? (word.text.toList ++ rest) = none := by
  obtain ⟨c, tail, htext, hc⟩ := word.exists_cons
  have hin : InWord c := .inl hc
  obtain ⟨more, htrim⟩ := trim_cons (tail ++ rest) (isBlank_eq_false hin)
  rw [htext, List.cons_append]
  exact shorthand?_of_trim htrim hin

theorem shorthand?_enclose (word : PathWord) (arguments : List String) :
    shorthand? (enclose word.text arguments).toList = none := by
  rw [toList_enclose]
  exact shorthand?_pathWord word _

theorem shorthand?_render {e : TypeExpr} (spelling : Spelling e) :
    shorthand? e.render.toList = none := by
  cases spelling with
  | name word he =>
    subst he
    simpa [render_ofName] using shorthand?_pathWord word []
  | sequence => exact shorthand?_enclose (Generic.word .sequence) _
  | boundedSequence => exact shorthand?_enclose (Generic.word .boundedSequence) _
  | option => exact shorthand?_enclose (Generic.word .option) _
  | map => exact shorthand?_enclose (Generic.word .map) _
  | boundedMap => exact shorthand?_enclose (Generic.word .boundedMap) _
  | array element length hbytes => exact shorthand?_bracket element.legible length
  | bytes width => exact shorthand?_bracket (legible_pathWord byteWord) width
  | boundedString => exact shorthand?_enclose (Generic.word .boundedString) _

end WireSchema.TypeExpr
