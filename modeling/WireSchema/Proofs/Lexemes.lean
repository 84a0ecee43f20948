import WireSchema.Token.Scan

/-!
Where the tokens of a text stand in it. Main statements: the pieces of a text, comments and blanks
among them, make up all of it and have the tokens that it is scanned to; a mark or a delimiter is
written as one character, and no word and no number has a bracket in it.
-/

namespace WireSchema

/-- What is left of a text after some characters, all of which are such. -/
inductive Skips (p : Char → Prop) : List Char → List Char → Prop
  | refl (s : List Char) : Skips p s s
  | cons {c : Char} {s rest : List Char} : p c → Skips p s rest → Skips p (c :: s) rest

/-- Whatever the characters are. -/
abbrev Leaves : List Char → List Char → Prop :=
  Skips fun _ => True

section Skips
variable {p : Char → Prop} {s mid rest : List Char}

theorem Skips.trans (h : Skips p s mid) (hrest : Skips p mid rest) : Skips p s rest := by
  induction h with
  | refl => exact hrest
  | cons hc _ ih => exact .cons hc (ih hrest)

theorem Skips.leaves (h : Skips p s rest) : Leaves s rest := by
  induction h with
  | refl => exact .refl _
  | cons _ _ ih => exact .cons trivial ih

theorem Skips.exists_append (h : Skips p s rest) : ∃ text, s = text ++ rest ∧ ∀ c ∈ text, p c := by
  induction h with
  | refl => exact ⟨[], rfl, nofun⟩
  | cons hc _ ih =>
    obtain ⟨text, rfl, hall⟩ := ih
    exact ⟨_ :: text, rfl, List.forall_mem_cons.mpr ⟨hc, hall⟩⟩

theorem skips_dropWhile {q : Char → Bool} (h : ∀ c, q c → p c) (s : List Char) :
    Skips p s (s.dropWhile q) := by
  induction s with
  | nil => exact .refl []
  | cons c s ih =>
    rw [List.dropWhile_cons]
    split
    · exact .cons (h c ‹_›) ih
    · exact .refl _

theorem leaves_drop (n : Nat) (s : List Char) : Leaves s (s.drop n) := by
  induction s generalizing n with
  | nil => simpa using .refl []
  | cons c s ih =>
    cases n with
    | zero => exact .refl _
    | succ n => exact .cons trivial (ih n)

theorem leaves_of_drop (n : Nat) (h : Leaves (s.drop n) rest) : Leaves s rest :=
  (leaves_drop n s).trans h

end Skips

namespace Token
open Text

/-! Whatever is skipped, what is left is the end of what was given. -/

theorem leaves_blockRest {depth : Nat} {s rest : List Char} (h : blockRest? depth s = some rest) :
    Leaves s rest := by
  fun_induction blockRest? depth s with
  | case1 depth s ih => exact leaves_of_drop 2 (ih h)
  | case2 s => exact leaves_of_drop 2 (Option.some.inj h ▸ .refl s)
  | case3 s depth ih => exact leaves_of_drop 2 (ih h)
  | case4 depth c s _ _ ih => exact leaves_of_drop 1 (ih h)
  | case5 => cases h

theorem leaves_lineRest (s : List Char) : Leaves s (lineRest s) :=
  skips_dropWhile (fun _ _ => trivial) s

theorem eq_of_documented {inner : Bool} {s next rest : List Char} {ts : List Token}
    (h : documented? inner s next = some (ts, rest)) : next = rest := by
  simp only [documented?, Option.ite_none_left_eq_some, Option.some.injEq, Prod.mk.injEq] at h
  exact h.2.2

theorem leaves_comment {s rest : List Char} {ts : List Token} (h : comment? s = some (ts, rest)) :
    Leaves s rest := by
  unfold comment? at h
  split at h
  · cases h
    exact leaves_of_drop 4 (leaves_lineRest _)
  · obtain rfl := eq_of_documented h
    exact leaves_of_drop 3 (leaves_lineRest _)
  · obtain rfl := eq_of_documented h
    exact leaves_of_drop 3 (leaves_lineRest _)
  · cases h
    exact leaves_of_drop 2 (leaves_lineRest _)
  · cases h
    exact leaves_of_drop 4 (.refl _)
  · simp only [Option.bind_eq_bind, Option.bind_eq_some_iff] at h
    obtain ⟨_, hrest, ⟨⟩⟩ := h
    exact leaves_of_drop 2 (leaves_blockRest hrest)
  · simp only [Option.bind_eq_bind, Option.bind_eq_some_iff] at h
    obtain ⟨_, hrest, hdocument⟩ := h
    obtain rfl := eq_of_documented hdocument
    exact leaves_of_drop 3 (leaves_blockRest hrest)
  · simp only [Option.bind_eq_bind, Option.bind_eq_some_iff] at h
    obtain ⟨_, hrest, hdocument⟩ := h
    obtain rfl := eq_of_documented hdocument
    exact leaves_of_drop 3 (leaves_blockRest hrest)
  · simp only [Option.bind_eq_bind, Option.bind_eq_some_iff] at h
    obtain ⟨_, hrest, ⟨⟩⟩ := h
    exact leaves_of_drop 2 (leaves_blockRest hrest)
  · cases h

theorem leaves_unicodeEscape {count value n : Nat} {s rest : List Char}
    (h : unicodeEscape? count value s = some (n, rest)) : Leaves s rest := by
  fun_induction unicodeEscape? count value s with
  | case1 => cases h
  | case2 =>
    cases h
    exact leaves_of_drop 1 (.refl _)
  | case3 => cases h
  | case4 _ _ _ _ _ _ _ ih => exact leaves_of_drop 1 (ih h)
  | case5 => cases h
  | case6 _ _ _ _ _ _ _ _ _ ih => exact leaves_of_drop 1 (ih h)
  | case7 => cases h
  | case8 => cases h

theorem leaves_escapeRest {kind : QuoteKind} {s rest : List Char}
    (h : escapeRest? kind s = some rest) : Leaves s rest := by
  unfold escapeRest? at h
  split at h
  · simp only [Option.bind_eq_bind, Option.bind_eq_some_iff, Option.ite_none_right_eq_some] at h
    obtain ⟨_, -, _, -, -, ⟨⟩⟩ := h
    exact leaves_of_drop 3 (.refl _)
  · simp only [Option.bind_eq_bind, Option.bind_eq_some_iff, Prod.exists] at h
    obtain ⟨value, mid, hescape, hmid⟩ := h
    have hrest : mid = rest := by
      cases kind with
      | text => exact Option.some.inj hmid
      | bytes => cases hmid
      | terminated => exact Option.some.inj (Option.ite_none_right_eq_some.mp hmid).2
    exact hrest ▸ leaves_of_drop 2 (leaves_unicodeEscape hescape)
  · obtain ⟨-, ⟨⟩⟩ := Option.ite_none_left_eq_some.mp h
    exact leaves_of_drop 1 (.refl _)
  · obtain ⟨-, ⟨⟩⟩ := Option.ite_none_right_eq_some.mp h
    exact leaves_of_drop 1 (.refl _)
  · cases h

theorem leaves_continuedRest {s rest : List Char} (h : continuedRest? s = some rest) :
    Leaves s rest := by
  fun_induction continuedRest? s with
  | case1 s ih => exact leaves_of_drop 2 (ih h)
  | case2 => cases h
  | case3 c s _ _ _ ih => exact leaves_of_drop 1 (ih h)
  | case4 =>
    cases h
    exact .refl _
  | case5 => cases h

theorem leaves_stringRest {kind : QuoteKind} {steps : Nat} {s rest : List Char}
    (h : stringRest? kind steps s = some rest) : Leaves s rest := by
  fun_induction stringRest? kind steps s with
  | case1 => cases h
  | case2 steps s =>
    cases h
    exact leaves_of_drop 1 (.refl _)
  | case3 steps s ih => exact leaves_of_drop 2 (ih h)
  | case4 => cases h
  | case5 steps c s _ _ ih =>
    obtain ⟨mid, hmid, hrest⟩ := Option.bind_eq_some_iff.mp h
    exact leaves_of_drop 1 ((leaves_continuedRest hmid).trans (ih mid hrest))
  | case6 steps c s _ _ ih =>
    obtain ⟨mid, hmid, hrest⟩ := Option.bind_eq_some_iff.mp h
    exact leaves_of_drop 1 ((leaves_escapeRest hmid).trans (ih mid hrest))
  | case7 steps c s _ _ _ _ _ ih => exact leaves_of_drop 1 (ih h)
  | case8 => cases h
  | case9 => cases h

theorem leaves_rawRest {kind : QuoteKind} {hashes : Nat} {s rest : List Char}
    (h : rawRest? kind hashes s = some rest) : Leaves s rest := by
  fun_induction rawRest? kind hashes s with
  | case1 => cases h
  | case2 s ih => exact leaves_of_drop 2 (ih h)
  | case3 => cases h
  | case4 =>
    cases h
    exact leaves_of_drop 1 (leaves_drop _ _)
  | case5 c s _ _ _ _ ih => exact leaves_of_drop 1 (ih h)
  | case6 => cases h

theorem leaves_openRaw {kind : QuoteKind} {s rest : List Char} (h : openRaw? kind s = some rest) :
    Leaves s rest := by
  simp only [openRaw?] at h
  split at h
  · rename_i heq
    split at h
    · refine leaves_of_drop (s.takeWhile (· == '#')).length ?_
      rw [heq]
      exact leaves_of_drop 1 (leaves_rawRest h)
    · cases h
  · cases h

theorem leaves_charRest {kind : QuoteKind} {s rest : List Char}
    (h : charRest? kind s = some rest) : Leaves s rest := by
  unfold charRest? at h
  split at h
  · obtain ⟨mid, hmid, hquote⟩ := Option.bind_eq_some_iff.mp h
    refine leaves_of_drop 1 ((leaves_escapeRest hmid).trans ?_)
    dsimp only at hquote
    split at hquote
    · cases hquote
      exact leaves_of_drop 1 (.refl _)
    · cases hquote
  · split at h
    · simp only [Option.bind_eq_bind, Option.bind_some] at h
      split at h
      · cases h
        exact leaves_of_drop 2 (.refl _)
      · cases h
    · cases h
  · cases h

theorem leaves_plainRest {s rest : List Char} (h : plainRest? s = some rest) : Leaves s rest := by
  unfold plainRest? at h
  split at h
  · exact leaves_of_drop 1 (leaves_stringRest h)
  · exact leaves_of_drop 1 (leaves_openRaw h)
  · cases h

theorem leaves_quotedRest {s rest : List Char} (h : quotedRest? s = some rest) :
    Leaves s rest := by
  unfold quotedRest? at h
  split at h
  · exact leaves_of_drop 2 (leaves_stringRest h)
  · exact leaves_of_drop 2 (leaves_stringRest h)
  · exact leaves_of_drop 2 (leaves_openRaw h)
  · exact leaves_of_drop 2 (leaves_openRaw h)
  · exact leaves_of_drop 2 (leaves_charRest h)
  · exact leaves_of_drop 1 (leaves_charRest h)
  · cases h

/-- The brackets that nest, opening and closing. -/
def brackets : List Char :=
  ['<', '[', '(', '>', ']', ')']

theorem not_mem_brackets {p : Char → Bool} (hp : brackets.any p = false) {c : Char} (h : p c) :
    c ∉ brackets :=
  fun hc => List.any_eq_false.mp hp c hc h

theorem skips_while {q : Char → Bool} (hq : brackets.any q = false) (s : List Char) :
    Skips (· ∉ brackets) s (s.dropWhile q) :=
  skips_dropWhile (fun _ hc => not_mem_brackets hq hc) s

/-- Names, numbers and the like have no bracket in them. -/
def IsFlat : Token → Prop
  | name _ | keyword _ | lifetime | integer _ _ _ | decimal _ => True
  | _ => False

/-- The characters of a delimiter, as they open and close. -/
def opener : Delimiter → Char
  | .paren => '('
  | .bracket => '['
  | .brace => '\x7b'

def closer : Delimiter → Char
  | .paren => ')'
  | .bracket => ']'
  | .brace => '\x7d'

/-- How a token is written. -/
def Spells : Token → List Char → Prop
  | mark c _, text => text = [c]
  | opening delimiter, text => text = [opener delimiter]
  | closing delimiter, text => text = [closer delimiter]
  | string, _ | quoted, _ => True
  | _, text => ∀ c ∈ text, c ∉ brackets

theorem IsFlat.spells {t : Token} (h : t.IsFlat) {text : List Char}
    (htext : ∀ c ∈ text, c ∉ brackets) : t.Spells text := by
  cases t <;> first | exact htext | exact h.elim

/-- The token that a text begins with, and what follows it. -/
def Begins (s : List Char) (t : Token) (rest : List Char) : Prop :=
  ∃ text, s = text ++ rest ∧ t.Spells text

theorem begins_flat {s rest : List Char} {t : Token} (ht : t.IsFlat)
    (h : Skips (· ∉ brackets) s rest) : Begins s t rest := by
  obtain ⟨text, hs, hflat⟩ := h.exists_append
  exact ⟨text, hs, ht.spells hflat⟩

theorem skips_dropWord (s : List Char) : Skips (· ∉ brackets) s (dropWord s) := by
  unfold dropWord
  split
  · split
    · exact skips_while (by decide) _
    · exact .refl _
  · exact .refl []

theorem begins_quoted {s rest : List Char} {t : Token} (h : quoted? s = some (t, rest)) :
    Begins s t rest := by
  have any {t : Token} (ht : t = string ∨ t = quoted) (h : Leaves s rest) : Begins s t rest := by
    obtain ⟨text, hs, -⟩ := h.exists_append
    rcases ht with rfl | rfl <;> exact ⟨text, hs, trivial⟩
  unfold quoted? at h
  split at h
  · rename_i hplain
    cases h
    exact any (.inl rfl) ((leaves_plainRest hplain).trans (skips_dropWord _).leaves)
  · obtain ⟨mid, hmid, ⟨⟩⟩ := Option.map_eq_some_iff.mp h
    exact any (.inr rfl) ((leaves_quotedRest hmid).trans (skips_dropWord _).leaves)

theorem skips_dropSuffix {s rest : List Char} (h : dropSuffix? s = some rest) :
    Skips (· ∉ brackets) s rest := by
  obtain ⟨-, ⟨⟩⟩ := Option.ite_none_left_eq_some.mp h
  exact skips_dropWord s

theorem isNumberChar_bracket (base : Nat) : brackets.any (isNumberChar base) = false := by
  simp [brackets, isNumberChar, Bytes.hexValue?]

theorem skips_splitBase (s : List Char) : Skips (· ∉ brackets) s (splitBase s).2 := by
  unfold splitBase
  split
  · exact .cons (by decide) (.cons (by decide) (.refl _))
  · exact .cons (by decide) (.cons (by decide) (.refl _))
  · exact .cons (by decide) (.cons (by decide) (.refl _))
  · exact .refl _

theorem begins_integer {s rest : List Char} {t : Token} (h : integer? s = some (t, rest)) :
    Begins s t rest := by
  simp only [integer?, Option.bind_eq_bind] at h
  split at h
  · cases h
  · obtain ⟨_, hsuffix, ⟨⟩⟩ := Option.bind_eq_some_iff.mp h
    have hdigits := skips_while (isNumberChar_bracket (splitBase s).1) (splitBase s).2
    have hall := ((skips_splitBase s).trans hdigits).trans (skips_dropSuffix hsuffix)
    exact begins_flat trivial hall

theorem skips_exponentRest {sign digit : Bool} {s rest : List Char}
    (h : exponentRest? sign digit s = some rest) : Skips (· ∉ brackets) s rest := by
  fun_induction exponentRest? sign digit s with
  | case1 =>
    cases h
    exact .refl []
  | case2 => cases h
  | case3 sign digit c s hc ih => exact .cons (not_mem_brackets (by decide) hc) (ih h)
  | case4 sign digit c s _ hc ih =>
    obtain rfl := beq_iff_eq.mp hc
    exact .cons (by decide) (ih h)
  | case5 =>
    cases h
    exact .refl _
  | case6 sign digit c s _ _ _ hc ih =>
    have hsign : c == '+' || c == '-' := (Bool.and_eq_true_iff.mp hc).1
    exact .cons (not_mem_brackets (p := fun c => c == '+' || c == '-') (by decide) hsign) (ih h)
  | case7 => cases h

theorem skips_decimalRest {s rest : List Char} (h : decimalRest? s = some rest) :
    Skips (· ∉ brackets) s rest := by
  unfold decimalRest? at h
  split at h
  · cases h
  have hdigits : Skips (· ∉ brackets) s (s.dropWhile isDigitOrBreak) := skips_while (by decide) s
  have mark {c : Char} (hc : isExponentMark c) : c ∉ brackets := not_mem_brackets (by decide) hc
  split at h
  · rename_i places hpoint
    split at h
    · cases h
    have hplaces : Skips (· ∉ brackets) s (places.dropWhile isDigitOrBreak) := by
      rw [hpoint] at hdigits
      exact hdigits.trans (.cons (by decide) (skips_while (by decide) places))
    split at h
    · rename_i c places' hexponent
      rw [hexponent] at hplaces
      split at h
      · rename_i hc
        cases hrest : exponentRest? false false places' with
        | none =>
          rw [hrest] at h
          cases h
          exact hplaces
        | some rest' =>
          rw [hrest] at h
          cases h
          exact hplaces.trans (.cons (mark hc) (skips_exponentRest hrest))
      · cases h
        exact hplaces
    · rename_i hend
      cases h
      rwa [hend] at hplaces
  · rename_i c s' _ hexponent
    rw [hexponent] at hdigits
    obtain ⟨hc, hrest⟩ := Option.ite_none_right_eq_some.mp h
    exact hdigits.trans (.cons (mark hc) (skips_exponentRest hrest))
  · cases h

theorem begins_decimal {s rest : List Char} {t : Token} (h : decimal? s = some (t, rest)) :
    Begins s t rest := by
  simp only [decimal?, Option.bind_eq_bind, Option.bind_eq_some_iff] at h
  obtain ⟨mid, hmid, _, hsuffix, ⟨⟩⟩ := h
  exact begins_flat trivial ((skips_decimalRest hmid).trans (skips_dropSuffix hsuffix))

theorem skips_split {s rest : List Char} {word : Word} (h : Word.split? s = some (word, rest)) :
    Skips (· ∉ brackets) s rest := by
  cases s with
  | nil => cases h
  | cons c s =>
    simp only [Word.split?] at h
    split at h
    · rename_i hc
      cases h
      have hstart : c ∉ brackets := not_mem_brackets (p := isIdentStart) (by decide) hc
      exact .cons hstart (skips_while (by decide) s)
    · cases h

theorem isFlat_ofWord (word : Word) : (ofWord word).IsFlat := by
  unfold ofWord
  split <;> trivial

theorem skips_word {s rest : List Char} {t : Token} (h : word? s = some (t, rest)) :
    t.IsFlat ∧ Skips (· ∉ brackets) s rest := by
  unfold word? at h
  split at h
  · simp only [Option.bind_eq_bind, Option.bind_eq_some_iff, Prod.exists] at h
    obtain ⟨word, mid, hsplit, hword⟩ := h
    split at hword
    · cases hword
      exact ⟨trivial, .cons (by decide) (.cons (by decide) (skips_split hsplit))⟩
    · cases hword
  · simp only [Option.bind_eq_bind, Option.bind_eq_some_iff, Prod.exists] at h
    obtain ⟨word, mid, hsplit, ⟨⟩⟩ := h
    exact ⟨isFlat_ofWord word, skips_split hsplit⟩

theorem begins_mark {s rest : List Char} {t : Token} (h : mark? s = some (t, rest)) :
    Begins s t rest := by
  unfold mark? at h
  split at h
  · rename_i body
    simp only [lifetime?, Option.bind_eq_bind, Option.bind_eq_some_iff, Prod.exists] at h
    obtain ⟨word, mid, hword, h⟩ := h
    obtain ⟨-, h⟩ := Option.ite_none_left_eq_some.mp h
    obtain ⟨-, h⟩ := Option.ite_none_left_eq_some.mp h
    split at h
    · cases h
      exact ⟨[_], rfl, rfl⟩
    · cases h
      exact begins_flat trivial (.cons (by decide) (skips_word hword).2)
  · obtain ⟨-, ⟨⟩⟩ := Option.ite_none_right_eq_some.mp h
    exact ⟨[_], rfl, rfl⟩
  · cases h

theorem begins_delimiter {c : Char} {t : Token} (h : ofDelimiter? c = some t) (s : List Char) :
    Begins (c :: s) t s := by
  unfold ofDelimiter? at h
  split at h <;> cases h <;> exact ⟨[_], rfl, rfl⟩

theorem begins_token {s rest : List Char} {t : Token} (h : token? s = some (t, rest)) :
    Begins s t rest := by
  unfold token? at h
  split at h
  · cases h
  split at h
  · cases h
    obtain ⟨text, hs, -⟩ := (leaves_drop lostLiteral.length _).exists_append
    exact ⟨text, hs, trivial⟩
  split at h
  · rename_i hdelimiter
    cases h
    exact begins_delimiter hdelimiter _
  simp only [Option.or_eq_some_iff] at h
  rcases h with h | ⟨-, h | ⟨-, h | ⟨-, h | ⟨-, h⟩⟩⟩⟩
  · exact begins_quoted h
  · exact begins_decimal h
  · exact begins_integer h
  · exact begins_mark h
  · have hword := skips_word (Option.ite_none_left_eq_some.mp h).2
    exact begins_flat hword.1 hword.2

end Token

/-- A piece of a text: what separates tokens, or a token. A comment may stand for some as well. -/
inductive Lexeme
  | gap (text : List Char) (documentation : List Token)
  | token (text : List Char) (own : Token)
  deriving Repr, DecidableEq

namespace Lexeme
open Token

def text : Lexeme → List Char
  | gap text _ | token text _ => text

/-- What is scanned there. -/
def tokens : Lexeme → List Token
  | gap _ documentation => documentation
  | token _ own => [own]

def Spelled : Lexeme → Prop
  | gap _ _ => True
  | token text own => own.Spells text

/-- The characters of `s` before `rest`. -/
def before (s rest : List Char) : List Char :=
  s.take (s.length - rest.length)

theorem before_append (text rest : List Char) : before (text ++ rest) rest = text := by
  simp [before]

/-- The pieces of a text, by the steps in which it is scanned. -/
def ofTextWith? : Nat → List Char → Option (List Lexeme)
  | _, [] => some []
  | 0, _ :: _ => none
  | steps + 1, c :: s =>
    if isGap c then do return gap [c] [] :: (← ofTextWith? steps s)
    else match comment? (c :: s) with
    | some (documentation, rest) => do
      return gap (before (c :: s) rest) documentation :: (← ofTextWith? steps rest)
    | none => do
      let (own, rest) ← token? (c :: s)
      return token (before (c :: s) rest) own :: (← ofTextWith? steps rest)

/-- The pieces of a text, if it has tokens. -/
def ofText? (s : List Char) : Option (List Lexeme) :=
  match s with
  | '\ufeff' :: rest => do return gap ['\ufeff'] [] :: (← ofTextWith? rest.length rest)
  | _ => ofTextWith? s.length s

theorem scanWith?_eq (steps : Nat) (s : List Char) :
    scanWith? steps s = (ofTextWith? steps s).map (·.flatMap tokens) := by
  fun_induction ofTextWith? steps s with
  | case1 => simp [scanWith?]
  | case2 => rfl
  | case3 steps c s hgap ih =>
    rw [scanWith?, if_pos hgap, ih]
    cases ofTextWith? steps s <;> rfl
  | case4 steps c s hgap documentation rest hcomment ih =>
    simp only [scanWith?, if_neg hgap, hcomment, ih]
    cases ofTextWith? steps rest <;> rfl
  | case5 steps c s hgap hcomment ih =>
    simp only [scanWith?, if_neg hgap, hcomment]
    cases token? (c :: s) with
    | none => rfl
    | some next =>
      obtain ⟨own, rest⟩ := next
      simp only [Option.bind_eq_bind, Option.bind_some, ih]
      cases ofTextWith? steps rest <;> rfl

/-- The tokens of the pieces are those of the text. -/
theorem scan?_eq (s : List Char) : scan? s = (ofText? s).map (·.flatMap tokens) := by
  unfold scan?
  split
  · rename_i rest
    have hmarked : ofText? ('\ufeff' :: rest) =
        (ofTextWith? rest.length rest).bind fun pieces => some (gap ['\ufeff'] [] :: pieces) := rfl
    rw [hmarked, scanWith?_eq]
    cases ofTextWith? rest.length rest <;> rfl
  · rename_i hmark
    unfold ofText?
    split
    · exact absurd rfl (hmark _)
    · exact scanWith?_eq _ _

/-- The pieces are all of the text, and its tokens are spelled as such. -/
theorem ofTextWith?_spelled {steps : Nat} {s : List Char} {pieces : List Lexeme}
    (h : ofTextWith? steps s = some pieces) :
    pieces.flatMap text = s ∧ ∀ piece ∈ pieces, piece.Spelled := by
  fun_induction ofTextWith? steps s generalizing pieces with
  | case1 =>
    cases h
    exact ⟨rfl, nofun⟩
  | case2 => cases h
  | case3 steps c s hgap ih =>
    obtain ⟨others, hothers, ⟨⟩⟩ := Option.bind_eq_some_iff.mp h
    obtain ⟨htext, hspelled⟩ := ih hothers
    exact ⟨congrArg (c :: ·) htext, List.forall_mem_cons.mpr ⟨trivial, hspelled⟩⟩
  | case4 steps c s hgap documentation rest hcomment ih =>
    obtain ⟨others, hothers, ⟨⟩⟩ := Option.bind_eq_some_iff.mp h
    obtain ⟨htext, hspelled⟩ := ih hothers
    obtain ⟨comment, hcut, -⟩ := (leaves_comment hcomment).exists_append
    refine ⟨?_, List.forall_mem_cons.mpr ⟨trivial, hspelled⟩⟩
    rw [List.flatMap_cons, htext, text, hcut, before_append]
  | case5 steps c s hgap hcomment ih =>
    simp only [Option.bind_eq_bind, Option.bind_eq_some_iff, Prod.exists] at h
    obtain ⟨own, rest, htoken, others, hothers, ⟨⟩⟩ := h
    obtain ⟨htext, hspelled⟩ := ih rest hothers
    obtain ⟨spelling, hcut, hown⟩ := begins_token htoken
    have hbefore : before (c :: s) rest = spelling := by rw [hcut, before_append]
    refine ⟨?_, List.forall_mem_cons.mpr ⟨?_, hspelled⟩⟩
    · rw [List.flatMap_cons, htext, text, hbefore, hcut]
    · rwa [Spelled, hbefore]

theorem ofText?_spelled {s : List Char} {pieces : List Lexeme} (h : ofText? s = some pieces) :
    pieces.flatMap text = s ∧ ∀ piece ∈ pieces, piece.Spelled := by
  unfold ofText? at h
  split at h
  · obtain ⟨others, hothers, ⟨⟩⟩ := Option.bind_eq_some_iff.mp h
    obtain ⟨htext, hspelled⟩ := ofTextWith?_spelled hothers
    exact ⟨congrArg ('\ufeff' :: ·) htext, List.forall_mem_cons.mpr ⟨trivial, hspelled⟩⟩
  · exact ofTextWith?_spelled h

end Lexeme
end WireSchema
