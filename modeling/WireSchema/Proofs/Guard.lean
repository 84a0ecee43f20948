import WireSchema.Proofs.Lexemes
import WireSchema.Proofs.Outcome
import WireSchema.TypeExpr.Parser

/-!
The guard against deep nesting looks at characters, and the grammar behind it at tokens. Main
statement: a text whose tokens nest too deep is refused before the grammar sees it, unless comments
or quoted literals in it hide that by closing brackets of their own.
-/

namespace WireSchema

namespace TypeExpr

/-- As `ofText`, for any grammar. -/
def ofTextBy (grammar : List Token → Option TypeForm) (s : List Char) :
    Except TypeFault TypeExpr :=
  if nestingLimit < nesting s then .error .nesting
  else match shorthand? s with
  | some width => .ok (.bytes width)
  | none =>
    match (Token.scan? s).bind grammar with
    | some form => ofForm 0 form
    | none => .error .grammar

theorem ofText_eq : ofText = ofTextBy TypeForm.ofTokens? :=
  rfl

/-- The closing brackets of a text that close none of its own, of which `inside` are open. -/
def straysFrom (inside : Nat) : List Char → Nat
  | [] => 0
  | c :: rest =>
    if opens c then straysFrom (inside + 1) rest
    else if closes c then
      match inside with
      | 0 => straysFrom 0 rest + 1
      | inside + 1 => straysFrom inside rest
    else straysFrom inside rest

def strays (text : List Char) : Nat :=
  straysFrom 0 text

/-- Brackets outside a text are closed by nothing in it but strays. -/
theorem exists_nestingFrom_append (text : List Char) (inside depth deepest : Nat) :
    ∃ depth' deepest', depth ≤ depth' + inside + straysFrom inside text ∧ deepest ≤ deepest' ∧
      ∀ rest, nestingFrom depth deepest (text ++ rest) = nestingFrom depth' deepest' rest := by
  induction text generalizing inside depth deepest with
  | nil => exact ⟨depth, deepest, by omega, Nat.le_refl _, fun _ => rfl⟩
  | cons c text ih =>
    simp only [List.cons_append, nestingFrom, straysFrom]
    split
    · obtain ⟨depth', deepest', hdepth, hdeepest, hrest⟩ :=
        ih (inside + 1) (depth + 1) (max deepest (depth + 1))
      exact ⟨depth', deepest', by omega, by omega, hrest⟩
    split
    · cases inside with
      | zero =>
        obtain ⟨depth', deepest', hdepth, hdeepest, hrest⟩ := ih 0 (depth - 1) deepest
        exact ⟨depth', deepest', by simp only; omega, hdeepest, hrest⟩
      | succ inside =>
        obtain ⟨depth', deepest', hdepth, hdeepest, hrest⟩ := ih inside (depth - 1) deepest
        exact ⟨depth', deepest', by simp only; omega, hdeepest, hrest⟩
    · exact ih inside depth deepest

theorem flat_of_not_mem {c : Char} (h : c ∉ Token.brackets) :
    opens c = false ∧ closes c = false := by
  simp [Token.brackets] at h
  simp [opens, closes, h]

theorem strays_flat {text : List Char} (h : ∀ c ∈ text, c ∉ Token.brackets) :
    strays text = 0 := by
  induction text with
  | nil => rfl
  | cons c text ih =>
    obtain ⟨hc, htext⟩ := List.forall_mem_cons.mp h
    obtain ⟨hopens, hcloses⟩ := flat_of_not_mem hc
    simpa [strays, straysFrom, hopens, hcloses] using ih htext

theorem strays_singleton_le (c : Char) : strays [c] ≤ 1 := by
  simp only [strays, straysFrom]
  split
  · exact Nat.zero_le 1
  split <;> decide

section Ahead
variable {depth deepest depth' deepest' slack : Nat} (hdepth : depth ≤ depth' + slack)
  (hdeepest : deepest ≤ deepest' + slack)
include hdepth hdeepest

/-- One that stays where it is while the other goes past a text gets ahead by its strays. -/
theorem exists_past (text : List Char) :
    ∃ depth₁ deepest₁, (depth ≤ depth₁ + (slack + strays text) ∧
        deepest ≤ deepest₁ + (slack + strays text)) ∧
      ∀ rest, nestingFrom depth' deepest' (text ++ rest) = nestingFrom depth₁ deepest₁ rest := by
  obtain ⟨depth₁, deepest₁, hdepth₁, hdeepest₁, hrest⟩ :=
    exists_nestingFrom_append text 0 depth' deepest'
  refine ⟨depth₁, deepest₁, ⟨?_, by omega⟩, hrest⟩
  unfold strays
  omega

/-- Both go past the same character. -/
theorem exists_nestingFrom_cons (c : Char) :
    ∃ depth₁ deepest₁ depth₁' deepest₁',
      (depth₁ ≤ depth₁' + slack ∧ deepest₁ ≤ deepest₁' + slack) ∧
      (∀ s, nestingFrom depth deepest (c :: s) = nestingFrom depth₁ deepest₁ s) ∧
      ∀ s, nestingFrom depth' deepest' (c :: s) = nestingFrom depth₁' deepest₁' s := by
  cases hopens : opens c with
  | true =>
    refine ⟨depth + 1, max deepest (depth + 1), depth' + 1, max deepest' (depth' + 1),
      ⟨by omega, by omega⟩, ?_, ?_⟩ <;> simp [nestingFrom, hopens]
  | false =>
    cases hcloses : closes c with
    | true =>
      refine ⟨depth - 1, deepest, depth' - 1, deepest', ⟨by omega, hdeepest⟩, ?_, ?_⟩ <;>
        simp [nestingFrom, hopens, hcloses]
    | false =>
      refine ⟨depth, deepest, depth', deepest', ⟨hdepth, hdeepest⟩, ?_, ?_⟩ <;>
        simp [nestingFrom, hopens, hcloses]

end Ahead

end TypeExpr

namespace Token
open TypeExpr

/-- The character of a mark or a delimiter. -/
def sign : Token → List Char
  | mark c _ => [c]
  | opening delimiter => [opener delimiter]
  | closing delimiter => [closer delimiter]
  | _ => []

/-- How deeply the brackets among the tokens are nested. -/
def nesting (tokens : List Token) : Nat :=
  TypeExpr.nesting (tokens.flatMap sign)

end Token

namespace Lexeme
open Token TypeExpr

/-- The tokens without comments. -/
def bare : Lexeme → List Token
  | gap _ _ => []
  | token _ own => [own]

/-- What the piece takes back of the brackets around it, though its tokens do not. -/
def hides : Lexeme → Nat
  | gap text _ | token text .string | token text .quoted => strays text
  | token _ _ => 0

/-- What all pieces take back. -/
def hidden (pieces : List Lexeme) : Nat :=
  pieces.foldr (fun piece rest => piece.hides + rest) 0

@[simp] theorem hidden_cons (piece : Lexeme) (pieces : List Lexeme) :
    hidden (piece :: pieces) = piece.hides + hidden pieces :=
  rfl

theorem sign_or_hidden {text : List Char} {own : Token} (h : (token text own).Spelled) :
    (∃ c, text = [c] ∧ own.sign = [c]) ∨
      own.sign = [] ∧ strays text ≤ (token text own).hides := by
  cases own with
  | mark c joint => exact .inl ⟨c, h, rfl⟩
  | opening delimiter => exact .inl ⟨_, h, rfl⟩
  | closing delimiter => exact .inl ⟨_, h, rfl⟩
  | string | quoted => exact .inr ⟨rfl, Nat.le_refl _⟩
  | name | keyword | lifetime | integer | decimal =>
    exact .inr ⟨rfl, Nat.le_of_eq (strays_flat h)⟩

/-- By induction on the pieces. What they hide, and every token that is left out, may add one level
to those that the tokens are ahead of the characters. -/
theorem nestingFrom_tokens_le {pieces : List Lexeme} (h : ∀ piece ∈ pieces, piece.Spelled)
    {tokens : List Token} (htokens : tokens.Sublist (pieces.flatMap bare))
    {depth deepest depth' deepest' slack : Nat} (hdepth : depth ≤ depth' + slack)
    (hdeepest : deepest ≤ deepest' + slack) :
    nestingFrom depth deepest (tokens.flatMap sign) + tokens.length ≤
      nestingFrom depth' deepest' (pieces.flatMap text) + slack + hidden pieces +
        (pieces.flatMap bare).length := by
  induction pieces generalizing tokens depth deepest depth' deepest' slack with
  | nil =>
    obtain rfl := List.sublist_nil.mp htokens
    exact hdeepest
  | cons piece pieces ih =>
    obtain ⟨hpiece, hpieces⟩ := List.forall_mem_cons.mp h
    -- Brackets that the tokens do not show may close what lies around them.
    have past {tokens : List Token} (htokens : tokens.Sublist (pieces.flatMap bare)) :
        nestingFrom depth deepest (tokens.flatMap sign) + tokens.length ≤
          nestingFrom depth' deepest' (piece.text ++ pieces.flatMap text) + slack +
            strays piece.text + hidden pieces + (pieces.flatMap bare).length := by
      obtain ⟨depth₁, deepest₁, ⟨hdepth₁, hdeepest₁⟩, hrest⟩ :=
        exists_past hdepth hdeepest piece.text
      have hle := ih hpieces htokens hdepth₁ hdeepest₁
      rw [hrest]
      omega
    cases piece with
    | gap text documentation =>
      have hle := past htokens
      simp only [List.flatMap_cons, bare, List.nil_append, hidden_cons, hides,
        Lexeme.text] at hle ⊢
      omega
    | token text own =>
      simp only [List.flatMap_cons, bare, List.singleton_append] at htokens
      simp only [List.flatMap_cons, hidden_cons, bare, List.singleton_append,
        List.length_cons]
      cases htokens with
      | cons _ hrest =>
        have hle := past hrest
        have hstrays : strays text ≤ (token text own).hides + 1 := by
          rcases sign_or_hidden hpiece with ⟨c, rfl, -⟩ | ⟨-, hhidden⟩
          · exact Nat.le_trans (strays_singleton_le c) (Nat.le_add_left 1 _)
          · exact Nat.le_succ_of_le hhidden
        simp only [Lexeme.text] at hle ⊢
        omega
      | @cons_cons tokens _ _ hrest =>
        simp only [List.flatMap_cons, List.length_cons, Lexeme.text]
        rcases sign_or_hidden hpiece with ⟨c, rfl, hsign⟩ | ⟨hsign, hhidden⟩
        · obtain ⟨_, _, _, _, ⟨hdepth₁, hdeepest₁⟩, htokens₁, htexts₁⟩ :=
            exists_nestingFrom_cons hdepth hdeepest c
          have hle := ih hpieces hrest hdepth₁ hdeepest₁
          rw [hsign, List.singleton_append, List.singleton_append, htokens₁, htexts₁]
          omega
        · have hle := past hrest
          rw [hsign, List.nil_append]
          simp only [Lexeme.text] at hle
          omega

theorem nesting_tokens_le {s : List Char} {pieces : List Lexeme} (h : ofText? s = some pieces)
    {tokens : List Token} (htokens : tokens.Sublist (pieces.flatMap bare)) :
    Token.nesting tokens + tokens.length ≤
      TypeExpr.nesting s + hidden pieces + (pieces.flatMap bare).length := by
  obtain ⟨htext, hspelled⟩ := ofText?_spelled h
  have hzero : 0 ≤ 0 + 0 := Nat.le_refl 0
  have hle := nestingFrom_tokens_le hspelled htokens hzero hzero
  rwa [htext] at hle

end Lexeme

namespace TypeExpr
open Lexeme

/-- A text whose tokens nest deeper than the limit, by more than what is hidden in it, is refused
whatever the grammar says. Some of the tokens may be left out as no brackets, as the tip of an arrow
is none; each adds one to what may be hidden. -/
theorem parse_of_deep {s : String} {pieces : List Lexeme}
    (hpieces : Lexeme.ofText? s.toList = some pieces) {tokens : List Token}
    (htokens : tokens.Sublist (pieces.flatMap bare))
    (hdeep : nestingLimit + Lexeme.hidden pieces +
      ((pieces.flatMap bare).length - tokens.length) < Token.nesting tokens) :
    Token.scan? s.toList = some (pieces.flatMap Lexeme.tokens) ∧
      parse s = .error (.invalidTypeExpr s .nesting) ∧
      ∀ grammar, ofTextBy grammar s.toList = .error .nesting := by
  have hle := nesting_tokens_le hpieces htokens
  have hlength := htokens.length_le
  have hrefused : nestingLimit < nesting s.toList := by omega
  have hall : ∀ grammar, ofTextBy grammar s.toList = .error .nesting := fun _ => if_pos hrefused
  refine ⟨?_, ?_, hall⟩
  · rw [Lexeme.scan?_eq, hpieces, Option.map_some]
  · rw [parse, ofText_eq, hall]
    rfl

/-- A name in so many parentheses, between two texts. -/
def wrapped (count : Nat) (first last : String) : String :=
  first ++ String.ofList (List.replicate count '(') ++ "b" ++
    String.ofList (List.replicate count ')') ++ last

/-- The comment closes no bracket but its own. -/
theorem parse_of_deep_parens :
    let s := wrapped 65 "" "/* (c) */"
    (∃ pieces, Lexeme.ofText? s.toList = some pieces ∧ Lexeme.hidden pieces = 0 ∧
      Token.nesting (pieces.flatMap bare) = 65) ∧
    parse s = .error (.invalidTypeExpr s .nesting) := by
  intro s
  have hpieces : (Lexeme.ofText? s.toList).map (fun pieces =>
      (Lexeme.hidden pieces, Token.nesting (pieces.flatMap bare))) = some (0, 65) := by
    decide +kernel
  obtain ⟨pieces, hpieces, hcounts⟩ := Option.map_eq_some_iff.mp hpieces
  obtain ⟨hhides, hnesting⟩ := Prod.mk.inj hcounts
  refine ⟨⟨pieces, hpieces, hhides, hnesting⟩, ?_⟩
  have hdeep : nestingLimit + Lexeme.hidden pieces +
      ((pieces.flatMap bare).length - (pieces.flatMap bare).length) <
        Token.nesting (pieces.flatMap bare) := by
    rw [hhides, hnesting, Nat.sub_self]
    decide
  exact (parse_of_deep hpieces (List.Sublist.refl _) hdeep).2.1

/-- The comment closes the bracket before it, and the part that nests is passed over. -/
theorem parse_of_closing_comment :
    let s := wrapped 64 "a</*>*/" ">::u8"
    (Lexeme.ofText? s.toList).map (fun pieces => Token.nesting (pieces.flatMap bare)) = some 65 ∧
      parse s = .ok (primitive "u8") := by
  intro s
  refine ⟨by decide +kernel, eq_ok_of_toOption ?_⟩
  decide +kernel

end TypeExpr
end WireSchema
