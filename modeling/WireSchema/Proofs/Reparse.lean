import WireSchema.Proofs.Brackets
import WireSchema.Proofs.Forms

/-!
Printed forms as texts. Main statement: what a text stands for is printed so that it reads back,
unless the printed form is nested too deeply or has the reserved word `try` for a name, and then
that is why it is refused.
-/

namespace WireSchema.TypeExpr

/-- A text that has the tokens of a printed form stands for what that form was printed from. -/
theorem ofText_of_tokens {s : List Char} {e : TypeExpr} (spelling : Spelling e)
    (hnesting : nesting s ≤ nestingLimit) (hlevels : e.levels ≤ nestingLimit)
    (hshort : shorthand? s = none) (hscan : Token.scan? s = some (spelling.tokens false)) :
    ofText s = if "try" ∈ e.references then .error .grammar else .ok e := by
  have hlimit : ¬nestingLimit < nesting s := by omega
  unfold ofText
  rw [if_neg hlimit, hshort, hscan, Option.bind_some, ofTokens?_tokens]
  cases hform : spelling.form? with
  | none => rw [if_pos (spelling.form?_eq_none_iff.mp hform)]
  | some form =>
    have htry : "try" ∉ e.references := by
      intro hmem
      rw [spelling.form?_eq_none_iff.mpr hmem] at hform
      cases hform
    rw [if_neg htry]
    exact spelling.ofForm_eq 0 form hform (by omega)

theorem ofText_render {e : TypeExpr} (spelling : Spelling e) :
    ofText e.render.toList =
      if nestingLimit < nesting e.render.toList then .error .nesting
      else if "try" ∈ e.references then .error .grammar
      else .ok e := by
  by_cases hlimit : nestingLimit < nesting e.render.toList
  · rw [if_pos hlimit, ofText, if_pos hlimit]
  · rw [if_neg hlimit]
    have hbrackets := nesting_render spelling
    obtain ⟨hlevels, -⟩ := levels_le_brackets e
    exact ofText_of_tokens spelling (by omega) (by omega) (shorthand?_render spelling)
      (scan?_render spelling)

theorem parse_render {e : TypeExpr} (spelling : Spelling e) :
    parse e.render =
      if nestingLimit < nesting e.render.toList then .error (.invalidTypeExpr e.render .nesting)
      else if "try" ∈ e.references then .error (.invalidTypeExpr e.render .grammar)
      else .ok e := by
  rw [parse, ofText_render spelling]
  split
  · rfl
  · split <;> rfl

/-- Each text stands for something that is printed so that it reads back, or is refused because its
printed form is nested one level too deeply or has `try` for a name. -/
theorem parse_render_of_parse {s : String} {e : TypeExpr} (h : parse s = .ok e) :
    (parse e.render = .ok e ↔
      nesting e.render.toList ≤ nestingLimit ∧ "try" ∉ e.references) ∧
    (parse e.render ≠ .ok e → parse e.render = .error (.invalidTypeExpr e.render
      (if nestingLimit < nesting e.render.toList then .nesting else .grammar))) ∧
    nesting e.render.toList ≤ nestingLimit + 1 := by
  obtain ⟨⟨spelling⟩, hwithin⟩ := printable_parse h
  have hbrackets := nesting_render spelling
  obtain ⟨-, hle⟩ := levels_le_brackets e
  have hdeepest : nesting e.render.toList ≤ nestingLimit + 1 := by omega
  rw [parse_render spelling]
  by_cases hlimit : nestingLimit < nesting e.render.toList
  · have hnot : ¬nesting e.render.toList ≤ nestingLimit := by omega
    simp [hlimit, hnot, hdeepest]
  · have hwithin : nesting e.render.toList ≤ nestingLimit := by omega
    by_cases htry : "try" ∈ e.references <;>
      simp [hlimit, hwithin, htry, hdeepest]

theorem parse_render_array :
    let e := array (sequence (primitive "u8")) 2
    parse "Box<[(Vec<u8>);2]>" = .ok e ∧ parse e.render = .ok e := by
  intro e
  have h : parse "Box<[(Vec<u8>);2]>" = .ok e := eq_ok_of_toOption (by decide +kernel)
  exact ⟨h, (parse_render_of_parse h).1.mpr ⟨by decide +kernel, by decide⟩⟩

/-- The bracket in the comment closes the one before it, so that one level less is counted than is
printed. -/
theorem ofText_hidden {e : TypeExpr} (spelling : Spelling e) (hlevels : e.levels < nestingLimit)
    (hbrackets : e.brackets ≤ nestingLimit) (htry : "try" ∉ e.references) :
    ofText ("Vec</*>*/" ++ e.render ++ ">").toList = .ok (sequence e) := by
  have htext : ("Vec</*>*/" ++ e.render ++ ">").toList =
      (Generic.word .sequence).text.toList ++ '<' :: '/' :: '*' :: '>' :: '*' :: '/' ::
        (e.render.toList ++ ['>']) := by
    simp [Generic.word, plainWord, PathWord.text, Name.text]
  have hnesting : nesting ("Vec</*>*/" ++ e.render ++ ">").toList = max 1 e.brackets := by
    have hnests := spelling.nests 0 1 ['>'] (by omega)
    simpa [nesting, nestingFrom, opens, closes] using hnests
  have hscan : Token.scan? ("Vec</*>*/" ++ e.render ++ ">").toList =
      some (spelling.sequence.tokens false) := by
    have hclose := Token.scans_nil.mark (c := '>') (by decide)
    have hinner := spelling.legible.scans ['>'] _ (Token.apart_cons [] (by decide)) hclose
    have hcomment := hinner.comment (c := '/') (s := '*' :: '>' :: '*' :: '/' ::
      (e.render.toList ++ ['>'])) rfl (by simp) (by decide)
    have hopen := (hcomment.mark (c := '<') (by decide)).pathWord (Token.apart_cons _ (by decide))
      (Generic.word .sequence)
    have hall := (legible_pathWord (Generic.word .sequence)).scan? hopen
    have hslash (s : List Char) : Token.atMark ('/' :: '*' :: s) = false := by
      simp [Token.atMark, Token.isComment]
    have hnext : Token.atMark ['>'] = true := atMark_cons [] (by decide)
    rw [htext, hall, hslash, hnext]
    simp [Spelling.tokens, enclosed, List.intercalate, Token.atMark]
  have hshort : shorthand? ("Vec</*>*/" ++ e.render ++ ">").toList = none := by
    rw [htext]
    exact shorthand?_pathWord (Generic.word .sequence) _
  have hone : 1 ≤ nestingLimit := by decide
  have hsequence : (sequence e).levels ≤ nestingLimit := hlevels
  rw [ofText_of_tokens spelling.sequence (by omega) hsequence hshort hscan]
  exact if_neg htry

/-- Sequences around a bounded string. -/
def nest : Nat → TypeExpr
  | 0 => .boundedString 5
  | count + 1 => .sequence (nest count)

def nestSpelling : (count : Nat) → Spelling (nest count)
  | 0 => .boundedString 5
  | count + 1 => .sequence (nestSpelling count)

theorem levels_nest (count : Nat) : (nest count).levels = count := by
  induction count with
  | zero => rfl
  | succ count ih => rw [nest, levels, ih]

theorem brackets_nest (count : Nat) : (nest count).brackets = count + 1 := by
  induction count with
  | zero => rfl
  | succ count ih => rw [nest, brackets, ih]

theorem references_nest (count : Nat) : (nest count).references = [] := by
  induction count with
  | zero => rfl
  | succ count ih => rw [nest, references, ih]

/-- A path may end in a word that none may begin with, and a bounded string stands in a bracket more
than in types. -/
theorem parse_refused :
    (parse "a::try" = .ok (named "try") ∧
      parse (named "try").render = .error (.invalidTypeExpr "try" .grammar)) ∧
    (parse ("Vec</*>*/" ++ (nest 63).render ++ ">") = .ok (nest 64) ∧
      parse (nest 64).render = .error (.invalidTypeExpr (nest 64).render .nesting)) := by
  have hname : Primitive.isName "try" = false := by decide +kernel
  have htry : Spelling (named "try") :=
    .name (.reserved "try" (by decide)) (by simp [ofName, PathWord.text, hname])
  have hdeep : nestingLimit < nesting (nest 64).render.toList := by
    rw [nesting_render (nestSpelling 64), brackets_nest]
    decide
  have hparse : parse "a::try" = .ok (named "try") := eq_ok_of_toOption (by decide +kernel)
  refine ⟨⟨hparse, ?_⟩, ?_, ?_⟩
  · rw [parse_render htry]
    rfl
  · rw [parse, ofText_hidden (nestSpelling 63) (by rw [levels_nest]; decide)
      (by rw [brackets_nest]; decide) (by simp [references_nest])]
    rfl
  · rw [parse_render (nestSpelling 64), if_pos hdeep]

end WireSchema.TypeExpr
