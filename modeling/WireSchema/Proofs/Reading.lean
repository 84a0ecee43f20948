import WireSchema.Grammar.Rules
import WireSchema.Proofs.Tokens

/-!
What the grammar keeps of the tokens of types: words, generic types and arrays with numbers for
their lengths. Each is read up to a mark that cannot belong to it.
-/

namespace WireSchema
open Parse Grammar

/-- A type is over. -/
def Ended : List Token → Prop
  | [] => True
  | .mark c _ :: _ => c ∈ ['>', ',', ';']
  | _ => False

theorem Ended.marks_eq_false {rest : List Token} (h : Ended rest) {c : Char} (cs : List Char)
    (hc : c ∉ ['>', ',', ';']) : Ahead.marks (c :: cs) rest = false := by
  unfold Ended at h
  split at h
  · cases cs <;> rfl
  · rename_i d joint tail
    have hne : c ≠ d := fun heq => hc (heq ▸ h)
    cases cs <;> cases joint <;> simp [Ahead.marks, hne]
  · exact h.elim

theorem Ended.mark_eq_false {rest : List Token} (h : Ended rest) {c : Char}
    (hc : c ∉ ['>', ',', ';']) : Ahead.mark c rest = false := by
  rw [← Ahead.marks_singleton]
  exact h.marks_eq_false [] hc

theorem Ended.colons_eq_false {rest : List Token} (h : Ended rest) : Ahead.colons rest = false :=
  h.marks_eq_false _ (by decide)

theorem Ended.opening_eq_false {rest : List Token} (h : Ended rest) (delimiter : Delimiter) :
    Ahead.opening delimiter rest = false := by
  unfold Ended at h
  split at h
  · rfl
  · rfl
  · exact h.elim

theorem run_segmentArguments (g : Grammar) {rest : List Token} (h : Ended rest) :
    (segmentArguments g false).run rest = some (none, rest) := by
  have hangle : angleAhead rest = false := by
    simp [angleAhead, h.mark_eq_false (c := '<') (by decide)]
  have hturbofish : turbofish rest = false := by simp [turbofish, h.colons_eq_false]
  simp [segmentArguments, hangle, hturbofish]

theorem run_segment (g : Grammar) (word : PathWord) {rest : List Token} (h : Ended rest) :
    (Grammar.segment g false).run (Token.ofPathWord word :: rest) = some ((word, none), rest) := by
  cases word with
  | name own => simp [Grammar.segment, Token.ofPathWord, run_segmentArguments g h]
  | reserved text allowed =>
    have hmem := allowed
    simp only [pathWords, List.mem_cons, List.not_mem_nil, or_false] at hmem
    rcases hmem with rfl | rfl | rfl | rfl | rfl <;>
      simp [Grammar.segment, Token.ofPathWord, allowed, run_segmentArguments g h]

/-- The rest of a path that is over after its first segment. -/
theorem run_segments (g : Grammar) {rest : List Token} (h : Ended rest) (path : PathForm) :
    (segments g false path).run rest = some (path, rest) :=
  run_whileAhead_of_not (by simp [h.colons_eq_false]) _ path

theorem run_calls (g : Grammar) {rest : List Token} (h : Ended rest) (path : PathForm) :
    (calls g path).run rest = some (path, rest) := by
  have hcall : callAhead rest = false := by
    simp [callAhead, h.opening_eq_false, h.colons_eq_false]
  cases hlength : rest.length <;> simp [calls, hlength, callsWithin, hcall]

/-- A path with one segment, if that segment can be read. -/
theorem run_pathType (g : Grammar) (plus : Bool) {ts rest : List Token} {word : PathWord}
    (arguments? : Option (Option (List TypeForm))) (h : Ended rest)
    (hstart : Ahead.marks [':', ':'] ts = false)
    (hsegment : (Grammar.segment g false).run ts =
      arguments?.map fun arguments => ((word, arguments), rest)) :
    (pathType g plus false).run ts =
      arguments?.map fun arguments => (.path word arguments true, rest) := by
  have hbang : Ahead.bang rest = false := by
    simp [Ahead.bang, h.mark_eq_false (c := '!') (by decide)]
  have hplus : Ahead.mark '+' rest = false := h.mark_eq_false (by decide)
  cases arguments? <;>
    simp [pathType, path, run_acceptMarks_of_not hstart, hsegment, run_segments g h,
      run_calls g h, hbang, hplus]

/-- A word begins a path, whatever else a type may begin with. -/
theorem run_typeRule_pathWord (g : Grammar) (plus : Bool) {word : PathWord} (rest : List Token)
    (hword : word.text ≠ "try") (hrest : Ahead.mark '#' rest = false) :
    (typeRule g plus).run (Token.ofPathWord word :: rest) =
      (pathType g plus false).run (Token.ofPathWord word :: rest) := by
  cases word with
  | name own =>
    simp [typeRule, Token.ofPathWord, Ahead.opening, binder, accept, Ahead.keyword, functionAhead,
      Ahead.name, bindableType, Ahead.builtin, Ahead.skip, hrest]
  | reserved text allowed =>
    have hmem := allowed
    simp only [pathWords, List.mem_cons, List.not_mem_nil, or_false] at hmem
    rcases hmem with rfl | rfl | rfl | rfl | rfl
    case inr.inr.inr.inr => exact absurd rfl hword
    all_goals
      simp [typeRule, Token.ofPathWord, Ahead.opening, binder, accept, Ahead.keyword,
        functionAhead, Ahead.pathWord, bindableType, Ahead.builtin, Ahead.named]

theorem PathWord.eq_try {word : PathWord} (h : word.text = "try") :
    Token.ofPathWord word = .keyword "try" := by
  cases word with
  | name own =>
    cases own with
    | plain word free =>
      have htext : word.text = "try" := h
      exact absurd (htext ▸ free) (by decide)
    | raw word free =>
      have htext : ("r#" ++ word.text).toList = "try".toList := congrArg String.toList h
      simp at htext
  | reserved text allowed =>
    have htext : text = "try" := h
    rw [Token.ofPathWord, htext]

/-- No type begins with `try`, though a path may go on with it. -/
theorem run_typeRule_try (g : Grammar) (plus : Bool) {word : PathWord} (rest : List Token)
    (hword : word.text = "try") : (typeRule g plus).run (Token.ofPathWord word :: rest) = none := by
  simp [PathWord.eq_try hword, typeRule, Ahead.opening, binder, accept, Ahead.keyword,
    functionAhead, Ahead.name, Ahead.pathWord, Ahead.colons, Ahead.marks, Ahead.mark,
    Ahead.lifetime]

/-- What is kept of a word that is a type of its own. -/
def PathWord.form? (word : PathWord) : Option TypeForm :=
  if word.text = "try" then none else some (.path word none true)

/-- What is kept of a generic type, if something is kept of each argument. -/
def genericForm? (word : PathWord) (arguments : List (Option TypeForm)) : Option TypeForm :=
  (arguments.mapM id).map fun forms => .path word (some forms) true

def lengthForm (n : UInt64) : LengthForm :=
  .ofNat (String.ofList (Text.digits n.toNat)) n.toNat

/-- The rule takes the tokens, or refuses them if nothing is kept of them. -/
def Reads (rule : Parse TypeForm) (ts : List Token) (form? : Option TypeForm) : Prop :=
  ∀ rest, Ended rest → rule.run (ts ++ rest) = form?.map fun form => (form, rest)

theorem reads_pathWord (g : Grammar) (plus : Bool) (word : PathWord) :
    Reads (typeRule g plus) [Token.ofPathWord word] word.form? := by
  intro rest hrest
  have hstart : Ahead.marks [':', ':'] (Token.ofPathWord word :: rest) = false := by
    cases word <;> rfl
  by_cases hword : word.text = "try"
  · simp [PathWord.form?, hword, run_typeRule_try g plus rest hword]
  · have hhash : Ahead.mark '#' rest = false := hrest.mark_eq_false (by decide)
    simp [PathWord.form?, hword, run_typeRule_pathWord g plus rest hword hhash,
      run_pathType g plus (some none) hrest hstart (run_segment g word hrest)]

theorem mapM_id_some {α : Type} (a : α) (as : List (Option α)) :
    (some a :: as).mapM id = (as.mapM id).map (a :: ·) := by
  cases hforms : as.mapM id <;> simp [hforms]

/-- By induction on the arguments. Each is over at a comma or at the closing bracket. -/
theorem run_listWithin {item : Parse TypeForm} {arguments : List (List Token)}
    {forms : List (Option TypeForm)} (h : List.Forall₂ (Reads item) arguments forms)
    (hstart : ∀ ts ∈ arguments, ∀ rest, Ahead.mark '>' (ts ++ rest) = false)
    {steps : Nat} (hsteps : arguments.length < steps) (joint : Bool) (rest : List Token) :
    (listWithin item (Ahead.mark '>') steps).run
        ([Token.mark ',' false].intercalate arguments ++ .mark '>' joint :: rest) =
      (forms.mapM id).map fun forms => (forms, .mark '>' joint :: rest) := by
  have hclose : Ahead.mark '>' (.mark '>' joint :: rest) = true := by simp [Ahead.mark]
  have hcomma (ts : List Token) : Ahead.mark '>' (.mark ',' false :: ts) = false := rfl
  induction h generalizing steps with
  | nil =>
    cases steps with
    | zero => simp at hsteps
    | succ steps => simp [listWithin, hclose]
  | @cons ts form arguments forms hts hmore ih =>
    obtain ⟨hfirst, hlater⟩ := List.forall_mem_cons.mp hstart
    cases steps with
    | zero => simp at hsteps
    | succ steps =>
      cases hmore with
      | nil =>
        have hitem := hts (.mark '>' joint :: rest) (by simp [Ended])
        cases form <;> simp [listWithin, List.intercalate, hfirst, hitem, hclose]
      | @cons second next arguments forms hsecond hrest =>
        have hfewer : (second :: arguments).length < steps := by simpa using hsteps
        have hlist := ih hlater hfewer
        generalize hlist' : [Token.mark ',' false].intercalate (second :: arguments) ++
          .mark '>' joint :: rest = others at hlist
        have hitem := hts (.mark ',' false :: others) (by simp [Ended])
        have hsplit : [Token.mark ',' false].intercalate (ts :: second :: arguments) ++
            .mark '>' joint :: rest = ts ++ .mark ',' false :: others := by
          simp [← hlist', List.intercalate]
        rw [hsplit]
        cases form with
        | none => simp [listWithin, hfirst, hitem]
        | some form =>
          rw [mapM_id_some]
          generalize (next :: forms).mapM id = kept at hlist
          cases kept <;> simp [listWithin, hfirst, hitem, hcomma, hlist]

theorem length_le_intercalate {arguments : List (List Token)} (h : ∀ ts ∈ arguments, ts ≠ []) :
    arguments.length ≤ ([Token.mark ',' false].intercalate arguments).length := by
  induction arguments with
  | nil => simp
  | cons first arguments ih =>
    obtain ⟨hfirst, hmore⟩ := List.forall_mem_cons.mp h
    have hlength := List.length_pos_iff.mpr hfirst
    have hlater := ih hmore
    cases arguments with
    | nil => simpa [List.intercalate] using Nat.succ_le_of_lt hlength
    | cons second arguments =>
      simp only [List.intercalate, List.intersperse_cons_cons, List.flatten_cons,
        List.length_append, List.length_cons, List.length_nil] at hlater ⊢
      omega

theorem run_angled (g : Grammar) {arguments : List (List Token)} {forms : List (Option TypeForm)}
    (h : List.Forall₂ (Reads g.argument) arguments forms)
    (hstart : ∀ ts ∈ arguments, ∀ rest, Ahead.mark '>' (ts ++ rest) = false)
    (joint : Bool) (rest : List Token) :
    (angled g).run (.mark '<' false ::
        ([Token.mark ',' false].intercalate arguments ++ .mark '>' joint :: rest)) =
      (forms.mapM id).map fun forms => (forms, rest) := by
  have hne : ∀ ts ∈ arguments, ts ≠ [] := by
    intro ts hts heq
    have hmark := hstart ts hts [.mark '>' false]
    simp [heq, Ahead.mark] at hmark
  have hlength := length_le_intercalate hne
  have hlist := (run_list g.argument (Ahead.mark '>') _).trans
    (run_listWithin h hstart (by simp; omega) joint rest)
  generalize forms.mapM id = kept at hlist ⊢
  cases kept <;> simp [angled, hlist]

/-- A generic type of one segment. A bracket after a name opens its arguments, though it might
compare or shift in an expression. -/
theorem reads_enclosed (g : Grammar) (plus : Bool) (own : Name) {arguments : List (List Token)}
    {forms : List (Option TypeForm)} (h : List.Forall₂ (Reads g.argument) arguments forms)
    (hstart : ∀ ts ∈ arguments, ∀ rest, Ahead.mark '>' (ts ++ rest) = false) (joint : Bool) :
    Reads (typeRule g plus) (TypeExpr.enclosed (.name own) arguments joint)
      (genericForm? (.name own) forms) := by
  intro rest hrest
  have hangled := run_angled g h hstart joint rest
  have hsegment : (Grammar.segment g false).run (.name own :: .mark '<' false ::
      ([Token.mark ',' false].intercalate arguments ++ .mark '>' joint :: rest)) =
      ((forms.mapM id).map some).map fun arguments => ((.name own, arguments), rest) := by
    generalize forms.mapM id = kept at hangled ⊢
    cases kept <;>
      simp [Grammar.segment, segmentArguments, angleAhead, Ahead.mark, Ahead.marks, hangled]
  have htype := run_pathType g plus _ hrest rfl hsegment
  have hword : (PathWord.name own).text ≠ "try" := fun heq => by
    cases PathWord.eq_try heq
  have hall := run_typeRule_pathWord g plus (.mark '<' false ::
    ([Token.mark ',' false].intercalate arguments ++ .mark '>' joint :: rest)) hword rfl
  simp only [TypeExpr.enclosed, Token.ofPathWord, List.cons_append, List.append_assoc,
    List.nil_append] at hall ⊢
  rw [hall, htype]
  simp [genericForm?, Function.comp_def]

theorem run_literal (n : UInt64) (rest : List Token) :
    literal.run (TypeExpr.number n :: rest) = some (lengthForm n, rest) := by
  simp [literal, TypeExpr.number, lengthForm]

/-- A number that a bracket closes is an operand, and nothing is done to it. -/
theorem run_operandRule (g : Grammar) (n : UInt64) (rest : List Token) :
    (operandRule g true).run (TypeExpr.number n :: .closing .bracket :: rest) =
      some (.ofLength (lengthForm n), .closing .bracket :: rest) := by
  have hattributes : (attributes g).run (TypeExpr.number n :: .closing .bracket :: rest) =
      some ((), TypeExpr.number n :: .closing .bracket :: rest) :=
    run_whileAhead_of_not rfl _ _
  have hatom : (atom g true).run (TypeExpr.number n :: .closing .bracket :: rest) =
      some (.ofLength (lengthForm n), .closing .bracket :: rest) := by
    have hplain : Ahead.plainLiteral (TypeExpr.number n :: .closing .bracket :: rest) = true := rfl
    simp [atom, hplain, run_literal]
  have htrailers (operand : Operand) : (trailers g operand).run (.closing .bracket :: rest) =
      some (operand, .closing .bracket :: rest) := by
    simp [trailers, trailersWithin, trailerAhead, Ahead.opening, Ahead.mark, Ahead.point]
  have hhash : Ahead.mark '#' (TypeExpr.number n :: .closing .bracket :: rest) = false := rfl
  have hreference := run_accept_of_not (Ahead.mark '&')
    (TypeExpr.number n :: .closing .bracket :: rest) rfl
  have hunary := run_accept_of_not
    (fun ts => Ahead.mark '*' ts || (Ahead.mark '!' ts || Ahead.mark '-' ts))
    (TypeExpr.number n :: .closing .bracket :: rest) rfl
  simp [operandRule, hhash, hattributes, hreference, hunary, hatom, htrailers]

theorem run_operatorsRule (g : Grammar) {left : Operand} (hleft : left ≠ .range)
    (rest : List Token) :
    (operatorsRule g true left 0).run (.closing .bracket :: rest) =
      some (left, .closing .bracket :: rest) := by
  have hoperator : operator? (.closing .bracket :: rest) = none := rfl
  simp [operatorsRule, hleft, hoperator, assignAhead, Ahead.mark, Ahead.dots, Ahead.marks,
    Ahead.keyword]

/-- A number in the place of a length is an expression without operators. -/
theorem run_expression (g : Grammar) (n : UInt64) (rest : List Token) :
    (expression (extend g) true).run (TypeExpr.number n :: .closing .bracket :: rest) =
      some (.ofLength (lengthForm n), .closing .bracket :: rest) := by
  have hleft : Operand.ofLength (lengthForm n) ≠ .range := by
    cases lengthForm n <;> simp [Operand.ofLength]
  simp [expression, extend, run_operandRule, run_operatorsRule g hleft]

theorem length_ofLength (form : LengthForm) : (Operand.ofLength form).length = form := by
  cases form <;> rfl

theorem reads_bracketed (g : Grammar) (plus : Bool) {element : List Token}
    {form? : Option TypeForm} (h : Reads ((extend g).type true) element form?) (length : UInt64) :
    Reads (typeRule (extend g) plus) (TypeExpr.bracketed element length)
      (form?.map fun form => .array form (lengthForm length)) := by
  intro rest hrest
  have helement := h (.mark ';' false :: TypeExpr.number length :: .closing .bracket :: rest)
    (by simp [Ended])
  have hbracket : (bracketType (extend g)).run (.opening .bracket :: (element ++
      .mark ';' false :: TypeExpr.number length :: .closing .bracket :: rest)) =
      (form?.map fun form => .array form (lengthForm length)).map fun form => (form, rest) := by
    cases form? <;>
      simp [bracketType, between, opening, closing, Ahead.opening, Ahead.closing, helement, accept,
        Ahead.mark, run_expression, length_ofLength]
  simpa [typeRule, TypeExpr.bracketed, Ahead.opening] using hbracket

/-- The tokens begin with a word of a path, or with the bracket of an array. -/
def Starts (ts : List Token) : Prop :=
  ∃ token rest, ts = token :: rest ∧
    ((∃ word, token = .ofPathWord word) ∨ token = .opening .bracket)

theorem Starts.mark_eq_false {ts : List Token} (h : Starts ts) (c : Char) (rest : List Token) :
    Ahead.mark c (ts ++ rest) = false := by
  obtain ⟨token, tail, rfl, ⟨word, rfl⟩ | rfl⟩ := h
  · cases word <;> rfl
  · rfl

theorem constantAhead_eq_false {token : Token} (rest : List Token)
    (h : (∃ word, token = .ofPathWord word) ∨ token = .opening .bracket) :
    constantAhead (token :: rest) = false := by
  rcases h with ⟨word, rfl⟩ | rfl
  · cases word with
    | name own => rfl
    | reserved text allowed =>
      simp only [pathWords, List.mem_cons, List.not_mem_nil, or_false] at allowed
      rcases allowed with rfl | rfl | rfl | rfl | rfl <;> rfl
  · rfl

theorem lifetime_eq_false {token : Token} (rest : List Token)
    (h : (∃ word, token = .ofPathWord word) ∨ token = .opening .bracket) :
    Ahead.lifetime (token :: rest) = false := by
  rcases h with ⟨word, rfl⟩ | rfl
  · cases word <;> rfl
  · rfl

/-- A type in the place of an argument, which is no constant and nothing that is bound. -/
theorem reads_argument (g : Grammar) {ts : List Token} {form? : Option TypeForm}
    (h : Reads (g.type true) ts form?) (hstart : Starts ts) :
    Reads (argumentRule g) ts form? := by
  intro rest hrest
  have htype := h rest hrest
  obtain ⟨token, tail, rfl, htoken⟩ := hstart
  have hconstant := constantAhead_eq_false (tail ++ rest) htoken
  have hlifetime := lifetime_eq_false (tail ++ rest) htoken
  have hequal := run_accept_of_not (Ahead.mark '=') rest (hrest.mark_eq_false (by decide))
  have hcolon := run_accept_of_not (Ahead.mark ':') rest (hrest.mark_eq_false (by decide))
  have hbinding := run_accept_of_not
    (fun ts => Ahead.lifetime ts && !Ahead.mark '+' (Ahead.skip ts))
    (token :: (tail ++ rest)) (by simp [hlifetime])
  rw [List.cons_append] at htype ⊢
  cases form? with
  | none => simp [argumentRule, hbinding, hconstant, htype]
  | some form =>
    simp only [argumentRule, StateT.run_bind, hbinding, Option.bind_eq_bind, Option.bind_some,
      Bool.false_eq_true, if_false, run_ahead, hconstant, htype, Option.map_some]
    split <;> simp [hequal, hcolon]

theorem reads_number (g : Grammar) (n : UInt64) :
    Reads (argumentRule g) [TypeExpr.number n] (some (.constant (lengthForm n))) := by
  intro rest hrest
  have hconstant : constantAhead (TypeExpr.number n :: rest) = true := rfl
  have hliteral : Ahead.literal (TypeExpr.number n :: rest) = true := rfl
  have hbinding := run_accept_of_not
    (fun ts => Ahead.lifetime ts && !Ahead.mark '+' (Ahead.skip ts)) (TypeExpr.number n :: rest) rfl
  simp [argumentRule, hbinding, hconstant, constant, hliteral, run_literal]

end WireSchema
