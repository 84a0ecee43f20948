import WireSchema.Proofs.Outcome
import WireSchema.Proofs.Reading
import WireSchema.Proofs.Substitution

/-!
What the grammar keeps of printed forms. Main statements: each layer that lies high enough reads a
printed form to its end, it finds a type unless a name is the reserved word `try`, and the type it
finds stands for what was printed.
-/

namespace WireSchema.TypeExpr
open Grammar

/-- What the grammar keeps of the printed form. -/
def Spelling.form? {e : TypeExpr} : Spelling e → Option TypeForm
  | name word _ => word.form?
  | sequence element => genericForm? (Generic.word .sequence) [element.form?]
  | boundedSequence element bound =>
    genericForm? (Generic.word .boundedSequence)
      [element.form?, some (.constant (lengthForm bound))]
  | option inner => genericForm? (Generic.word .option) [inner.form?]
  | map key value => genericForm? (Generic.word .map) [key.form?, value.form?]
  | boundedMap key value bound =>
    genericForm? (Generic.word .boundedMap)
      [key.form?, value.form?, some (.constant (lengthForm bound))]
  | array element length _ => element.form?.map fun form => .array form (lengthForm length)
  | bytes width => byteWord.form?.map fun form => .array form (lengthForm width)
  | boundedString bound =>
    genericForm? (Generic.word .boundedString) [some (.constant (lengthForm bound))]

theorem Spelling.starts {e : TypeExpr} (spelling : Spelling e) (joint : Bool) :
    Starts (spelling.tokens joint) := by
  cases spelling with
  | array => exact ⟨_, _, rfl, .inr rfl⟩
  | bytes => exact ⟨_, _, rfl, .inr rfl⟩
  | _ => exact ⟨_, _, rfl, .inl ⟨_, rfl⟩⟩

theorem length_le_enclosed (word : PathWord) {arguments : List (List Token)} (joint : Bool)
    {ts : List Token} (h : ts ∈ arguments) :
    ts.length + 3 ≤ (enclosed word arguments joint).length := by
  have hlength : ts.length ≤ ([Token.mark ',' false].intercalate arguments).length := by
    induction arguments with
    | nil => simp at h
    | cons first arguments ih =>
      rcases List.mem_cons.mp h with rfl | hmem
      · cases arguments <;> simp [List.intercalate]
      · have hlater := ih hmem
        cases arguments with
        | nil => simp at hmem
        | cons second arguments =>
          simp only [List.intercalate, List.intersperse_cons_cons, List.flatten_cons,
            List.length_append] at hlater ⊢
          omega
  simp [enclosed]
  omega

/-- The tokens are read as an argument by every layer that lies high enough. -/
structure Readable (ts : List Token) (form? : Option TypeForm) : Prop where
  unclosed : ∀ rest, Ahead.mark '>' (ts ++ rest) = false
  reads : ∀ count, ts.length ≤ count → Reads (layers (count + 1)).argument ts form?

theorem readable_number (n : UInt64) :
    Readable [number n] (some (.constant (lengthForm n))) where
  unclosed _ := rfl
  reads count _ := reads_number (layers count) n

theorem reads_arguments {arguments : List (List Token)} {forms : List (Option TypeForm)}
    (h : List.Forall₂ Readable arguments forms) {count : Nat}
    (hlength : ∀ ts ∈ arguments, ts.length ≤ count) :
    List.Forall₂ (Reads (layers (count + 1)).argument) arguments forms := by
  induction h with
  | nil => exact .nil
  | cons hfirst hmore ih =>
    obtain ⟨hlen, hlens⟩ := List.forall_mem_cons.mp hlength
    exact .cons (hfirst.reads count hlen) (ih hlens)

theorem unclosed_of_readable {arguments : List (List Token)} {forms : List (Option TypeForm)}
    (h : List.Forall₂ Readable arguments forms) :
    ∀ ts ∈ arguments, ∀ rest, Ahead.mark '>' (ts ++ rest) = false := by
  induction h with
  | nil => simp
  | cons hfirst hmore ih => exact List.forall_mem_cons.mpr ⟨hfirst.unclosed, ih⟩

/-- Its arguments are read two layers below. -/
theorem reads_generic {count : Nat} (plus : Bool) (own : Name) {arguments : List (List Token)}
    {forms : List (Option TypeForm)} (h : List.Forall₂ Readable arguments forms)
    (joint : Bool) (hne : arguments ≠ [])
    (hlength : (enclosed (.name own) arguments joint).length ≤ count) :
    Reads ((layers count).type plus) (enclosed (.name own) arguments joint)
      (genericForm? (.name own) forms) := by
  have hlen (ts : List Token) (hts : ts ∈ arguments) : ts.length + 3 ≤ count :=
    Nat.le_trans (length_le_enclosed _ joint hts) hlength
  obtain ⟨ts, hts⟩ := List.exists_mem_of_ne_nil arguments hne
  have hcount := hlen ts hts
  obtain ⟨below, rfl⟩ : ∃ below, count = below + 2 := ⟨count - 2, by omega⟩
  have hbelow (ts : List Token) (hts : ts ∈ arguments) : ts.length ≤ below := by
    have hle := hlen ts hts
    omega
  have harguments := reads_arguments h hbelow
  exact reads_enclosed (layers (below + 1)) plus own harguments (unclosed_of_readable h) joint

/-- Its element is read one layer below. -/
theorem reads_array {count : Nat} (plus : Bool) {element : List Token} {form? : Option TypeForm}
    {length : UInt64}
    (h : ∀ {count : Nat}, element.length ≤ count →
      Reads ((layers count).type true) element form?)
    (hlength : (bracketed element length).length ≤ count) :
    Reads ((layers count).type plus) (bracketed element length)
      (form?.map fun form => .array form (lengthForm length)) := by
  have hlen : (bracketed element length).length = element.length + 4 := by simp [bracketed]
  obtain ⟨below, rfl⟩ : ∃ below, count = below + 2 := ⟨count - 2, by omega⟩
  have helement := h (show element.length ≤ below + 1 by omega)
  exact reads_bracketed (layers below) plus helement length

/-- By induction on the spelling, with one layer for each token at the least. -/
theorem Spelling.reads {e : TypeExpr} (spelling : Spelling e) (joint : Bool) {count : Nat}
    (plus : Bool) (hlength : (spelling.tokens joint).length ≤ count) :
    Reads ((layers count).type plus) (spelling.tokens joint) spelling.form? := by
  have argument {e : TypeExpr} (spelling : Spelling e)
      (ih : ∀ (joint : Bool) {count : Nat} (plus : Bool), (spelling.tokens joint).length ≤ count →
        Reads ((layers count).type plus) (spelling.tokens joint) spelling.form?) :
      Readable (spelling.tokens true) spelling.form? :=
    ⟨(spelling.starts true).mark_eq_false '>', fun count hcount =>
      reads_argument (layers count) (ih true true hcount) (spelling.starts true)⟩
  induction spelling generalizing joint count plus with
  | name word he =>
    cases count with
    | zero => simp [tokens] at hlength
    | succ count => exact reads_pathWord (layers count) plus word
  | sequence element ih =>
    exact reads_generic plus _ (.cons (argument element ih) .nil) joint (by simp) hlength
  | boundedSequence element bound ih =>
    exact reads_generic plus _ (.cons (argument element ih) (.cons (readable_number bound) .nil))
      joint (by simp) hlength
  | option inner ih =>
    exact reads_generic plus _ (.cons (argument inner ih) .nil) joint (by simp) hlength
  | map key value ihk ihv =>
    exact reads_generic plus _ (.cons (argument key ihk) (.cons (argument value ihv) .nil)) joint
      (by simp) hlength
  | boundedMap key value bound ihk ihv =>
    exact reads_generic plus _ (.cons (argument key ihk) (.cons (argument value ihv)
      (.cons (readable_number bound) .nil))) joint (by simp) hlength
  | array element length hbytes ih => exact reads_array plus (fun hle => ih true true hle) hlength
  | bytes width =>
    refine reads_array plus (fun {below} hle => ?_) hlength
    cases below with
    | zero => simp at hle
    | succ below => exact reads_pathWord (layers below) true byteWord
  | boundedString bound =>
    exact reads_generic plus _ (.cons (readable_number bound) .nil) joint (by simp) hlength

theorem lengthOf_ofNat (text : String) (n : UInt64) :
    lengthOf (.ofNat text n.toNat) = .ok n := by
  have hlt : n.toNat < UInt64.size := n.toNat_lt
  simp [LengthForm.ofNat, lengthOf, hlt]

/-- What is kept of the argument stands for it, whatever arguments come after. -/
def Yields (depth : Nat) (part : Option TypeForm) (argument : Argument) : Prop :=
  ∀ form, part = some form → ∀ forms,
    ofArguments depth (form :: forms) = argument :: ofArguments depth forms

theorem yields_type {depth : Nat} {part : Option TypeForm} {e : TypeExpr}
    (h : ∀ form, part = some form → ofForm depth form = .ok e) :
    Yields depth part ⟨.ok e, .error .lengthArgument⟩ := by
  intro form hpart forms
  have hform := h form hpart
  rw [ofArguments.eq_def, ← hform]
  cases form with
  | constant length =>
    unfold ofForm at hform
    split at hform <;> cases hform
  | binding =>
    unfold ofForm at hform
    split at hform <;> cases hform
  | _ => rfl

theorem yields_number (depth : Nat) (n : UInt64) :
    Yields depth (some (.constant (lengthForm n))) ⟨.error .typeArgument, .ok n⟩ := by
  intro form hpart forms
  cases hpart
  rw [ofArguments.eq_def]
  simp only [lengthForm, lengthOf_ofNat]

theorem ofArguments_of_yields {depth : Nat} {parts : List (Option TypeForm)}
    {arguments : List Argument} (h : List.Forall₂ (Yields depth) parts arguments)
    {forms : List TypeForm} (hforms : parts.mapM id = some forms) :
    ofArguments depth forms = arguments := by
  induction h generalizing forms with
  | nil =>
    obtain rfl : forms = [] := by simpa using hforms
    rw [ofArguments.eq_def]
  | @cons part argument parts arguments hfirst hmore ih =>
    cases part with
    | none => simp at hforms
    | some form =>
      rw [mapM_id_some, Option.map_eq_some_iff] at hforms
      obtain ⟨others, hothers, rfl⟩ := hforms
      rw [hfirst form rfl others, ih hothers]

/-- A generic type stands for what its arguments make of it. -/
theorem ofForm_generic {depth : Nat} (hdepth : ¬nestingLimit < depth) (word : PathWord)
    {parts : List (Option TypeForm)} {arguments : List Argument}
    (h : List.Forall₂ (Yields (depth + 1)) parts arguments) {form : TypeForm}
    (hform : genericForm? word parts = some form) :
    ofForm depth form = ofGeneric word.text arguments := by
  obtain ⟨forms, hforms, rfl⟩ := Option.map_eq_some_iff.mp hform
  simp only [ofForm, hdepth, if_false, ofArguments_of_yields h hforms]

theorem ofForm_array {depth : Nat} (h : ¬nestingLimit < depth) {inner : TypeForm} {e : TypeExpr}
    (he : ofForm (depth + 1) inner = .ok e) (text : String) (n : UInt64) :
    ofForm depth (.array inner (.ofNat text n.toNat)) = .ok (ofArray e n) := by
  simp only [ofForm, h, if_false, lengthOf_ofNat, he, ok_bind, pure_eq_ok]

theorem ofForm_bytes {depth : Nat} (h : depth < nestingLimit) (text : String) (n : UInt64) :
    ofForm depth (.array (.path byteWord none true) (.ofNat text n.toNat)) = .ok (bytes n) := by
  have hname : Primitive.isName "u8" = true := by decide
  have hword : byteWord.text = "u8" := rfl
  have hdeep : ¬nestingLimit < depth + 1 := by omega
  have helement : ofForm (depth + 1) (.path byteWord none true) = .ok (primitive "u8") := by
    simp only [ofForm, hdeep, if_false, hword, ofName, hname, if_true]
  rw [ofForm_array (by omega) helement, ofArray, if_pos rfl]

/-- By induction on the spelling. A form is refused only where it lies too deep. -/
theorem Spelling.ofForm_eq {e : TypeExpr} (spelling : Spelling e) (depth : Nat) (form : TypeForm)
    (hform : spelling.form? = some form) (hdepth : depth + e.levels ≤ nestingLimit) :
    ofForm depth form = .ok e := by
  have hlimit : ¬nestingLimit < depth := by omega
  induction spelling generalizing depth form with
  | name word he =>
    simp only [form?, PathWord.form?] at hform
    split at hform
    · cases hform
    · cases hform
      simp [ofForm, hlimit, he]
  | sequence element ih =>
    rw [levels] at hdepth
    have helement := yields_type fun form hform => ih (depth + 1) form hform (by omega) (by omega)
    exact ofForm_generic hlimit (Generic.word .sequence) (.cons helement .nil) hform
  | boundedSequence element bound ih =>
    rw [levels] at hdepth
    have helement := yields_type fun form hform => ih (depth + 1) form hform (by omega) (by omega)
    exact ofForm_generic hlimit (Generic.word .boundedSequence)
      (.cons helement (.cons (yields_number _ bound) .nil)) hform
  | option inner ih =>
    rw [levels] at hdepth
    have hinner := yields_type fun form hform => ih (depth + 1) form hform (by omega) (by omega)
    exact ofForm_generic hlimit (Generic.word .option) (.cons hinner .nil) hform
  | map key value ihk ihv =>
    rw [levels] at hdepth
    have hkey := yields_type fun form hform => ihk (depth + 1) form hform (by omega) (by omega)
    have hvalue := yields_type fun form hform => ihv (depth + 1) form hform (by omega) (by omega)
    exact ofForm_generic hlimit (Generic.word .map) (.cons hkey (.cons hvalue .nil)) hform
  | boundedMap key value bound ihk ihv =>
    rw [levels] at hdepth
    have hkey := yields_type fun form hform => ihk (depth + 1) form hform (by omega) (by omega)
    have hvalue := yields_type fun form hform => ihv (depth + 1) form hform (by omega) (by omega)
    exact ofForm_generic hlimit (Generic.word .boundedMap)
      (.cons hkey (.cons hvalue (.cons (yields_number _ bound) .nil))) hform
  | array element length hbytes ih =>
    rw [levels] at hdepth
    have hparts : ∃ inner, element.form? = some inner ∧
        .array inner (lengthForm length) = form := by
      simpa [form?, Option.map_eq_some_iff] using hform
    obtain ⟨inner, hinner, rfl⟩ := hparts
    have helement := ih (depth + 1) _ hinner (by omega) (by omega)
    rw [lengthForm, ofForm_array hlimit helement, ofArray, if_neg hbytes]
  | bytes width =>
    rw [levels] at hdepth
    have hparts : .array (.path byteWord none true) (lengthForm width) = form := by
      simpa [form?, PathWord.form?, PathWord.text, Name.text, byteWord, plainWord] using hform
    subst hparts
    exact ofForm_bytes (by omega) _ width
  | boundedString bound =>
    exact ofForm_generic hlimit (Generic.word .boundedString)
      (.cons (yields_number _ bound) .nil) hform

theorem mapM_id_eq_none_iff {α : Type} {as : List (Option α)} :
    as.mapM id = none ↔ none ∈ as := by
  induction as with
  | nil => simp
  | cons a as ih =>
    cases a with
    | none => simp
    | some a =>
      rw [mapM_id_some, Option.map_eq_none_iff, ih]
      simp

theorem genericForm?_eq_none_iff {word : PathWord} {forms : List (Option TypeForm)} :
    genericForm? word forms = none ↔ none ∈ forms := by
  simp [genericForm?, mapM_id_eq_none_iff]

/-- Only `try` is no type, which can be spelled but names none. -/
theorem Spelling.form?_eq_none_iff {e : TypeExpr} (spelling : Spelling e) :
    spelling.form? = none ↔ "try" ∈ e.references := by
  induction spelling with
  | name word he =>
    have htry : Primitive.isName "try" = false := by decide
    have hform : (name word he).form? = none ↔ word.text = "try" := by
      simp [form?, PathWord.form?]
    rw [hform, he, ofName]
    split
    · rename_i hname
      have hne : word.text ≠ "try" := by
        intro heq
        rw [heq, htry] at hname
        cases hname
      simp [references, hne]
    · simp [references, eq_comm]
  | sequence element ih =>
    rw [form?, genericForm?_eq_none_iff, references, ← ih]
    simp [eq_comm]
  | boundedSequence element bound ih =>
    rw [form?, genericForm?_eq_none_iff, references, ← ih]
    simp [eq_comm]
  | option inner ih =>
    rw [form?, genericForm?_eq_none_iff, references, ← ih]
    simp [eq_comm]
  | map key value ihk ihv =>
    rw [form?, genericForm?_eq_none_iff, references, List.mem_append, ← ihk, ← ihv]
    simp [eq_comm]
  | boundedMap key value bound ihk ihv =>
    rw [form?, genericForm?_eq_none_iff, references, List.mem_append, ← ihk, ← ihv]
    simp [eq_comm]
  | array element length hbytes ih =>
    rw [form?, Option.map_eq_none_iff, references, ih]
  | bytes width =>
    simp [form?, PathWord.form?, PathWord.text, Name.text, byteWord, plainWord, references]
  | boundedString bound =>
    rw [form?, genericForm?_eq_none_iff, references]
    simp

/-- One type is read from the tokens, and nothing is left over. -/
theorem ofTokens?_tokens {e : TypeExpr} (spelling : Spelling e) :
    TypeForm.ofTokens? (spelling.tokens false) = spelling.form? := by
  have hbalanced : Token.balanced [] (spelling.tokens false) = true := by
    simpa [Token.balanced] using spelling.closes false [] []
  have hcount : (spelling.tokens false).length ≤ 3 * (spelling.tokens false).length + 3 := by omega
  have hreads : (layers (3 * (spelling.tokens false).length + 3)).type true
      (spelling.tokens false) = spelling.form?.map fun form => (form, []) := by
    simpa [StateT.run] using spelling.reads false true hcount [] trivial
  cases hform : spelling.form? <;> simp [TypeForm.ofTokens?, hbalanced, hreads, hform]

end WireSchema.TypeExpr
