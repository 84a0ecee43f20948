import WireSchema.Proofs.Outcome
import WireSchema.TypeExpr.Parser

/-!
The type expressions that text stands for: how their names are spelled, and how deeply their parts
lie. Main statement: what a text stands for can be spelled, and no part of it lies too deep.
-/

namespace WireSchema.TypeExpr

/-- How an expression is spelled. Its names are words of paths. The spelling of a name tells whether
it is that of a primitive, and an array of bytes is not spelled as an array. -/
inductive Spelling : TypeExpr → Type
  | name {e : TypeExpr} (word : PathWord) (he : e = ofName word.text) : Spelling e
  | sequence {element : TypeExpr} (spelling : Spelling element) : Spelling (.sequence element)
  | boundedSequence {element : TypeExpr} (spelling : Spelling element) (bound : UInt64) :
    Spelling (.boundedSequence element bound)
  | option {inner : TypeExpr} (spelling : Spelling inner) : Spelling (.option inner)
  | map {key value : TypeExpr} (first : Spelling key) (second : Spelling value) :
    Spelling (.map key value)
  | boundedMap {key value : TypeExpr} (first : Spelling key) (second : Spelling value)
    (bound : UInt64) : Spelling (.boundedMap key value bound)
  | array {element : TypeExpr} (spelling : Spelling element) (length : UInt64)
    (hbytes : element ≠ primitive "u8") : Spelling (.array element length)
  | bytes (width : UInt64) : Spelling (.bytes width)
  | boundedString (bound : UInt64) : Spelling (.boundedString bound)

/-- How deeply the innermost type lies. A bound is no type. -/
def levels : TypeExpr → Nat
  | primitive _ | named _ | boundedString _ => 0
  | sequence element | boundedSequence element _ | option element | array element _ =>
    element.levels + 1
  | map key value | boundedMap key value _ => max key.levels value.levels + 1
  | bytes _ => 1

theorem render_ofName (name : String) : (ofName name).render = name := by
  unfold ofName
  split <;> rfl

theorem levels_ofName (name : String) : (ofName name).levels = 0 := by
  unfold ofName
  split <;> rfl

/-- The expression can be spelled and may stand `depth` levels deep. -/
structure Printable (depth : Nat) (e : TypeExpr) : Prop where
  spelled : Nonempty (Spelling e)
  within : depth + e.levels ≤ nestingLimit

namespace Printable
variable {depth : Nat} {e key value : TypeExpr}

theorem of_succ (h : Printable (depth + 1) e) : Printable depth e := by
  have hwithin := h.within
  exact ⟨h.spelled, by omega⟩

theorem name (word : PathWord) (hdepth : depth ≤ nestingLimit) :
    Printable depth (ofName word.text) := by
  refine ⟨⟨.name word rfl⟩, ?_⟩
  rw [levels_ofName]
  omega

/-- What holds one type. -/
theorem enclose {outer : TypeExpr} (h : Printable (depth + 1) e)
    (hspell : Spelling e → Spelling outer) (hlevels : outer.levels = e.levels + 1) :
    Printable depth outer := by
  obtain ⟨⟨spelling⟩, hwithin⟩ := h
  exact ⟨⟨hspell spelling⟩, by omega⟩

/-- What holds two types. -/
theorem enclose₂ {outer : TypeExpr} (hkey : Printable (depth + 1) key)
    (hvalue : Printable (depth + 1) value) (hspell : Spelling key → Spelling value → Spelling outer)
    (hlevels : outer.levels = max key.levels value.levels + 1) : Printable depth outer := by
  obtain ⟨⟨first⟩, hfirst⟩ := hkey
  obtain ⟨⟨second⟩, hsecond⟩ := hvalue
  exact ⟨⟨hspell first second⟩, by omega⟩

theorem bytes (width : UInt64) (hdepth : depth + 1 ≤ nestingLimit) :
    Printable depth (.bytes width) :=
  ⟨⟨.bytes width⟩, hdepth⟩

theorem boundedString (bound : UInt64) (hdepth : depth ≤ nestingLimit) :
    Printable depth (.boundedString bound) :=
  ⟨⟨.boundedString bound⟩, hdepth⟩

theorem ofArray (h : Printable (depth + 1) e) (length : UInt64) :
    Printable depth (ofArray e length) := by
  unfold TypeExpr.ofArray
  split
  · have hwithin := h.within
    exact bytes length (by omega)
  · rename_i hbytes
    exact h.enclose (fun spelling => .array spelling length hbytes) rfl

end Printable

/-- What an argument stands for if it is a type. -/
def Argument.Printable (depth : Nat) (argument : Argument) : Prop :=
  ∀ e, argument.type = .ok e → TypeExpr.Printable depth e

theorem printable_build? {depth : Nat} {generic : Generic} {arguments : List Argument}
    {e : TypeExpr} (hdepth : depth ≤ nestingLimit)
    (h : ∀ argument ∈ arguments, argument.Printable (depth + 1))
    (hbuild : generic.build? arguments = some (.ok e)) : Printable depth e := by
  unfold Generic.build? at hbuild
  split at hbuild <;>
    simp only [Option.some.injEq, bind_eq_ok_iff, pure_eq_ok, Except.ok.injEq, reduceCtorEq]
      at hbuild
  case h_1 element =>
    obtain ⟨a, ha, rfl⟩ := hbuild
    exact (h element (by simp) a ha).enclose .sequence rfl
  case h_2 inner =>
    obtain ⟨a, ha, rfl⟩ := hbuild
    exact (h inner (by simp) a ha).enclose .option rfl
  case h_3 inner => exact (h inner (by simp) e hbuild).of_succ
  case h_4 key value =>
    obtain ⟨k, hk, v, hv, rfl⟩ := hbuild
    exact (h key (by simp) k hk).enclose₂ (h value (by simp) v hv) .map rfl
  case h_5 element bound =>
    obtain ⟨a, ha, n, -, rfl⟩ := hbuild
    exact (h element (by simp) a ha).enclose (fun spelling => .boundedSequence spelling n) rfl
  case h_6 bound =>
    obtain ⟨n, -, rfl⟩ := hbuild
    exact .boundedString n hdepth
  case h_7 key value bound =>
    obtain ⟨k, hk, v, hv, n, -, rfl⟩ := hbuild
    exact (h key (by simp) k hk).enclose₂ (h value (by simp) v hv)
      (fun first second => .boundedMap first second n) rfl

theorem printable_ofGeneric {depth : Nat} {name : String} {arguments : List Argument}
    {e : TypeExpr} (hdepth : depth ≤ nestingLimit)
    (h : ∀ argument ∈ arguments, argument.Printable (depth + 1))
    (he : ofGeneric name arguments = .ok e) : Printable depth e := by
  unfold ofGeneric at he
  split at he
  · cases he
  · split at he
    · cases he
    · rename_i hbuild
      exact printable_build? hdepth h (he ▸ hbuild)

/-- A form stands for an expression that can be spelled, if for any. By induction on the forms and
the lists of them, where an argument lies one level deeper than what it is given to. -/
theorem printable_ofForm (depth : Nat) (form : TypeForm) :
    ∀ e, ofForm depth form = .ok e → Printable depth e := by
  refine ofForm.induct (fun depth form => ∀ e, ofForm depth form = .ok e → Printable depth e)
    (fun depth forms => ∀ argument ∈ ofArguments depth forms, argument.Printable depth)
    ?deep ?name ?generic ?call ?array ?paren ?qualified ?reference ?tuple ?slice ?bound ?other
    ?constant ?binding ?nil ?cons depth form
  case deep =>
    intro form depth hdeep e he
    simp [ofForm.eq_def, hdeep] at he
  case name =>
    intro depth hdepth word lone e he
    simp only [ofForm, hdepth, if_false, Except.ok.injEq] at he
    subst he
    exact .name word (by omega)
  case generic =>
    intro depth hdepth word arguments lone ih e he
    simp only [ofForm, hdepth, if_false] at he
    exact printable_ofGeneric (by omega) ih he
  case array =>
    intro depth hdepth element length ih e he
    simp only [ofForm, hdepth, if_false, bind_eq_ok_iff, pure_eq_ok, Except.ok.injEq] at he
    obtain ⟨n, -, inner, hinner, rfl⟩ := he
    exact (ih inner hinner).ofArray n
  case paren =>
    intro depth hdepth inner ih e he
    simp only [ofForm, hdepth, if_false] at he
    exact (ih e he).of_succ
  case nil => simp [ofArguments]
  case cons =>
    intro depth form rest hform hrest argument hmem
    rw [ofArguments.eq_def, List.mem_cons] at hmem
    rcases hmem with rfl | hmem
    · cases form <;> first | exact hform | simp [Argument.Printable]
    · exact hrest argument hmem
  all_goals
    intro depth hdepth
    simp [ofForm, hdepth]

theorem printable_parse {s : String} {e : TypeExpr} (he : parse s = .ok e) : Printable 0 e := by
  have htext : ofText s.toList = .ok e := mapError_eq_ok_iff.mp he
  unfold ofText at htext
  split at htext
  · cases htext
  · split at htext
    · cases htext
      exact .bytes _ (by decide)
    · split at htext
      · exact printable_ofForm 0 _ e htext
      · cases htext

end WireSchema.TypeExpr
