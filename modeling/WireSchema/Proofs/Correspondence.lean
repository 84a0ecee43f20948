import WireSchema.Proofs.ClientText
import WireSchema.Proofs.Identity
import WireSchema.Proofs.Tags

/-!
Layouts that a client module does not tell apart. Main statement: a value has the same tags under
both, where enums of the same name have tags of the same width.
-/

namespace WireSchema

/-- What stands in a struct or a tuple, without names. -/
def Value.parts : Value → List Value
  | .struct fields => fields.map (·.2)
  | .tuple members => members
  | _ => []

namespace Layout

/-- Layouts of which schemas say the same. -/
inductive SameShown : Layout → Layout → Prop
  | reference : layout.isNamed → other.isNamed → layout.name = other.name → SameShown layout other
  | primitive : kind.told = otherKind.told →
      SameShown (.primitive "" kind) (.primitive "" otherKind)
  | array : SameShown element otherElement →
      SameShown (.array "" element length) (.array "" otherElement length)
  | sequence : SameShown item otherItem →
      SameShown (.sequence "" item bound) (.sequence "" otherItem otherBound)
  | map : SameShown key otherKey → SameShown content otherContent →
      SameShown (.map "" key content bound) (.map "" otherKey otherContent otherBound)
  | option : SameShown content otherContent →
      SameShown (.option "" content) (.option "" otherContent)

theorem ShownAs.sameShown {layout other : Layout} {type otherType : ClientType}
    (h : layout.ShownAs type) (h' : other.ShownAs otherType) (htold : type.told = otherType.told) :
    SameShown layout other := by
  induction h generalizing other otherType with
  | reference hnamed =>
    cases h' with
    | reference hnamed' => exact .reference hnamed hnamed' (ClientType.reference.inj htold)
    | _ => cases htold
  | primitive =>
    cases h' with
    | primitive => exact .primitive (ClientType.primitive.inj htold)
    | _ => cases htold
  | array _ ih =>
    cases h' with
    | array helement =>
      obtain ⟨hsame, rfl⟩ := ClientType.array.inj htold
      exact .array (ih helement hsame)
    | _ => cases htold
  | sequence _ ih =>
    cases h' with
    | sequence hitem => exact .sequence (ih hitem (ClientType.sequence.inj htold))
    | _ => cases htold
  | map _ _ ihk ihc =>
    cases h' with
    | map hkey hcontent =>
      obtain ⟨hk, hc⟩ := ClientType.map.inj htold
      exact .map (ihk hkey hk) (ihc hcontent hc)
    | _ => cases htold
  | option _ ih =>
    cases h' with
    | option hinner => exact .option (ih hinner (ClientType.option.inj htold))
    | _ => cases htold

/-- The layouts side by side in a struct or a tuple. -/
def members : Layout → List Layout
  | .struct _ fields => fields.map (·.2)
  | .tuple _ members => members
  | _ => []

/-- Structs or tuples, as the case may be, with the same shown for each member. -/
structure SameMembers (layout other : Layout) : Prop where
  structLike : layout.isStructLike
  structLike' : other.isStructLike
  members : List.Forall₂ SameShown layout.members other.members

/-- Entries with the same shown for each member. Enums have tags of the same width. -/
def Corresponds : Layout → Layout → Prop
  | .enum _ variants tag, .enum _ others tag' =>
    tag = tag' ∧ List.Forall₂ (fun variant other => SameMembers variant.2 other.2) variants others
  | layout, other => SameMembers layout other

section StructLike
variable {layout : Layout} {value : Value}

theorem fits_of_mem_members {t : Table} (h : layout.Linked t) :
    ∀ member ∈ layout.members, t.Fits member := by
  intro member hmember
  cases layout with
  | struct name fields =>
    obtain ⟨field, hfield, rfl⟩ := List.mem_map.mp hmember
    exact h.child (.field hfield)
  | tuple name members => exact h.child (.member hmember)
  | _ => cases hmember

theorem admitsMembers_parts (hlike : layout.isStructLike) (h : layout.Admits value) :
    AdmitsMembers layout.members value.parts := by
  cases layout with
  | struct name fields =>
    cases value with
    | struct values => exact AdmitsFields.members h
    | tuple values =>
      obtain ⟨rfl, rfl⟩ : fields = [] ∧ values = [] := h
      trivial
    | _ => exact h.elim
  | tuple name members =>
    cases value with
    | tuple values => exact h
    | struct values =>
      obtain ⟨rfl, rfl⟩ : members = [] ∧ values = [] := h
      trivial
    | _ => exact h.elim
  | _ => cases hlike

theorem tags_eq_tagsMembers (hlike : layout.isStructLike) (h : layout.Admits value) :
    layout.tags value = tagsMembers layout.members value.parts := by
  cases layout with
  | struct name fields =>
    cases value with
    | struct values => rw [tags, tagsFields_eq, members, Value.parts]
    | tuple values =>
      obtain ⟨rfl, rfl⟩ : fields = [] ∧ values = [] := h
      rfl
    | _ => exact h.elim
  | tuple name members =>
    cases value with
    | tuple values => rfl
    | struct values =>
      obtain ⟨rfl, rfl⟩ : members = [] ∧ values = [] := h
      rfl
    | _ => exact h.elim
  | _ => cases hlike

end StructLike

section InStep
variable {t t' : Table}

/-- Entries of the same name correspond. -/
def Aligned (t t' : Table) : Prop :=
  ∀ name layout other, t.get? name = some layout → t'.get? name = some other →
    Corresponds layout other

/-- Whatever corresponds to the layout has the same tags in a value of both, be it shown where it
stands or be it the members that are. -/
structure InStep (t t' : Table) (layout : Layout) : Prop where
  shown : ∀ other, t.Fits layout → t'.Fits other → SameShown layout other →
    ∀ value, layout.Admits value → other.Admits value → layout.tags value = other.tags value
  members : ∀ other, layout.Linked t → other.Linked t' → SameMembers layout other →
    ∀ value, layout.Admits value → other.Admits value → layout.tags value = other.tags value

theorem tagsMembers_eq {members others : List Layout} {values : List Value}
    (ih : ∀ member ∈ members, InStep t t' member) (hfits : ∀ member ∈ members, t.Fits member)
    (hfits' : ∀ other ∈ others, t'.Fits other) (hsame : List.Forall₂ SameShown members others)
    (h : AdmitsMembers members values) (h' : AdmitsMembers others values) :
    tagsMembers members values = tagsMembers others values := by
  induction hsame generalizing values with
  | nil => rfl
  | cons hfirst _ ihs =>
    obtain ⟨hmember, hmembers⟩ := List.forall_mem_cons.mp ih
    obtain ⟨hfit, hfits⟩ := List.forall_mem_cons.mp hfits
    obtain ⟨hfit', hfits'⟩ := List.forall_mem_cons.mp hfits'
    cases values with
    | nil => exact h.elim
    | cons value values =>
      rw [tagsMembers, tagsMembers, hmember.shown _ hfit hfit' hfirst value h.1 h'.1,
        ihs hmembers hfits hfits' h.2 h'.2]

theorem inStep_members {layout : Layout} (ih : ∀ member ∈ layout.members, InStep t t' member)
    (other : Layout) (hlinked : layout.Linked t) (hlinked' : other.Linked t')
    (hsame : SameMembers layout other) (value : Value) (h : layout.Admits value)
    (h' : other.Admits value) : layout.tags value = other.tags value := by
  rw [tags_eq_tagsMembers hsame.structLike h, tags_eq_tagsMembers hsame.structLike' h']
  exact tagsMembers_eq ih (fits_of_mem_members hlinked) (fits_of_mem_members hlinked')
    hsame.members (admitsMembers_parts hsame.structLike h)
    (admitsMembers_parts hsame.structLike' h')

theorem tagsPayload_eq {variants others : List (String × Layout)} {position : Nat} {value : Value}
    (ih : ∀ variant ∈ variants, InStep t t' variant.2)
    (hlinked : ∀ variant ∈ variants, variant.2.Linked t)
    (hlinked' : ∀ other ∈ others, other.2.Linked t')
    (hsame : List.Forall₂ (fun variant other => SameMembers variant.2 other.2) variants others)
    (h : AdmitsPayload variants position value) (h' : AdmitsPayload others position value) :
    tagsPayload variants position value = tagsPayload others position value := by
  induction hsame generalizing position with
  | nil => rfl
  | cons hfirst _ ihs =>
    obtain ⟨hvariant, hvariants⟩ := List.forall_mem_cons.mp ih
    obtain ⟨hlink, hlinked⟩ := List.forall_mem_cons.mp hlinked
    obtain ⟨hlink', hlinked'⟩ := List.forall_mem_cons.mp hlinked'
    cases position with
    | zero => exact hvariant.members _ hlink hlink' hfirst value h h'
    | succ position => exact ihs hvariants hlinked hlinked' h h'

/-- A layout with a name is looked up in both tables. -/
theorem corresponds_of_fits {layout other : Layout} (haligned : Aligned t t')
    (hfits : t.Fits layout) (hfits' : t'.Fits other) (hnamed : layout.isNamed)
    (hnamed' : other.isNamed) (hname : layout.name = other.name) : Corresponds layout other :=
  haligned layout.name layout other (hfits.1 hnamed) (hname ▸ hfits'.1 hnamed')

/-- What is neither a struct nor a tuple nor an enum is no entry, and has no members either. -/
theorem inStep_inPlace {layout : Layout} (hlike : ¬layout.isStructLike)
    (hplain : layout.variants? = none) (haligned : Aligned t t')
    (h : ∀ other, t.Fits layout → t'.Fits other → SameShown layout other → ¬layout.isNamed →
      ∀ value, layout.Admits value → other.Admits value → layout.tags value = other.tags value) :
    InStep t t' layout := by
  refine ⟨?_, fun other _ _ hsame => absurd hsame.structLike hlike⟩
  intro other hfits hfits' hsame
  by_cases hnamed : layout.isNamed
  · cases hsame with
    | reference _ hnamed' hname =>
      have hsame := corresponds_of_fits haligned hfits hfits' hnamed hnamed' hname
      cases layout with
      | enum name variants tag => cases hplain
      | _ => exact absurd hsame.structLike hlike
    | _ => simp [isNamed, name] at hnamed
  · exact h other hfits hfits' hsame hnamed

theorem inStep_structLike {layout : Layout} (hlike : layout.isStructLike)
    (haligned : Aligned t t') (ih : ∀ member ∈ layout.members, InStep t t' member) :
    InStep t t' layout := by
  refine ⟨?_, inStep_members ih⟩
  intro other hfits hfits' hsame
  cases hsame with
  | reference hnamed hnamed' hname =>
    have hsame := corresponds_of_fits haligned hfits hfits' hnamed hnamed' hname
    apply inStep_members ih other hfits.2 hfits'.2
    cases layout with
    | enum name variants tag => cases hlike
    | _ => exact hsame
  | _ => cases hlike

theorem inStep_enum (name : String) {variants : List (String × Layout)} (tag : TagWidth)
    (haligned : Aligned t t') (ih : ∀ variant ∈ variants, InStep t t' variant.2) :
    InStep t t' (.enum name variants tag) := by
  refine ⟨?_, fun other _ _ hsame => absurd hsame.structLike Bool.false_ne_true⟩
  intro other hfits hfits' hsame value h h'
  cases hsame with
  | reference hnamed hnamed' hname =>
    have hsame := corresponds_of_fits haligned hfits hfits' hnamed hnamed' hname
    cases other with
    | enum name' others tag' =>
      obtain ⟨rfl, hvariants⟩ := hsame
      have hlinked := hfits.2
      have hlinked' := hfits'.2
      cases hlinked with
      | enum _ hlinked =>
        cases hlinked' with
        | enum _ hlinked' =>
          cases value with
          | enum index payload =>
            rw [tags, tags, tagsPayload_eq ih hlinked hlinked' hvariants h.2 h'.2]
          | _ => exact h.elim
    | _ => exact absurd hsame.structLike Bool.false_ne_true

theorem inStep (haligned : Aligned t t') (layout : Layout) : InStep t t' layout := by
  induction layout with
  | primitive name kind =>
    refine inStep_inPlace Bool.false_ne_true rfl haligned ?_
    intro other _ _ hsame hplain value _ _
    cases hsame with
    | reference hnamed => exact absurd hnamed hplain
    | primitive => cases value <;> rfl
  | array name element length ih =>
    refine inStep_inPlace Bool.false_ne_true rfl haligned ?_
    intro other hfits hfits' hsame hplain value h h'
    cases hsame with
    | reference hnamed => exact absurd hnamed hplain
    | array helement =>
      cases value with
      | array elements =>
        apply List.flatMap_congr
        intro value hvalue
        exact ih.shown _ (hfits.2.child .element) (hfits'.2.child .element) helement value
          (h.2 value hvalue) (h'.2 value hvalue)
      | _ => exact h.elim
  | sequence name element bound ih =>
    refine inStep_inPlace Bool.false_ne_true rfl haligned ?_
    intro other hfits hfits' hsame hplain value h h'
    cases hsame with
    | reference hnamed => exact absurd hnamed hplain
    | sequence helement =>
      cases value with
      | sequence elements =>
        apply List.flatMap_congr
        intro value hvalue
        exact ih.shown _ (hfits.2.child .item) (hfits'.2.child .item) helement value
          (h.2.2 value hvalue) (h'.2.2 value hvalue)
      | _ => exact h.elim
  | map name key content bound ihk ihc =>
    refine inStep_inPlace Bool.false_ne_true rfl haligned ?_
    intro other hfits hfits' hsame hplain value h h'
    cases hsame with
    | reference hnamed => exact absurd hnamed hplain
    | map hkey hcontent =>
      cases value with
      | map entries =>
        apply List.flatMap_congr
        intro entry hentry
        obtain ⟨hk, hc⟩ := h.2.2 entry hentry
        obtain ⟨hk', hc'⟩ := h'.2.2 entry hentry
        rw [ihk.shown _ (hfits.2.child .key) (hfits'.2.child .key) hkey entry.1 hk hk',
          ihc.shown _ (hfits.2.child .content) (hfits'.2.child .content) hcontent entry.2 hc hc']
      | _ => exact h.elim
  | option name inner ih =>
    refine inStep_inPlace Bool.false_ne_true rfl haligned ?_
    intro other hfits hfits' hsame hplain value h h'
    cases hsame with
    | reference hnamed => exact absurd hnamed hplain
    | option hinner =>
      cases value with
      | absent => rfl
      | present value =>
        exact ih.shown _ (hfits.2.child .held) (hfits'.2.child .held) hinner value h h'
      | _ => exact h.elim
  | struct name fields ih =>
    exact inStep_structLike rfl haligned (List.forall_mem_map.mpr ih)
  | tuple name members ih => exact inStep_structLike rfl haligned ih
  | enum name variants tag ih => exact inStep_enum name tag haligned ih

end InStep
end Layout
end WireSchema
