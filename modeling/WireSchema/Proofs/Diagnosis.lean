import Mathlib.Data.List.Chain
import Mathlib.Data.List.Duplicate
import Mathlib.Data.List.Forall2
import WireSchema.Proofs.Emission

/-!
What the errors of an emission say. Main statement: every error is true of the declarations. A cycle
that is reported is a way along references back to where it starts, cut out of those that wait for
one another.
-/

namespace WireSchema

theorem duplicate_of_firstRepeat? {seen names : List String} {name : String}
    (h : firstRepeat? seen names = some name) :
    name ∈ names ∧ name ∈ seen ∨ List.Duplicate name names := by
  induction names generalizing seen with
  | nil => cases h
  | cons first names ih =>
    unfold firstRepeat? at h
    split at h
    · rename_i hseen
      cases h
      exact .inl ⟨List.mem_cons_self, hseen⟩
    · rcases ih h with ⟨hmem, hseen⟩ | hdup
      · rcases List.mem_cons.mp hseen with rfl | hseen
        · exact .inr hmem.duplicate_cons_self
        · exact .inl ⟨List.mem_cons_of_mem _ hmem, hseen⟩
      · exact .inr (hdup.duplicate_cons first)

theorem duplicate_of_firstRepeat?_nil {names : List String} {name : String}
    (h : firstRepeat? [] names = some name) : List.Duplicate name names := by
  rcases duplicate_of_firstRepeat? h with ⟨-, hseen⟩ | hdup
  · cases hseen
  · exact hdup

namespace Layout

theorem duplicate_of_checkedStruct {name : String} {fields : List (String × Layout)}
    {e : SchemaError} (h : checkedStruct name fields = .error e) :
    ∃ field, e = .duplicateField name field ∧ List.Duplicate field (fields.map (·.1)) := by
  unfold checkedStruct at h
  split at h
  · rename_i field hrepeat
    cases h
    exact ⟨field, rfl, duplicate_of_firstRepeat?_nil hrepeat⟩
  · cases h

theorem duplicate_of_checkedEnum {name : String} {variants : List (String × Layout)}
    {tag : TagWidth} {e : SchemaError} (hlike : ∀ variant ∈ variants, variant.2.isStructLike)
    (h : checkedEnum name variants tag = .error e) :
    ∃ variant, e = .duplicateField name variant ∧ List.Duplicate variant (variants.map (·.1)) := by
  unfold checkedEnum at h
  split at h
  · rename_i variant hrepeat
    cases h
    exact ⟨variant, rfl, duplicate_of_firstRepeat?_nil hrepeat⟩
  · split at h
    · rename_i variant payload hfind
      have hbad := List.find?_some hfind
      have hgood := hlike _ (List.mem_of_find?_eq_some hfind)
      simp [hgood] at hbad
    · cases h

end Layout

namespace Declaration

def Variant.RepeatsField (variant : Variant) (field : String) : Prop :=
  match variant.payload with
  | .named fields => List.Duplicate field ((keptFields fields).map (·.name))
  | .unit | .unnamed _ => False

/-- `part` occurs more than once among the fields that are laid out, or among the variants, of the
type that is called `typeName`: the declaration itself or the payload of one of its variants. -/
def RepeatsPart (d : Declaration) (typeName part : String) : Prop :=
  match d.body with
  | .struct fields =>
    typeName = d.name ∧ List.Duplicate part ((keptFields fields).map (·.name))
  | .enum variants _ =>
    typeName = d.name ∧ List.Duplicate part (variants.map (·.name)) ∨
      ∃ variant ∈ variants, typeName = variant.payloadName d.name ∧ variant.RepeatsField part
  | .tuple _ | .alias _ => False

/-- A declaration of the first name refers to the second where it is not skipped. -/
def Mentions (ds : List Declaration) (name other : String) : Prop :=
  ∃ d ∈ ds, d.name = name ∧ other ∈ d.references

/-- A way along references that ends where it starts and is nowhere twice in between. -/
structure Circle (ds : List Declaration) (path : List String) : Prop where
  long : 2 ≤ path.length
  closed : path.head? = path.getLast?
  distinct : path.dropLast.Nodup
  along : path.IsChain (Mentions ds)

/-- What an error of an emission says about the declarations. -/
def Tells (ds : List Declaration) : SchemaError → Prop
  | .duplicateType name => List.Duplicate name (ds.map (·.name))
  | .cyclicReference path => Circle ds path
  | .unresolvedReference owner name =>
    Mentions ds owner name ∧ name ∉ ds.map (·.name) ∧ ¬Primitive.isName name
  | .unknownPrimitive name => (∃ d ∈ ds, name ∈ d.primitives) ∧ ¬Primitive.isName name
  | .duplicateField typeName part => ∃ d ∈ ds, d.RepeatsPart typeName part
  | .invalidVariantPayload _ _ | .invalidTypeExpr _ _ => False

/-- A step whose errors are `Fault` and whose results are `Yield`, whatever the memo. -/
structure Reports {α : Type} (step : Emission α) (Fault : SchemaError → Prop)
    (Yield : α → Prop) : Prop where
  fault : ∀ s e, step s = .error e → Fault e
  yield : ∀ s a s', step s = .ok (a, s') → Yield a

section Steps
variable {α β : Type} {Fault : SchemaError → Prop} {Yield : α → Prop}

theorem Reports.imp {step : Emission α} {Yield' : α → Prop} (h : Reports step Fault Yield)
    (himp : ∀ a, Yield a → Yield' a) : Reports step Fault Yield' :=
  ⟨h.fault, fun s a s' hok => himp a (h.yield s a s' hok)⟩

theorem Reports.pure {a : α} (h : Yield a) : Reports (pure a) Fault Yield := by
  constructor
  · intro s e herror
    cases herror
  · intro s b s' hok
    cases hok
    exact h

theorem Reports.throw {error : SchemaError} (h : Fault error) :
    Reports (throw error) Fault Yield := by
  constructor
  · intro s e herror
    cases herror
    exact h
  · intro s a s' hok
    cases hok

theorem Reports.bind {step : Emission α} {next : α → Emission β} {Yield' : β → Prop}
    (h : Reports step Fault Yield) (h' : ∀ a, Yield a → Reports (next a) Fault Yield') :
    Reports (step >>= next) Fault Yield' := by
  have hbind : ∀ s, (step >>= next) s = (step s >>= fun result => next result.1 result.2) :=
    fun _ => rfl
  constructor
  · intro s e herror
    rw [hbind, bind_eq_error_iff] at herror
    rcases herror with herror | ⟨⟨a, s'⟩, hok, herror⟩
    · exact h.fault s e herror
    · exact (h' a (h.yield s a s' hok)).fault s' e herror
  · intro s b s'' hok
    rw [hbind, bind_eq_ok_iff] at hok
    obtain ⟨⟨a, s'⟩, hstep, hnext⟩ := hok
    exact (h' a (h.yield s a s' hstep)).yield s' b s'' hnext

theorem Reports.map {step : Emission α} {f : α → β} {Yield' : β → Prop}
    (h : Reports step Fault Yield) (himp : ∀ a, Yield a → Yield' (f a)) :
    Reports (step >>= fun a => Pure.pure (f a)) Fault Yield' :=
  h.bind fun a ha => .pure (himp a ha)

theorem Reports.mapM {items : List α} {f : α → Emission β} {Yield' : α → β → Prop}
    (h : ∀ a ∈ items, Reports (f a) Fault (Yield' a)) :
    Reports (items.mapM f) Fault (fun bs => List.Forall₂ (fun b a => Yield' a b) bs items) := by
  induction items with
  | nil => exact .pure .nil
  | cons a items ih =>
    obtain ⟨ha, hitems⟩ := List.forall_mem_cons.mp h
    rw [List.mapM_cons]
    apply ha.bind
    intro b hb
    exact (ih hitems).map fun bs hbs => .cons hb hbs

theorem Reports.checked {result : Except SchemaError Layout} {Yield : Layout → Prop}
    (hfault : ∀ e, result = .error e → Fault e)
    (hyield : ∀ layout, result = .ok layout → Yield layout) :
    Reports (checked result) Fault Yield := by
  cases result with
  | error e => exact .throw (hfault e rfl)
  | ok layout => exact .pure (hyield layout rfl)

end Steps

theorem map_eq_map_of_forall₂ {α β γ : Type} {f : α → γ} {g : β → γ} {as : List α} {bs : List β}
    (h : List.Forall₂ (fun a b => f a = g b) as bs) : as.map f = bs.map g := by
  have hmap := List.forall₂_map_right_iff.mpr (List.forall₂_map_left_iff.mpr h)
  rwa [List.forall₂_eq_eq_eq] at hmap

section Resolution
variable {ds : List Declaration} {d : Declaration} {step : Declaration → Emission Layout}

/-- All that the declaration refers to tells of its faults. -/
def ReportsReferred (ds : List Declaration) (d : Declaration)
    (step : Declaration → Emission Layout) : Prop :=
  ∀ e, RefersTo ds d e → Reports (step e) (Tells ds) (fun _ => True)

theorem reports_type (hd : d ∈ ds) (h : ReportsReferred ds d step) {type : TypeExpr}
    (hprimitives : type.primitives ⊆ d.primitives) (hreferences : type.references ⊆ d.references) :
    Reports (type.resolve (fun name => (find? ds name).map step) d.name) (Tells ds)
      (fun _ => True) := by
  induction type with
  | primitive name =>
    cases hkind : Primitive.ofText? name with
    | none =>
      simp only [TypeExpr.resolve, hkind]
      have hname : name ∈ d.primitives := hprimitives (List.mem_singleton_self name)
      exact .throw ⟨⟨d, hd, hname⟩, by simp [Primitive.isName, hkind]⟩
    | some kind =>
      simp only [TypeExpr.resolve, hkind]
      exact .pure trivial
  | named name =>
    have hname : name ∈ d.references := hreferences (List.mem_singleton_self name)
    cases hfind : find? ds name with
    | some e =>
      obtain rfl := find?_name hfind
      simp only [TypeExpr.resolve, hfind, Option.map_some]
      exact h e ⟨mem_of_find? hfind, hname⟩
    | none =>
      cases hkind : Primitive.ofText? name with
      | none =>
        simp only [TypeExpr.resolve, hfind, Option.map_none, hkind]
        exact .throw ⟨⟨d, hd, rfl, hname⟩, find?_eq_none_iff.mp hfind,
          by simp [Primitive.isName, hkind]⟩
      | some kind =>
        simp only [TypeExpr.resolve, hfind, Option.map_none, hkind]
        exact .pure trivial
  | sequence element ih => exact (ih hprimitives hreferences).map fun _ _ => trivial
  | boundedSequence element bound ih => exact (ih hprimitives hreferences).map fun _ _ => trivial
  | option inner ih => exact (ih hprimitives hreferences).map fun _ _ => trivial
  | map key value ihk ihv =>
    obtain ⟨hkp, hvp⟩ := List.append_subset.mp hprimitives
    obtain ⟨hkr, hvr⟩ := List.append_subset.mp hreferences
    exact (ihk hkp hkr).bind fun _ _ => (ihv hvp hvr).map fun _ _ => trivial
  | boundedMap key value bound ihk ihv =>
    obtain ⟨hkp, hvp⟩ := List.append_subset.mp hprimitives
    obtain ⟨hkr, hvr⟩ := List.append_subset.mp hreferences
    exact (ihk hkp hkr).bind fun _ _ => (ihv hvp hvr).map fun _ _ => trivial
  | array element length ih => exact (ih hprimitives hreferences).map fun _ _ => trivial
  | bytes width => exact .pure trivial
  | boundedString bound => exact .pure trivial

theorem reports_type_of_mem (hd : d ∈ ds) (h : ReportsReferred ds d step) {type : TypeExpr}
    (htype : type ∈ d.types) :
    Reports (type.resolve (fun name => (find? ds name).map step) d.name) (Tells ds)
      (fun _ => True) :=
  reports_type hd h (fun _ hname => List.mem_flatMap.mpr ⟨type, htype, hname⟩)
    fun _ hname => List.mem_flatMap.mpr ⟨type, htype, hname⟩

theorem reports_fields (hd : d ∈ ds) (h : ReportsReferred ds d step) {fields : List Field}
    (htypes : ∀ field ∈ keptFields fields, field.type ∈ d.types) :
    Reports (resolveFields (fun name => (find? ds name).map step) d.name fields) (Tells ds)
      (fun layouts => layouts.map (·.1) = (keptFields fields).map (·.name)) := by
  have hfield : ∀ field ∈ keptFields fields, Reports (do
      return (field.name, ← field.type.resolve (fun name => (find? ds name).map step) d.name))
      (Tells ds) (fun part : String × Layout => part.1 = field.name) := by
    intro field hmem
    exact (reports_type_of_mem hd h (htypes field hmem)).map fun _ _ => rfl
  have hfields := Reports.mapM hfield
  exact hfields.imp fun layouts hlayouts => map_eq_map_of_forall₂ hlayouts

theorem reports_members (hd : d ∈ ds) (h : ReportsReferred ds d step) {members : List TypeExpr}
    (htypes : ∀ member ∈ members, member ∈ d.types) :
    Reports (resolveMembers (fun name => (find? ds name).map step) d.name members) (Tells ds)
      (fun _ => True) := by
  have hmembers := Reports.mapM fun member (hmember : member ∈ members) =>
    reports_type_of_mem hd h (htypes member hmember)
  exact hmembers.imp fun _ _ => trivial

/-- A struct, or the payload of a variant with named fields. -/
theorem reports_struct (hd : d ∈ ds) (h : ReportsReferred ds d step) {name : String}
    {fields : List Field} (htypes : ∀ field ∈ keptFields fields, field.type ∈ d.types)
    (hrepeats : ∀ field, List.Duplicate field ((keptFields fields).map (·.name)) →
      d.RepeatsPart name field) :
    Reports
      (do checked (Layout.checkedStruct name
        (← resolveFields (fun name => (find? ds name).map step) d.name fields)))
      (Tells ds) (fun layout => layout.isStructLike) := by
  apply (reports_fields hd h htypes).bind
  intro layouts hnames
  apply Reports.checked
  · intro e herror
    obtain ⟨field, rfl, hdup⟩ := Layout.duplicate_of_checkedStruct herror
    rw [hnames] at hdup
    exact ⟨d, hd, hrepeats field hdup⟩
  · intro layout hok
    obtain ⟨-, rfl⟩ := Layout.checkedStruct_eq_ok_iff.mp hok
    rfl

theorem reports_variant {name : String} {variants : List Variant} {tag : TagWidth}
    (hd : ⟨name, .enum variants tag⟩ ∈ ds)
    (h : ReportsReferred ds ⟨name, .enum variants tag⟩ step) {variant : Variant}
    (hvariant : variant ∈ variants) :
    Reports (variant.resolve (fun name => (find? ds name).map step) name) (Tells ds)
      (fun part => part.2.isStructLike ∧ part.1 = variant.name) := by
  have htypes : ∀ type ∈ variant.types, type ∈ types ⟨name, .enum variants tag⟩ :=
    fun type htype => mem_types_of_variant hvariant htype
  have hrepeats : ∀ field, variant.RepeatsField field →
      RepeatsPart ⟨name, .enum variants tag⟩ (variant.payloadName name) field :=
    fun field hfield => .inr ⟨variant, hvariant, rfl, hfield⟩
  obtain ⟨own, payload⟩ := variant
  cases payload with
  | unit => exact .pure ⟨rfl, rfl⟩
  | named fields =>
    simp only [Variant.resolve, ← bind_assoc]
    have hfields := List.forall_mem_map.mp htypes
    exact (reports_struct hd h hfields hrepeats).map fun layout hlike => ⟨hlike, rfl⟩
  | unnamed members =>
    simp only [Variant.resolve, pure_bind]
    exact (reports_members hd h htypes).map fun layouts _ => ⟨rfl, rfl⟩

theorem reports_enum {name : String} {variants : List Variant} {tag : TagWidth}
    (hd : ⟨name, .enum variants tag⟩ ∈ ds)
    (h : ReportsReferred ds ⟨name, .enum variants tag⟩ step) :
    Reports
      (do checked (Layout.checkedEnum name
        (← variants.mapM (·.resolve (fun name => (find? ds name).map step) name)) tag))
      (Tells ds) (fun _ => True) := by
  have hvariants := Reports.mapM fun variant (hvariant : variant ∈ variants) =>
    reports_variant hd h hvariant
  apply hvariants.bind
  intro parts hparts
  obtain ⟨hlike, hnames⟩ := (List.forall₂_and_left _ _).mp hparts
  have hnames : parts.map (·.1) = variants.map (·.name) := map_eq_map_of_forall₂ hnames
  apply Reports.checked
  · intro e herror
    obtain ⟨variant, rfl, hdup⟩ := Layout.duplicate_of_checkedEnum hlike herror
    rw [hnames] at hdup
    exact ⟨_, hd, .inl ⟨rfl, hdup⟩⟩
  · exact fun _ _ => trivial

theorem reports_declaration (hd : d ∈ ds) (h : ReportsReferred ds d step) :
    Reports (d.resolve (fun name => (find? ds name).map step)) (Tells ds) (fun _ => True) := by
  obtain ⟨name, body⟩ := d
  cases body with
  | struct fields =>
    have htypes : ∀ field ∈ keptFields fields, field.type ∈ types ⟨name, .struct fields⟩ :=
      fun field hfield => List.mem_map_of_mem hfield
    have hstruct := reports_struct hd h htypes fun field hdup => ⟨rfl, hdup⟩
    exact hstruct.imp fun _ _ => trivial
  | tuple members => exact (reports_members hd h fun _ hmember => hmember).map fun _ _ => trivial
  | enum variants tag => exact reports_enum hd h
  | «alias» target => exact reports_type_of_mem hd h (List.mem_singleton_self target)

end Resolution

/-- The way around from a name that waits back to it. -/
theorem circle_cycle {ds : List Declaration} {waiting : List String} {name : String}
    (halong : (name :: waiting).IsChain (fun later earlier => Mentions ds earlier later))
    (hnodup : waiting.Nodup) (hmem : name ∈ waiting) : Circle ds (cycle waiting name) := by
  obtain ⟨inner, outer, rfl, hinner⟩ := List.eq_append_cons_of_mem hmem
  have hall : ∀ other ∈ inner, other != name := by
    intro other hother
    exact bne_iff_ne.mpr fun he => hinner (he ▸ hother)
  have hcycle : cycle (inner ++ name :: outer) name = (name :: (inner ++ [name])).reverse := by
    simp [cycle, List.takeWhile_append_of_pos hall]
  have hsplit : inner ++ name :: outer = inner ++ [name] ++ outer := by simp
  rw [hcycle]
  rw [hsplit] at halong hnodup
  refine ⟨by simp, by simp [List.getLast?_cons], ?_, ?_⟩
  · rw [List.dropLast_reverse, List.nodup_reverse]
    exact hnodup.of_append_left
  · rw [List.isChain_reverse]
    rw [← List.cons_append] at halong
    exact halong.left_of_append

/-- `Entered`, and each of those that wait refers to the next one. -/
structure Queued (ds : List Declaration) (levels : Nat) (waiting : List String)
    (d : Declaration) : Prop extends Entered ds levels waiting d where
  along : (d.name :: waiting).IsChain (fun later earlier => Mentions ds earlier later)

theorem Queued.next {ds : List Declaration} {levels : Nat} {waiting : List String}
    {d e : Declaration} (h : Queued ds (levels + 1) waiting d) (hd : d ∈ ds)
    (hfresh : d.name ∉ waiting) (he : RefersTo ds d e) :
    Queued ds levels (d.name :: waiting) e :=
  ⟨h.toEntered.next hd hfresh he, .cons_cons ⟨d, hd, rfl, he.2⟩ h.along⟩

theorem Queued.circle {ds : List Declaration} {levels : Nat} {waiting : List String}
    {d : Declaration} (h : Queued ds levels waiting d) (hmem : d.name ∈ waiting) :
    Circle ds (cycle waiting d.name) :=
  circle_cycle h.along h.nodup hmem

/-- A declaration is refused as part of a circle, or for what is found while it is resolved. -/
theorem resolveWithin_eq_error {ds : List Declaration} {levels : Nat} {waiting : List String}
    {d : Declaration} {s : Finished} {e : SchemaError}
    (h : resolveWithin ds levels waiting d s = .error e) :
    (d.name ∈ waiting ∨ levels = 0) ∧ e = .cyclicReference (cycle waiting d.name) ∨
      ∃ rest, levels = rest + 1 ∧ d.name ∉ waiting ∧
        d.resolve (fun name => (find? ds name).map (resolveWithin ds rest (d.name :: waiting))) s =
          .error e := by
  cases hlookup : s.lookup d.name with
  | some layout =>
    rw [resolveWithin_found hlookup] at h
    cases h
  | none =>
    by_cases hcircle : d.name ∈ waiting ∨ levels = 0
    · rw [resolveWithin_circle hlookup hcircle] at h
      cases h
      exact .inl ⟨hcircle, rfl⟩
    · obtain ⟨hfresh, hlevels⟩ := not_or.mp hcircle
      obtain ⟨rest, rfl⟩ := Nat.exists_eq_succ_of_ne_zero hlevels
      rw [resolveWithin_fresh hlookup hfresh, bind_eq_error_iff] at h
      rcases h with herror | ⟨result, -, hok⟩
      · exact .inr ⟨rest, rfl, hfresh, herror⟩
      · cases hok

/-- By induction on the levels. Where none are left all declarations wait, so that the one that is
reached closes a circle. -/
theorem reports_resolveWithin {ds : List Declaration} {levels : Nat} {waiting : List String}
    {d : Declaration} (hd : d ∈ ds) (h : Queued ds levels waiting d) :
    Reports (resolveWithin ds levels waiting d) (Tells ds) (fun _ => True) := by
  induction levels generalizing waiting d with
  | zero =>
    refine ⟨?_, fun _ _ _ _ => trivial⟩
    intro s e herror
    rcases resolveWithin_eq_error herror with ⟨-, rfl⟩ | ⟨rest, hlevels, -⟩
    · by_cases hmem : d.name ∈ waiting
      · exact h.circle hmem
      · exact absurd (h.levels_pos hd hmem) (Nat.lt_irrefl 0)
    · cases hlevels
  | succ levels ih =>
    refine ⟨?_, fun _ _ _ _ => trivial⟩
    intro s e herror
    rcases resolveWithin_eq_error herror with ⟨hcircle, rfl⟩ | ⟨rest, hlevels, hfresh, herror⟩
    · exact h.circle (hcircle.resolve_right (Nat.succ_ne_zero levels))
    · cases hlevels
      have hreferred : ReportsReferred ds d (resolveWithin ds levels (d.name :: waiting)) :=
        fun e he => ih he.1 (h.next hd hfresh he)
      exact (reports_declaration hd hreferred).fault s e herror

end Declaration

namespace Table
open Declaration

theorem emit_of_firstRepeat? {ds : List Declaration} {name : String}
    (h : firstRepeat? [] (ds.map (·.name)) = some name) :
    emit ds = .error (.duplicateType name) := by
  unfold emit
  rw [h]
  rfl

theorem emit_eq_error {ds : List Declaration} {e : SchemaError} (h : emit ds = .error e) :
    (∃ name, firstRepeat? [] (ds.map (·.name)) = some name ∧ e = .duplicateType name) ∨
      ds.mapM (resolveWithin ds ds.length []) [] = .error e := by
  cases hfirst : firstRepeat? [] (ds.map (·.name)) with
  | some name =>
    rw [emit_of_firstRepeat? hfirst] at h
    cases h
    exact .inl ⟨name, rfl, rfl⟩
  | none =>
    unfold emit at h
    rw [hfirst] at h
    simpa [StateT.run, bind_eq_error_iff, pure_eq_ok] using h

/-- Names that repeat are reported before all else, and whatever is reported is so. -/
theorem emit_error_tells (ds : List Declaration) :
    ((∃ name, emit ds = .error (.duplicateType name)) ↔ ¬(ds.map (·.name)).Nodup) ∧
      ∀ e, emit ds = .error e → Tells ds e := by
  have htells : ∀ e, emit ds = .error e → Tells ds e := by
    intro e herror
    rcases emit_eq_error herror with ⟨name, hrepeat, rfl⟩ | herror
    · exact duplicate_of_firstRepeat?_nil hrepeat
    · have hqueued : ∀ d ∈ ds, Queued ds ds.length [] d :=
        fun d _ => ⟨⟨.nil, List.forall_mem_nil _, Nat.le_add_right _ _⟩, .singleton _⟩
      have hall := Reports.mapM fun d hd => reports_resolveWithin hd (hqueued d hd)
      exact hall.fault [] e herror
  refine ⟨⟨?_, ?_⟩, htells⟩
  · rintro ⟨name, herror⟩
    exact (htells _ herror).not_nodup
  · intro hrepeats
    cases hfirst : firstRepeat? [] (ds.map (·.name)) with
    | some name => exact ⟨name, emit_of_firstRepeat? hfirst⟩
    | none => exact absurd (firstRepeat?_eq_none_iff.mp hfirst).1 hrepeats

end Table
end WireSchema
