import Mathlib.Logic.Relation
import WireSchema.Proofs.Outcome
import WireSchema.Proofs.Substitution
import WireSchema.Table.Emit

/-!
The memo of an emission. Main statement: resolving a declaration only adds to the memo, whatever
declarations it finishes on the way, and yields the layout of the declaration with the memo put for
the names of declared types.
-/

namespace WireSchema

/-- Every name that has to be a primitive is one, and every reference is to a known name. -/
def TypeExpr.Sound (Known : String → Prop) (type : TypeExpr) : Prop :=
  (∀ name ∈ type.primitives, Primitive.isName name) ∧ ∀ name ∈ type.references, Known name

namespace TypeExpr
variable {Known : String → Prop} {name : String} {key value : TypeExpr}

@[simp] theorem sound_primitive : (primitive name).Sound Known ↔ Primitive.isName name := by
  simp [Sound, primitives, references]

@[simp] theorem sound_named : (named name).Sound Known ↔ Known name := by
  simp [Sound, primitives, references]

@[simp] theorem sound_map :
    (map key value).Sound Known ↔ key.Sound Known ∧ value.Sound Known := by
  simp only [Sound, primitives, references, List.forall_mem_append, and_and_and_comm]

@[simp] theorem sound_boundedMap {bound : UInt64} :
    (boundedMap key value bound).Sound Known ↔ key.Sound Known ∧ value.Sound Known :=
  sound_map

@[simp] theorem sound_bytes {width : UInt64} : (bytes width).Sound Known := by
  simp [Sound, primitives, references]

@[simp] theorem sound_boundedString {bound : UInt64} : (boundedString bound).Sound Known := by
  simp [Sound, primitives, references]

end TypeExpr

namespace Declaration

def Sound (Known : String → Prop) (d : Declaration) : Prop :=
  (∀ type ∈ d.types, type.Sound Known) ∧ d.DistinctParts

/-- The names that can be resolved with nothing but the memo. -/
def Known (ds : List Declaration) (finished : Finished) (name : String) : Prop :=
  (finished.lookup name).isSome ∨ find? ds name = none ∧ Primitive.isName name

/-- Each declaration is finished once and after all that it refers to. -/
def Settled (ds : List Declaration) : Finished → Prop
  | [] => True
  | (name, layout) :: rest =>
    rest.lookup name = none ∧
      (∃ d, find? ds name = some d ∧ d.Sound (Known ds rest) ∧
        layout = d.layout (rest.lookup ·)) ∧
      Settled ds rest

def Extends (s t : Finished) : Prop :=
  ∀ name layout, s.lookup name = some layout → t.lookup name = some layout

/-- A memo grown out of another. What waits to be finished stays unfinished. -/
structure Grows (ds : List Declaration) (waiting : List String) (s t : Finished) : Prop where
  settled : Settled ds t
  extend : Extends s t
  waits : ∀ name ∈ waiting, s.lookup name = none → t.lookup name = none

theorem Grows.refl {ds : List Declaration} {waiting : List String} {s : Finished}
    (h : Settled ds s) : Grows ds waiting s s :=
  ⟨h, fun _ _ hs => hs, fun _ _ hs => hs⟩

theorem Grows.trans {ds : List Declaration} {waiting : List String} {s t u : Finished}
    (h : Grows ds waiting s t) (h' : Grows ds waiting t u) : Grows ds waiting s u :=
  ⟨h'.settled, fun name layout hs => h'.extend name layout (h.extend name layout hs),
    fun name hw hs => h'.waits name hw (h.waits name hw hs)⟩

/-- What a step of an emission comes to. It succeeds where `Runs` holds. Where it succeeds, it has
`Learned` something and yields `value`, both said of whatever memo the emission ends with. -/
structure Settles {α : Type} (ds : List Declaration) (waiting : List String) (step : Emission α)
    (Runs : Prop) (Learned : Finished → Prop) (value : Finished → α) : Prop where
  runs : Runs → ∀ s, Settled ds s → ∃ result, step s = .ok result
  keeps : ∀ s a s', Settled ds s → step s = .ok (a, s') → Grows ds waiting s s' ∧
    ∀ t, Settled ds t → Extends s' t → Learned t ∧ a = value t

section Steps
variable {α β : Type} {ds : List Declaration} {waiting : List String}

theorem Settles.imp {step : Emission α} {Runs Runs' : Prop} {Learned Learned' : Finished → Prop}
    {value value' : Finished → α} (h : Settles ds waiting step Runs Learned value)
    (hruns : Runs' → Runs)
    (hlearned : ∀ t, Settled ds t → Learned t → Learned' t ∧ value t = value' t) :
    Settles ds waiting step Runs' Learned' value' := by
  refine ⟨fun hr => h.runs (hruns hr), ?_⟩
  intro s a s' hs hstep
  obtain ⟨hgrows, hend⟩ := h.keeps s a s' hs hstep
  refine ⟨hgrows, ?_⟩
  intro t ht hext
  obtain ⟨hl, hv⟩ := hend t ht hext
  obtain ⟨hl', hv'⟩ := hlearned t ht hl
  exact ⟨hl', hv.trans hv'⟩

theorem Settles.pure (a : α) :
    Settles ds waiting (pure a) True (fun _ => True) (fun _ => a) := by
  refine ⟨fun _ s _ => ⟨(a, s), rfl⟩, ?_⟩
  intro s b s' hs hstep
  cases hstep
  exact ⟨.refl hs, fun _ _ _ => ⟨trivial, rfl⟩⟩

theorem Settles.throw {error : SchemaError} {Runs : Prop} {Learned : Finished → Prop}
    {value : Finished → α} (h : ¬Runs) : Settles ds waiting (throw error) Runs Learned value := by
  refine ⟨fun hruns => absurd hruns h, ?_⟩
  intro s a s' hs hstep
  cases hstep

theorem Settles.bind {step : Emission α} {next : α → Emission β} {Runs : Prop}
    {Runs' : α → Prop} {Learned : Finished → Prop} {Learned' : α → Finished → Prop}
    {value : Finished → α} {value' : α → Finished → β}
    (h : Settles ds waiting step Runs Learned value)
    (h' : ∀ a, Settles ds waiting (next a) (Runs' a) (Learned' a) (value' a)) :
    Settles ds waiting (step >>= next) (Runs ∧ ∀ t, Runs' (value t))
      (fun t => Learned t ∧ Learned' (value t) t) (fun t => value' (value t) t) := by
  have hbind : ∀ s, (step >>= next) s = (step s >>= fun result => next result.1 result.2) :=
    fun _ => rfl
  constructor
  · intro hboth s hs
    obtain ⟨hruns, hruns'⟩ := hboth
    obtain ⟨⟨a, s₁⟩, hstep⟩ := h.runs hruns s hs
    obtain ⟨hgrows, hend⟩ := h.keeps s a s₁ hs hstep
    have ha : a = value s₁ := (hend s₁ hgrows.settled fun _ _ hl => hl).2
    obtain ⟨result, hnext⟩ := (h' a).runs (ha ▸ hruns' s₁) s₁ hgrows.settled
    exact ⟨result, by rw [hbind, hstep, ok_bind]; exact hnext⟩
  · intro s b s₂ hs hok
    rw [hbind, bind_eq_ok_iff] at hok
    obtain ⟨⟨a, s₁⟩, hstep, hnext⟩ := hok
    obtain ⟨hgrows, hend⟩ := h.keeps s a s₁ hs hstep
    obtain ⟨hgrows', hend'⟩ := (h' a).keeps s₁ b s₂ hgrows.settled hnext
    refine ⟨hgrows.trans hgrows', ?_⟩
    intro t ht hext
    obtain ⟨hl, rfl⟩ := hend t ht fun name layout hs₁ =>
      hext name layout (hgrows'.extend name layout hs₁)
    obtain ⟨hl', hv⟩ := hend' t ht hext
    exact ⟨⟨hl, hl'⟩, hv⟩

theorem Settles.map {step : Emission α} {f : α → β} {Runs : Prop} {Learned : Finished → Prop}
    {value : Finished → α} (h : Settles ds waiting step Runs Learned value) :
    Settles ds waiting (step >>= fun a => Pure.pure (f a)) Runs Learned
      (fun t => f (value t)) :=
  (h.bind fun a => .pure (f a)).imp (fun hr => ⟨hr, fun _ => trivial⟩) fun _ _ hl => ⟨hl.1, rfl⟩

/-- Two steps of which neither looks at what the other yields. -/
theorem Settles.both {γ : Type} {step : Emission α} {other : Emission β} {Runs Runs' : Prop}
    {Learned Learned' : Finished → Prop} {value : Finished → α} {value' : Finished → β}
    (h : Settles ds waiting step Runs Learned value)
    (h' : Settles ds waiting other Runs' Learned' value') {f : α → β → γ} :
    Settles ds waiting (step >>= fun a => other >>= fun b => Pure.pure (f a b)) (Runs ∧ Runs')
      (fun t => Learned t ∧ Learned' t) (fun t => f (value t) (value' t)) := by
  refine (h.bind fun _ => h'.map).imp ?_ fun _ _ hlearned => ⟨hlearned, rfl⟩
  intro hboth
  obtain ⟨hr, hr'⟩ := hboth
  exact ⟨hr, fun _ => hr'⟩

theorem Settles.mapM {step : α → Emission β} {Runs : α → Prop} {Learned : α → Finished → Prop}
    {value : α → Finished → β} {items : List α}
    (h : ∀ a ∈ items, Settles ds waiting (step a) (Runs a) (Learned a) (value a)) :
    Settles ds waiting (items.mapM step) (∀ a ∈ items, Runs a)
      (fun t => ∀ a ∈ items, Learned a t) (fun t => items.map fun a => value a t) := by
  induction items with
  | nil =>
    rw [List.mapM_nil]
    exact (Settles.pure []).imp (fun _ => trivial) fun t _ _ => ⟨by simp, rfl⟩
  | cons a items ih =>
    obtain ⟨ha, hitems⟩ := List.forall_mem_cons.mp h
    rw [List.mapM_cons]
    exact (ha.both (ih hitems)).imp List.forall_mem_cons.mp
      fun t _ hlearned => ⟨List.forall_mem_cons.mpr hlearned, rfl⟩

end Steps

theorem Settled.lookup_undeclared {ds : List Declaration} {s : Finished} {name : String}
    (h : Settled ds s) (hname : find? ds name = none) : s.lookup name = none := by
  induction s with
  | nil => rfl
  | cons entry rest ih =>
    obtain ⟨finished, layout⟩ := entry
    obtain ⟨-, ⟨d, hd, -⟩, hrest⟩ := h
    have hne : name ≠ finished := by
      intro he
      rw [he, hd] at hname
      cases hname
    rw [List.lookup_cons, beq_false_of_ne hne]
    exact ih hrest

section Resolution
variable {ds : List Declaration} {waiting : List String} {step : Declaration → Emission Layout}
  {Runs : Declaration → Prop}

/-- A reference that can be resolved without any memo. -/
def Resolvable (ds : List Declaration) (Runs : Declaration → Prop) (name : String) : Prop :=
  match find? ds name with
  | some d => Runs d
  | none => Primitive.isName name

/-- Resolving a declared name finishes the declaration, so that it is found in the memo. -/
def Finishes (ds : List Declaration) (waiting : List String)
    (step : Declaration → Emission Layout) (Runs : Declaration → Prop) : Prop :=
  ∀ d, find? ds d.name = some d →
    Settles ds waiting (step d) (Runs d) (fun t => (t.lookup d.name).isSome)
      (fun t => (t.lookup d.name).getD (.ofWord d.name))

theorem find?_name {name : String} {d : Declaration} (h : find? ds name = some d) :
    d.name = name := by
  simpa using List.find?_some h

theorem settles_type (h : Finishes ds waiting step Runs) (owner : String) (type : TypeExpr) :
    Settles ds waiting (type.resolve (fun name => (find? ds name).map step) owner)
      (type.Sound (Resolvable ds Runs)) (fun t => type.Sound (Known ds t))
      (fun t => type.layout (t.lookup ·)) := by
  induction type with
  | primitive name =>
    cases hkind : Primitive.ofText? name with
    | none =>
      simp only [TypeExpr.resolve, hkind]
      exact .throw (by simp [Primitive.isName, hkind])
    | some kind =>
      simp only [TypeExpr.resolve, hkind]
      refine (Settles.pure _).imp (fun _ => trivial) fun t _ _ => ⟨?_, ?_⟩
      · simp [Primitive.isName, hkind]
      · simp [TypeExpr.layout, Layout.ofWord, hkind]
  | named name =>
    cases hfind : find? ds name with
    | some d =>
      obtain rfl := find?_name hfind
      simp only [TypeExpr.resolve, hfind, Option.map_some]
      refine (h d hfind).imp ?_ fun t _ hl => ⟨?_, rfl⟩
      · simp [Resolvable, hfind]
      · exact TypeExpr.sound_named.mpr (.inl hl)
    | none =>
      cases hkind : Primitive.ofText? name with
      | none =>
        simp only [TypeExpr.resolve, hfind, Option.map_none, hkind]
        exact .throw (by simp [Resolvable, hfind, Primitive.isName, hkind])
      | some kind =>
        simp only [TypeExpr.resolve, hfind, Option.map_none, hkind]
        refine (Settles.pure _).imp (fun _ => trivial) fun t ht _ => ⟨?_, ?_⟩
        · simp [Known, hfind, Primitive.isName, hkind]
        · simp [TypeExpr.layout, Layout.ofWord, hkind, ht.lookup_undeclared hfind]
  | sequence element ih => exact ih.map
  | boundedSequence element bound ih => exact ih.map
  | option inner ih => exact ih.map
  | map key value ihk ihv =>
    exact (ihk.both ihv).imp TypeExpr.sound_map.mp
      fun t _ hl => ⟨TypeExpr.sound_map.mpr hl, rfl⟩
  | boundedMap key value bound ihk ihv =>
    exact (ihk.both ihv).imp TypeExpr.sound_boundedMap.mp
      fun t _ hl => ⟨TypeExpr.sound_boundedMap.mpr hl, rfl⟩
  | array element length ih => exact ih.map
  | bytes width => exact (Settles.pure _).imp (fun _ => trivial) fun t _ _ => ⟨by simp, rfl⟩
  | boundedString bound =>
    exact (Settles.pure _).imp (fun _ => trivial) fun t _ _ => ⟨by simp, rfl⟩

theorem settles_fields (h : Finishes ds waiting step Runs) (owner : String) (fields : List Field) :
    Settles ds waiting (resolveFields (fun name => (find? ds name).map step) owner fields)
      (∀ field ∈ keptFields fields, field.type.Sound (Resolvable ds Runs))
      (fun t => ∀ field ∈ keptFields fields, field.type.Sound (Known ds t))
      (fun t => layoutFields (t.lookup ·) fields) :=
  .mapM fun field _ => (settles_type h owner field.type).map

theorem settles_members (h : Finishes ds waiting step Runs) (owner : String)
    (members : List TypeExpr) :
    Settles ds waiting (resolveMembers (fun name => (find? ds name).map step) owner members)
      (∀ member ∈ members, member.Sound (Resolvable ds Runs))
      (fun t => ∀ member ∈ members, member.Sound (Known ds t))
      (fun t => layoutMembers (t.lookup ·) members) :=
  .mapM fun member _ => settles_type h owner member

theorem Settles.checked {result : Except SchemaError Layout} {Passes : Prop} {layout : Layout}
    (h : ∀ l, result = .ok l ↔ Passes ∧ l = layout) :
    Settles ds waiting (checked result) Passes (fun _ => Passes) (fun _ => layout) := by
  cases result with
  | error error => exact .throw fun hp => by cases (h layout).mpr ⟨hp, rfl⟩
  | ok l =>
    obtain ⟨hp, rfl⟩ := (h l).mp rfl
    exact (Settles.pure l).imp (fun _ => trivial) fun _ _ _ => ⟨hp, rfl⟩

theorem map_layoutFields (refer : String → Option Layout) (fields : List Field) :
    (layoutFields refer fields).map (·.1) = (keptFields fields).map (·.name) := by
  simp [layoutFields]

/-- A struct, or the payload of a variant with named fields. -/
theorem settles_struct (h : Finishes ds waiting step Runs) (owner name : String)
    (fields : List Field) :
    Settles ds waiting
      (do checked (Layout.checkedStruct name
        (← resolveFields (fun name => (find? ds name).map step) owner fields)))
      ((∀ field ∈ keptFields fields, field.type.Sound (Resolvable ds Runs)) ∧
        ((keptFields fields).map (·.name)).Nodup)
      (fun t => (∀ field ∈ keptFields fields, field.type.Sound (Known ds t)) ∧
        ((keptFields fields).map (·.name)).Nodup)
      (fun t => .struct name (layoutFields (t.lookup ·) fields)) := by
  refine ((settles_fields h owner fields).bind fun layouts =>
    .checked fun l => Layout.checkedStruct_eq_ok_iff).imp ?_ ?_
  · intro hall
    obtain ⟨hsound, hnodup⟩ := hall
    exact ⟨hsound, fun t => by rwa [map_layoutFields]⟩
  · intro t _ hlearned
    obtain ⟨hsound, hnodup⟩ := hlearned
    exact ⟨⟨hsound, by rwa [map_layoutFields] at hnodup⟩, rfl⟩

def Variant.Sound (Known : String → Prop) (variant : Variant) : Prop :=
  (∀ type ∈ variant.types, type.Sound Known) ∧ variant.DistinctFields

theorem settles_variant (h : Finishes ds waiting step Runs) (owner : String) (variant : Variant) :
    Settles ds waiting (variant.resolve (fun name => (find? ds name).map step) owner)
      (variant.Sound (Resolvable ds Runs)) (fun t => variant.Sound (Known ds t))
      (fun t => variant.layout (t.lookup ·) owner) := by
  obtain ⟨name, payload⟩ := variant
  cases payload with
  | unit =>
    simp only [Variant.resolve, pure_bind]
    refine (Settles.pure _).imp (fun _ => trivial) fun t _ _ => ⟨⟨?_, trivial⟩, rfl⟩
    simp [Variant.types]
  | named fields =>
    simp only [Variant.resolve, ← bind_assoc]
    refine (settles_struct h owner _ fields).map.imp ?_ ?_
    · intro hall
      obtain ⟨hsound, hnodup⟩ := hall
      exact ⟨List.forall_mem_map.mp hsound, hnodup⟩
    · intro t _ hlearned
      obtain ⟨hsound, hnodup⟩ := hlearned
      exact ⟨⟨List.forall_mem_map.mpr hsound, hnodup⟩, rfl⟩
  | unnamed members =>
    simp only [Variant.resolve, pure_bind]
    refine (settles_members h owner members).map.imp ?_ ?_
    · exact fun hsound => hsound.1
    · exact fun t _ hsound => ⟨⟨hsound, trivial⟩, rfl⟩

theorem isStructLike_layout (refer : String → Option Layout) (owner : String) (variant : Variant) :
    (variant.layout refer owner).2.isStructLike := by
  obtain ⟨name, payload⟩ := variant
  cases payload <;> rfl

theorem settles_enum (h : Finishes ds waiting step Runs) (name : String)
    (variants : List Variant) (tag : TagWidth) :
    Settles ds waiting
      (do checked (Layout.checkedEnum name
        (← variants.mapM (·.resolve (fun name => (find? ds name).map step) name)) tag))
      ((∀ variant ∈ variants, variant.Sound (Resolvable ds Runs)) ∧
        (variants.map (·.name)).Nodup)
      (fun t => (∀ variant ∈ variants, variant.Sound (Known ds t)) ∧
        (variants.map (·.name)).Nodup)
      (fun t => .enum name (variants.map (·.layout (t.lookup ·) name)) tag) := by
  have hnames : ∀ refer, (variants.map (·.layout refer name)).map (·.1) =
      variants.map (·.name) := by
    intro refer
    simp [Variant.layout]
  have hvariants := Settles.mapM fun variant (_ : variant ∈ variants) =>
    settles_variant h name variant
  refine (hvariants.bind fun layouts => .checked fun l => Layout.checkedEnum_eq_ok_iff).imp ?_ ?_
  · intro hall
    obtain ⟨hsound, hnodup⟩ := hall
    refine ⟨hsound, fun t => ⟨by rwa [hnames], ?_⟩⟩
    exact List.forall_mem_map.mpr fun variant _ => isStructLike_layout _ _ variant
  · intro t _ hlearned
    obtain ⟨hsound, hnodup, -⟩ := hlearned
    exact ⟨⟨hsound, by rwa [hnames] at hnodup⟩, rfl⟩

theorem settles_declaration (h : Finishes ds waiting step Runs) (d : Declaration) :
    Settles ds waiting (d.resolve (fun name => (find? ds name).map step))
      (d.Sound (Resolvable ds Runs)) (fun t => d.Sound (Known ds t))
      (fun t => d.layout (t.lookup ·)) := by
  obtain ⟨name, body⟩ := d
  cases body with
  | struct fields =>
    refine (settles_struct h name name fields).imp ?_ ?_
    · intro hall
      obtain ⟨hsound, hnodup⟩ := hall
      exact ⟨List.forall_mem_map.mp hsound, hnodup⟩
    · intro t _ hlearned
      obtain ⟨hsound, hnodup⟩ := hlearned
      exact ⟨⟨List.forall_mem_map.mpr hsound, hnodup⟩, rfl⟩
  | tuple members =>
    refine (settles_members h name members).map.imp ?_ ?_
    · exact fun hsound => hsound.1
    · exact fun t _ hsound => ⟨⟨hsound, trivial⟩, rfl⟩
  | enum variants tag =>
    refine (settles_enum h name variants tag).imp ?_ ?_
    · intro hall
      obtain ⟨hsound, hnodup, hdistinct⟩ := hall
      exact ⟨fun variant hv => ⟨fun type ht => hsound type (mem_types_of_variant hv ht),
        hdistinct variant hv⟩, hnodup⟩
    · intro t _ hlearned
      obtain ⟨hsound, hnodup⟩ := hlearned
      refine ⟨⟨?_, hnodup, fun variant hv => (hsound variant hv).2⟩, rfl⟩
      intro type htype
      obtain ⟨variant, hv, ht⟩ := List.mem_flatMap.mp htype
      exact (hsound variant hv).1 type ht
  | «alias» target =>
    refine (settles_type h name target).imp ?_ ?_
    · exact fun hsound => hsound.1 target (List.mem_singleton_self target)
    · intro t _ hsound
      exact ⟨⟨by simpa [types] using hsound, trivial⟩, rfl⟩

end Resolution
end Declaration
end WireSchema
