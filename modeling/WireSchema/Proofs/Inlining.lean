import WireSchema.Proofs.Sharing

/-!
Aliases and what they stand for. Main statement: an alias whose target is put for it everywhere can
be left out, and the same table is emitted.
-/

namespace WireSchema

namespace TypeExpr

/-- `target` in the place of every reference to `name`. -/
def substitute (type : TypeExpr) (name : String) (target : TypeExpr) : TypeExpr :=
  match type with
  | named other => if other = name then target else named other
  | sequence element => sequence (element.substitute name target)
  | boundedSequence element bound => boundedSequence (element.substitute name target) bound
  | option inner => option (inner.substitute name target)
  | map key value => map (key.substitute name target) (value.substitute name target)
  | boundedMap key value bound =>
    boundedMap (key.substitute name target) (value.substitute name target) bound
  | array element length => array (element.substitute name target) length
  | primitive other => primitive other
  | bytes width => bytes width
  | boundedString bound => boundedString bound

section Substitute
variable {name other : String} {target type : TypeExpr}

/-- A substitution may as well be made in what is put for the names. -/
theorem layout_substitute (refer : String → Option Layout) :
    (type.substitute name target).layout refer =
      type.layout (Function.update refer name (some (target.layout refer))) := by
  induction type with
  | named other =>
    by_cases h : other = name
    · rw [substitute, if_pos h, layout, h, Function.update_self, Option.getD_some]
    · rw [substitute, if_neg h, layout, layout, Function.update_of_ne h]
  | sequence element ih => rw [substitute, layout, layout, ih]
  | boundedSequence element bound ih => rw [substitute, layout, layout, ih]
  | option inner ih => rw [substitute, layout, layout, ih]
  | map key value ihk ihv => rw [substitute, layout, layout, ihk, ihv]
  | boundedMap key value bound ihk ihv => rw [substitute, layout, layout, ihk, ihv]
  | array element length ih => rw [substitute, layout, layout, ih]
  | primitive | bytes | boundedString => rfl

theorem references_substitute (h : other ∈ (type.substitute name target).references) :
    other ∈ type.references ∧ other ≠ name ∨
      name ∈ type.references ∧ other ∈ target.references := by
  induction type with
  | named found =>
    by_cases hname : found = name
    · subst hname
      rw [substitute, if_pos rfl] at h
      exact .inr ⟨List.mem_singleton_self found, h⟩
    · rw [substitute, if_neg hname] at h
      obtain rfl := List.mem_singleton.mp h
      exact .inl ⟨h, hname⟩
  | sequence element ih | boundedSequence element bound ih | option inner ih
  | array element length ih => exact ih h
  | map key value ihk ihv | boundedMap key value bound ihk ihv =>
    simp only [references, List.mem_append]
    rcases List.mem_append.mp h with h | h
    · have := ihk h
      tauto
    · have := ihv h
      tauto
  | primitive | bytes | boundedString => cases h

theorem primitives_substitute (h : other ∈ (type.substitute name target).primitives) :
    other ∈ type.primitives ∨ other ∈ target.primitives := by
  induction type with
  | named found =>
    by_cases hname : found = name
    · rw [substitute, if_pos hname] at h
      exact .inr h
    · rw [substitute, if_neg hname] at h
      cases h
  | sequence element ih | boundedSequence element bound ih | option inner ih
  | array element length ih => exact ih h
  | map key value ihk ihv | boundedMap key value bound ihk ihv =>
    rw [primitives, List.mem_append]
    rcases List.mem_append.mp h with h | h
    · exact (ihk h).imp_left .inl
    · exact (ihv h).imp_left .inr
  | primitive found => exact .inl h
  | bytes | boundedString => cases h

end Substitute
end TypeExpr

namespace Declaration

section MapTypes
variable (f : TypeExpr → TypeExpr)

def Field.mapType (field : Field) : Field :=
  { field with type := f field.type }

def Payload.mapTypes : Payload → Payload
  | .unit => .unit
  | .named fields => .named (fields.map (·.mapType f))
  | .unnamed members => .unnamed (members.map f)

def Variant.mapTypes (variant : Variant) : Variant :=
  { variant with payload := variant.payload.mapTypes f }

def Body.mapTypes : Body → Body
  | .struct fields => .struct (fields.map (·.mapType f))
  | .tuple members => .tuple (members.map f)
  | .enum variants tag => .enum (variants.map (·.mapTypes f)) tag
  | .alias target => .alias (f target)

/-- The declaration with each of its types changed, those of skipped fields among them. -/
def mapTypes (d : Declaration) : Declaration :=
  { d with body := d.body.mapTypes f }

variable {f}

@[simp] theorem Field.name_mapType (field : Field) : (field.mapType f).name = field.name :=
  rfl

@[simp] theorem Field.type_mapType (field : Field) : (field.mapType f).type = f field.type :=
  rfl

@[simp] theorem Variant.name_mapTypes (variant : Variant) :
    (variant.mapTypes f).name = variant.name :=
  rfl

@[simp] theorem name_mapTypes (d : Declaration) : (d.mapTypes f).name = d.name :=
  rfl

@[simp] theorem isAlias_mapTypes (d : Declaration) : (d.mapTypes f).isAlias = d.isAlias := by
  obtain ⟨name, body⟩ := d
  cases body <;> rfl

@[simp] theorem keptFields_map (fields : List Field) :
    keptFields (fields.map (·.mapType f)) = (keptFields fields).map (·.mapType f) :=
  List.filter_map

theorem Variant.types_mapTypes (variant : Variant) :
    (variant.mapTypes f).types = variant.types.map f := by
  obtain ⟨name, payload⟩ := variant
  cases payload with
  | unit => rfl
  | named fields => simp [Variant.mapTypes, Payload.mapTypes, Variant.types]
  | unnamed members => rfl

theorem types_mapTypes (d : Declaration) : (d.mapTypes f).types = d.types.map f := by
  obtain ⟨name, body⟩ := d
  cases body with
  | struct fields => simp [mapTypes, Body.mapTypes, types]
  | tuple members => rfl
  | enum variants tag =>
    simp [mapTypes, Body.mapTypes, types, List.flatMap_map, List.map_flatMap,
      Variant.types_mapTypes]
  | «alias» target => rfl

end MapTypes

section Layouts
variable {f : TypeExpr → TypeExpr} {refer refer' : String → Option Layout}

theorem layoutFields_mapType (h : ∀ type, (f type).layout refer = type.layout refer')
    (fields : List Field) :
    layoutFields refer (fields.map (·.mapType f)) = layoutFields refer' fields := by
  simp [layoutFields, h]

theorem layoutMembers_map (h : ∀ type, (f type).layout refer = type.layout refer')
    (members : List TypeExpr) :
    layoutMembers refer (members.map f) = layoutMembers refer' members := by
  simp [layoutMembers, h]

theorem Variant.layout_mapTypes (h : ∀ type, (f type).layout refer = type.layout refer')
    (owner : String) (variant : Variant) :
    (variant.mapTypes f).layout refer owner = variant.layout refer' owner := by
  obtain ⟨name, payload⟩ := variant
  cases payload with
  | unit => rfl
  | named fields =>
    simp only [Variant.layout, Variant.mapTypes, Payload.mapTypes, layoutFields_mapType h,
      Variant.payloadName]
  | unnamed members =>
    simp only [Variant.layout, Variant.mapTypes, Payload.mapTypes, layoutMembers_map h,
      Variant.payloadName]

/-- A layout is kept where those of the types are. -/
theorem layout_mapTypes (h : ∀ type, (f type).layout refer = type.layout refer')
    (d : Declaration) : (d.mapTypes f).layout refer = d.layout refer' := by
  obtain ⟨name, body⟩ := d
  cases body with
  | struct fields => simp only [mapTypes, Body.mapTypes, layout, layoutFields_mapType h]
  | tuple members => simp only [mapTypes, Body.mapTypes, layout, layoutMembers_map h]
  | enum variants tag =>
    simp [mapTypes, Body.mapTypes, layout, Function.comp_def, Variant.layout_mapTypes h]
  | «alias» target => exact h target

end Layouts

theorem Variant.distinctFields_mapTypes {f : TypeExpr → TypeExpr} (variant : Variant) :
    (variant.mapTypes f).DistinctFields ↔ variant.DistinctFields := by
  obtain ⟨name, payload⟩ := variant
  cases payload with
  | named fields =>
    simp [Variant.mapTypes, Payload.mapTypes, Variant.DistinctFields, Function.comp_def]
  | _ => rfl

theorem distinctParts_mapTypes {f : TypeExpr → TypeExpr} (d : Declaration) :
    (d.mapTypes f).DistinctParts ↔ d.DistinctParts := by
  obtain ⟨name, body⟩ := d
  cases body with
  | struct fields => simp [mapTypes, Body.mapTypes, DistinctParts, Function.comp_def]
  | enum variants tag =>
    simp [mapTypes, Body.mapTypes, DistinctParts, Function.comp_def,
      Variant.distinctFields_mapTypes]
  | _ => rfl

/-- The declarations without an alias, with its target in the place of every reference to it. -/
def inlineAlias (ds : List Declaration) (name : String) (target : TypeExpr) : List Declaration :=
  (ds.erase ⟨name, .alias target⟩).map (·.mapTypes (·.substitute name target))

section Lists
variable {ds : List Declaration} {name : String} {target : TypeExpr}

/-- What is left out is the one declaration of that name. -/
theorem mem_erase_alias (hnames : (ds.map (·.name)).Nodup) (h : ⟨name, .alias target⟩ ∈ ds)
    {d : Declaration} : d ∈ ds.erase ⟨name, .alias target⟩ ↔ d ∈ ds ∧ d.name ≠ name := by
  rw [hnames.of_map.mem_erase_iff, and_comm, and_congr_right_iff]
  intro hd
  refine not_congr ⟨fun heq => heq ▸ rfl, fun heq => ?_⟩
  exact List.inj_on_of_nodup_map hnames hd h heq

theorem filter_erase_alias (hnodup : ds.Nodup) :
    (ds.erase ⟨name, .alias target⟩).filter (!·.isAlias) = ds.filter (!·.isAlias) := by
  rw [hnodup.erase_eq_filter, List.filter_filter]
  apply List.filter_congr
  intro d _
  by_cases h : d = ⟨name, .alias target⟩
  · subst h
    rfl
  · simp [h]

theorem names_inlineAlias :
    (inlineAlias ds name target).map (·.name) =
      (ds.erase ⟨name, .alias target⟩).map (·.name) := by
  simp [inlineAlias]

theorem mem_names_inlineAlias (hnames : (ds.map (·.name)).Nodup)
    (h : ⟨name, .alias target⟩ ∈ ds) {other : String} :
    other ∈ (inlineAlias ds name target).map (·.name) ↔ other ∈ ds.map (·.name) ∧ other ≠ name := by
  rw [names_inlineAlias, List.mem_map, List.mem_map]
  constructor
  · rintro ⟨d, hd, rfl⟩
    obtain ⟨hmem, hne⟩ := (mem_erase_alias hnames h).mp hd
    exact ⟨⟨d, hmem, rfl⟩, hne⟩
  · rintro ⟨⟨d, hd, rfl⟩, hne⟩
    exact ⟨d, (mem_erase_alias hnames h).mpr ⟨hd, hne⟩, rfl⟩

theorem find?_inlineAlias (hnames : (ds.map (·.name)).Nodup) (h : ⟨name, .alias target⟩ ∈ ds)
    {other : String} (hne : other ≠ name) :
    find? (inlineAlias ds name target) other =
      (find? ds other).map (·.mapTypes (·.substitute name target)) := by
  have hnames' : ((inlineAlias ds name target).map (·.name)).Nodup := by
    rw [names_inlineAlias]
    exact hnames.sublist (List.erase_sublist.map _)
  cases hfind : find? ds other with
  | none =>
    rw [find?_eq_none_iff] at hfind
    rw [Option.map_none, find?_eq_none_iff, mem_names_inlineAlias hnames h]
    exact fun hmem => hfind hmem.1
  | some d =>
    obtain rfl := find?_name hfind
    have hmem := (mem_erase_alias hnames h).mpr ⟨mem_of_find? hfind, hne⟩
    rw [Option.map_some]
    exact find?_of_mem (d := d.mapTypes (·.substitute name target)) hnames'
      (List.mem_map_of_mem hmem)

/-- A reference after the substitution stood there before, or in the target. -/
theorem references_mapTypes_substitute {d : Declaration} {other : String}
    (h : other ∈ (d.mapTypes (·.substitute name target)).references) :
    other ∈ d.references ∧ other ≠ name ∨ name ∈ d.references ∧ other ∈ target.references := by
  rw [references, types_mapTypes, List.flatMap_map] at h
  obtain ⟨type, htype, hother⟩ := List.mem_flatMap.mp h
  rcases TypeExpr.references_substitute hother with ⟨hmem, hne⟩ | ⟨hname, hmem⟩
  · exact .inl ⟨List.mem_flatMap.mpr ⟨type, htype, hmem⟩, hne⟩
  · exact .inr ⟨List.mem_flatMap.mpr ⟨type, htype, hname⟩, hmem⟩

theorem primitives_mapTypes_substitute {d : Declaration} {other : String}
    (h : other ∈ (d.mapTypes (·.substitute name target)).primitives) :
    other ∈ d.primitives ∨ other ∈ target.primitives := by
  rw [primitives, types_mapTypes, List.flatMap_map] at h
  obtain ⟨type, htype, hother⟩ := List.mem_flatMap.mp h
  exact (TypeExpr.primitives_substitute hother).imp_left
    fun hmem => List.mem_flatMap.mpr ⟨type, htype, hmem⟩

end Lists

section Emittable
variable {ds : List Declaration} {name : String} {target : TypeExpr}

theorem references_alias : references ⟨name, .alias target⟩ = target.references := by
  simp [references, types]

theorem primitives_alias : primitives ⟨name, .alias target⟩ = target.primitives := by
  simp [primitives, types]

/-- No alias refers to itself. -/
theorem Emittable.not_mem_target (hds : Emittable ds) (h : ⟨name, .alias target⟩ ∈ ds) :
    name ∉ target.references := by
  intro hmem
  exact hds.acyclic _ h (.single ⟨h, references_alias ▸ hmem⟩)

/-- A way along references after the substitution leads around the alias or through it before. -/
theorem exists_transGen_of_inlineAlias (hds : Emittable ds) (h : ⟨name, .alias target⟩ ∈ ds)
    {d : Declaration} {y : Declaration}
    (hpath : Relation.TransGen (RefersTo (inlineAlias ds name target))
      (d.mapTypes (·.substitute name target)) y) :
    ∃ e ∈ ds, y = e.mapTypes (·.substitute name target) ∧
      Relation.TransGen (RefersTo ds) d e := by
  have hstep : ∀ d y, RefersTo (inlineAlias ds name target)
      (d.mapTypes (·.substitute name target)) y →
      ∃ e ∈ ds, y = e.mapTypes (·.substitute name target) ∧
        Relation.TransGen (RefersTo ds) d e := by
    intro d y hrefers
    obtain ⟨hy, href⟩ := hrefers
    obtain ⟨e, he, rfl⟩ := List.mem_map.mp hy
    have hmem := ((mem_erase_alias hds.names h).mp he).1
    refine ⟨e, hmem, rfl, ?_⟩
    rcases references_mapTypes_substitute href with ⟨href, -⟩ | ⟨hname, href⟩
    · exact .single ⟨hmem, href⟩
    · refine .tail (.single ⟨h, hname⟩) ⟨hmem, ?_⟩
      rw [references_alias]
      exact href
  induction hpath with
  | single hrefers => exact hstep d _ hrefers
  | tail _ hrefers ih =>
    obtain ⟨e, -, rfl, hpath⟩ := ih
    obtain ⟨e', he', rfl, hpath'⟩ := hstep e _ hrefers
    exact ⟨e', he', rfl, hpath.trans hpath'⟩

theorem Emittable.inlineAlias (hds : Emittable ds) (h : ⟨name, .alias target⟩ ∈ ds) :
    Emittable (inlineAlias ds name target) := by
  have hmem : ∀ d ∈ ds.erase ⟨name, .alias target⟩, d ∈ ds :=
    fun d hd => List.mem_of_mem_erase hd
  constructor
  · rw [names_inlineAlias]
    exact hds.names.sublist (List.erase_sublist.map _)
  · rw [Declaration.inlineAlias, List.forall_mem_map]
    intro d hd other hother
    rcases primitives_mapTypes_substitute hother with hother | hother
    · exact hds.primitives d (hmem d hd) other hother
    · exact hds.primitives _ h other (primitives_alias ▸ hother)
  · rw [Declaration.inlineAlias, List.forall_mem_map]
    intro d hd other hother
    have hboth : (other ∈ ds.map (·.name) ∨ Primitive.isName other) ∧ other ≠ name := by
      rcases references_mapTypes_substitute hother with ⟨href, hne⟩ | ⟨-, href⟩
      · exact ⟨hds.references d (hmem d hd) other href, hne⟩
      · refine ⟨hds.references _ h other (references_alias ▸ href), ?_⟩
        rintro rfl
        exact hds.not_mem_target h href
    rw [← Declaration.inlineAlias, mem_names_inlineAlias hds.names h]
    exact hboth.1.imp_left fun hdeclared => ⟨hdeclared, hboth.2⟩
  · rw [Declaration.inlineAlias, List.forall_mem_map]
    intro d hd hpath
    obtain ⟨e, he, heq, hpath⟩ := exists_transGen_of_inlineAlias hds h hpath
    have hname : d.name = e.name := congrArg (·.name) heq
    obtain rfl := List.inj_on_of_nodup_map hds.names (hmem d hd) he hname
    exact hds.acyclic d he hpath
  · rw [Declaration.inlineAlias, List.forall_mem_map]
    intro d hd
    exact (distinctParts_mapTypes d).mpr (hds.parts d (hmem d hd))

end Emittable

section Solutions
variable {ds : List Declaration} {name : String} {target : TypeExpr}
  {refer refer' : String → Option Layout}

theorem Solves.unique (hgrounded : ∀ d ∈ ds, Acc (fun e d => RefersTo ds d e) d)
    (h : Solves ds refer) (h' : Solves ds refer') : refer = refer' := by
  have hdeclared : ∀ d ∈ ds, d.layout refer = d.layout refer' := by
    intro d hd
    induction hgrounded d hd with
    | intro d _ ih =>
      apply layout_congr
      intro name href
      rw [h name, h' name]
      cases hfind : find? ds name with
      | none => rfl
      | some e =>
        have he := mem_of_find? hfind
        rw [Option.map_some, Option.map_some, ih e ⟨he, find?_name hfind ▸ href⟩ he]
  funext name
  rw [h name, h' name]
  cases hfind : find? ds name with
  | none => rfl
  | some d => rw [Option.map_some, Option.map_some, hdeclared d (mem_of_find? hfind)]

/-- Where the alias is left out, its layout is that of its target. -/
theorem Solves.of_inlineAlias (hds : Emittable ds) (h : ⟨name, .alias target⟩ ∈ ds)
    (hsolves : Solves (inlineAlias ds name target) refer) :
    Solves ds (Function.update refer name (some (target.layout refer))) := by
  intro other
  by_cases hne : other = name
  · subst hne
    have htarget : layout (Function.update refer other (some (target.layout refer)))
        ⟨other, .alias target⟩ = target.layout refer := by
      apply TypeExpr.layout_congr
      intro found hfound
      refine Function.update_of_ne ?_ _ _
      rintro rfl
      exact hds.not_mem_target h hfound
    rw [Function.update_self, find?_of_mem hds.names h, Option.map_some, htarget]
  · rw [Function.update_of_ne hne, hsolves other, find?_inlineAlias hds.names h hne,
      Option.map_map]
    congr 1
    funext d
    exact layout_mapTypes (fun type => TypeExpr.layout_substitute refer) d

end Solutions

end Declaration

namespace Table
open Declaration

theorem laidOut_inlineAlias {ds : List Declaration} {name : String} {target : TypeExpr}
    (hnodup : ds.Nodup) (refer : String → Option Layout) :
    laidOut (inlineAlias ds name target) refer =
      laidOut ds (Function.update refer name (some (target.layout refer))) := by
  have hkept : (inlineAlias ds name target).filter (!·.isAlias) =
      (ds.filter (!·.isAlias)).map (·.mapTypes (·.substitute name target)) := by
    rw [inlineAlias, List.filter_map, ← filter_erase_alias hnodup]
    congr 2
    funext d
    simp
  rw [laidOut_eq, laidOut_eq, hkept, List.map_map]
  congr 2
  funext d
  exact Prod.ext rfl (layout_mapTypes (fun type => TypeExpr.layout_substitute refer) d)

/-- An alias may be left out where its target stands for it. The table is the same, entry by entry,
and so are its canonical bytes, its JSON and the module for clients. -/
theorem emit_inlineAlias {ds : List Declaration} {t : Table} {name : String} {target : TypeExpr}
    (h : emit ds = .ok t) (halias : ⟨name, .alias target⟩ ∈ ds) :
    emit (inlineAlias ds name target) = .ok t := by
  obtain ⟨refer, hlaid⟩ := exists_laidOut h
  obtain ⟨t', ht'⟩ := exists_emit (hlaid.emittable.inlineAlias halias)
  obtain ⟨refer', hlaid'⟩ := exists_laidOut ht'
  have hrefer := Solves.unique hlaid.grounded hlaid.solves
    (hlaid'.solves.of_inlineAlias hlaid.emittable halias)
  have hsame : t' = t := by
    rw [hlaid'.table, laidOut_inlineAlias hlaid.emittable.names.of_map, ← hrefer, ← hlaid.table]
  rw [ht', hsame]

/-- An alias of an alias that hides a primitive. -/
theorem emit_inlineAlias_amount :
    let ds : List Declaration :=
      [⟨"Transfer", .struct [⟨"amount", .named "Amount", false⟩,
        ⟨"fee", .option (.named "Amount"), false⟩, ⟨"cache", .named "Amount", true⟩]⟩,
        ⟨"Amount", .alias (.named "u64")⟩, ⟨"u64", .alias (.bytes 8)⟩]
    inlineAlias ds "Amount" (.named "u64") =
      [⟨"Transfer", .struct [⟨"amount", .named "u64", false⟩,
        ⟨"fee", .option (.named "u64"), false⟩, ⟨"cache", .named "u64", true⟩]⟩,
        ⟨"u64", .alias (.bytes 8)⟩] ∧
    ∃ t, emit ds = .ok t ∧ emit (inlineAlias ds "Amount" (.named "u64")) = .ok t ∧
      t.entries = [("Transfer", .struct "Transfer" [("amount", .ofPrimitive (.fixedBytes 8)),
        ("fee", .option "" (.ofPrimitive (.fixedBytes 8)))])] := by
  intro ds
  obtain ⟨t, ht⟩ : ∃ t, emit ds = .ok t := ⟨_, rfl⟩
  have hentries : t.entries = [("Transfer", .struct "Transfer"
      [("amount", .ofPrimitive (.fixedBytes 8)),
        ("fee", .option "" (.ofPrimitive (.fixedBytes 8)))])] := by
    cases ht
    rfl
  exact ⟨by decide, t, ht, emit_inlineAlias ht (by decide), hentries⟩

end Table
end WireSchema
