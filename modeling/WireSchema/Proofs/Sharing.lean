import WireSchema.Proofs.Emission

/-!
What an emitted table is without its memo. Main statement: each entry is the layout of its
declaration with the table's own entries put for the declared types, and every child with a name is
the entry of that name.
-/

namespace WireSchema

/-- A layout that another one refers to or holds in place. The payload of a variant is part of its
enum, so that its name stands for no entry; its own children count. -/
inductive Layout.Child : Layout → Layout → Prop
  | element : Child element (.array typeName element length)
  | item : Child item (.sequence typeName item bound)
  | key : Child key (.map typeName key content bound)
  | content : Child content (.map typeName key content bound)
  | held : Child held (.option typeName held)
  | field : field ∈ fields → Child field.2 (.struct typeName fields)
  | member : member ∈ members → Child member (.tuple typeName members)
  | payload : variant ∈ variants → Child child variant.2 → Child child (.enum typeName variants tag)

/-- A layout with a name is the entry of that name. -/
def Table.Shares (t : Table) (layout : Layout) : Prop :=
  layout.isNamed → t.get? layout.name = some layout

/-- All children are shared with the table, and payloads have the names of enum and variant. -/
inductive Layout.Linked (t : Table) : Layout → Prop
  | primitive : Linked t (.primitive typeName kind)
  | array : t.Shares element → Linked t element → Linked t (.array typeName element length)
  | sequence : t.Shares item → Linked t item → Linked t (.sequence typeName item bound)
  | map : t.Shares key → Linked t key → t.Shares content → Linked t content →
      Linked t (.map typeName key content bound)
  | option : t.Shares held → Linked t held → Linked t (.option typeName held)
  | struct : (∀ field ∈ fields, t.Shares field.2) → (∀ field ∈ fields, Linked t field.2) →
      Linked t (.struct typeName fields)
  | tuple : (∀ member ∈ members, t.Shares member) → (∀ member ∈ members, Linked t member) →
      Linked t (.tuple typeName members)
  | enum : (∀ variant ∈ variants, variant.2.name = typeName ++ variant.1) →
      (∀ variant ∈ variants, Linked t variant.2) → Linked t (.enum typeName variants tag)

/-- A layout that can be a child in the table. -/
def Table.Fits (t : Table) (layout : Layout) : Prop :=
  t.Shares layout ∧ layout.Linked t

namespace Layout

theorem Linked.child {t : Table} {layout child : Layout} (h : layout.Linked t)
    (hchild : Child child layout) : t.Fits child := by
  induction hchild with
  | element => cases h with | array hs hl => exact ⟨hs, hl⟩
  | item => cases h with | sequence hs hl => exact ⟨hs, hl⟩
  | key => cases h with | map hs hl => exact ⟨hs, hl⟩
  | content => cases h with | map _ _ hs hl => exact ⟨hs, hl⟩
  | held => cases h with | option hs hl => exact ⟨hs, hl⟩
  | field hfield => cases h with | struct hs hl => exact ⟨hs _ hfield, hl _ hfield⟩
  | member hmember => cases h with | tuple hs hl => exact ⟨hs _ hmember, hl _ hmember⟩
  | payload hvariant _ ih => cases h with | enum _ hl => exact ih (hl _ hvariant)

theorem Linked.descendant {t : Table} {layout child : Layout} (h : layout.Linked t)
    (hchild : Relation.TransGen Child child layout) : t.Fits child := by
  induction hchild using Relation.TransGen.head_induction_on with
  | single hchild => exact h.child hchild
  | head hchild _ ih => exact ih.2.child hchild

end Layout

/-- Nothing without a name is an entry. -/
theorem Table.shares_of_name_eq {t : Table} {layout : Layout} (h : layout.name = "") :
    t.Shares layout := by
  intro hnamed
  rw [Layout.isNamed, h] at hnamed
  cases hnamed

section Linking
variable {t : Table} {refer : String → Option Layout}

theorem TypeExpr.fits_layout {type : TypeExpr}
    (h : ∀ name ∈ type.references, ∀ layout, refer name = some layout → t.Fits layout) :
    t.Fits (type.layout refer) := by
  induction type with
  | primitive name => exact ⟨Table.shares_of_name_eq rfl, .primitive⟩
  | named name =>
    rw [layout]
    cases hrefer : refer name with
    | none => exact ⟨Table.shares_of_name_eq rfl, .primitive⟩
    | some layout => exact h name (List.mem_singleton_self name) layout hrefer
  | sequence element ih =>
    obtain ⟨hs, hl⟩ := ih h
    exact ⟨Table.shares_of_name_eq rfl, .sequence hs hl⟩
  | boundedSequence element bound ih =>
    obtain ⟨hs, hl⟩ := ih h
    exact ⟨Table.shares_of_name_eq rfl, .sequence hs hl⟩
  | option inner ih =>
    obtain ⟨hs, hl⟩ := ih h
    exact ⟨Table.shares_of_name_eq rfl, .option hs hl⟩
  | map key value ihk ihv =>
    obtain ⟨hk, hv⟩ := List.forall_mem_append.mp h
    obtain ⟨hks, hkl⟩ := ihk hk
    obtain ⟨hvs, hvl⟩ := ihv hv
    exact ⟨Table.shares_of_name_eq rfl, .map hks hkl hvs hvl⟩
  | boundedMap key value bound ihk ihv =>
    obtain ⟨hk, hv⟩ := List.forall_mem_append.mp h
    obtain ⟨hks, hkl⟩ := ihk hk
    obtain ⟨hvs, hvl⟩ := ihv hv
    exact ⟨Table.shares_of_name_eq rfl, .map hks hkl hvs hvl⟩
  | array element length ih =>
    obtain ⟨hs, hl⟩ := ih h
    exact ⟨Table.shares_of_name_eq rfl, .array hs hl⟩
  | bytes width => exact ⟨Table.shares_of_name_eq rfl, .primitive⟩
  | boundedString bound => exact ⟨Table.shares_of_name_eq rfl, .primitive⟩

namespace Declaration

theorem linked_fields {name : String} {fields : List Field}
    (h : ∀ type ∈ (keptFields fields).map (·.type),
      t.Fits (type.layout refer)) :
    (Layout.struct name (layoutFields refer fields)).Linked t := by
  rw [List.forall_mem_map] at h
  apply Layout.Linked.struct
  · exact List.forall_mem_map.mpr fun field hfield => (h field hfield).1
  · exact List.forall_mem_map.mpr fun field hfield => (h field hfield).2

theorem linked_members {name : String} {members : List TypeExpr}
    (h : ∀ type ∈ members, t.Fits (type.layout refer)) :
    (Layout.tuple name (layoutMembers refer members)).Linked t := by
  apply Layout.Linked.tuple
  · exact List.forall_mem_map.mpr fun member hmember => (h member hmember).1
  · exact List.forall_mem_map.mpr fun member hmember => (h member hmember).2

theorem Variant.linked_layout {owner : String} {variant : Variant}
    (h : ∀ type ∈ variant.types, t.Fits (type.layout refer)) :
    (variant.layout refer owner).2.Linked t := by
  obtain ⟨name, payload⟩ := variant
  cases payload with
  | unit => exact .struct (List.forall_mem_nil _) (List.forall_mem_nil _)
  | named fields => exact linked_fields h
  | unnamed members => exact linked_members h

theorem Variant.layout_name (owner : String) (variant : Variant) :
    (variant.layout refer owner).2.name = owner ++ variant.name := by
  obtain ⟨name, payload⟩ := variant
  cases payload <;> rfl

theorem linked_layout {d : Declaration} (h : ∀ type ∈ d.types,
    t.Fits (type.layout refer)) : (d.layout refer).Linked t := by
  obtain ⟨name, body⟩ := d
  cases body with
  | struct fields => exact linked_fields h
  | tuple members => exact linked_members h
  | enum variants tag =>
    apply Layout.Linked.enum
    · exact List.forall_mem_map.mpr fun variant _ => variant.layout_name name
    · refine List.forall_mem_map.mpr fun variant hvariant => variant.linked_layout ?_
      intro type htype
      exact h type (mem_types_of_variant hvariant htype)
  | «alias» target => exact (h target (List.mem_singleton_self target)).2

theorem exists_target {d : Declaration} (h : d.isAlias) : ∃ target, d.body = .alias target := by
  obtain ⟨name, body⟩ := d
  cases body with
  | «alias» target => exact ⟨target, rfl⟩
  | _ => cases h

theorem mem_references_of_alias {d : Declaration} {target : TypeExpr} {name : String}
    (hbody : d.body = .alias target) (hname : name ∈ target.references) : name ∈ d.references := by
  rw [references, types, hbody]
  simpa using hname

end Declaration
end Linking

namespace Table
open Declaration

/-- What is put for the names in a table: for a declared type its entry, for an alias the layout of
its target, and nothing for all other names. -/
structure Substitution (ds : List Declaration) (t : Table) (refer : String → Option Layout) :
    Prop where
  entry : ∀ d ∈ ds, ¬d.isAlias → refer d.name = t.get? d.name
  target : ∀ d ∈ ds, ∀ target, d.body = .alias target → refer d.name = some (target.layout refer)
  undeclared : ∀ name, name ∉ ds.map (·.name) → refer name = none

section Substitution
variable {ds : List Declaration} {t : Table} {refer refer' : String → Option Layout}

theorem lookup_map_of_mem (layout : Declaration → Layout) (hnames : (ds.map (·.name)).Nodup)
    {d : Declaration} (hd : d ∈ ds) :
    (ds.map fun d => (d.name, layout d)).lookup d.name = some (layout d) := by
  induction ds with
  | nil => cases hd
  | cons e ds ih =>
    obtain ⟨hfresh, hnodup⟩ := List.nodup_cons.mp hnames
    rw [List.map_cons, List.lookup_cons]
    rcases List.mem_cons.mp hd with rfl | hmem
    · simp
    · have hne : d.name ≠ e.name := by
        intro he
        exact hfresh (List.mem_map.mpr ⟨d, hmem, he⟩)
      rw [beq_false_of_ne hne]
      exact ih hnodup hmem

theorem LaidOut.refer_eq (h : LaidOut ds t refer) {d : Declaration} (hd : d ∈ ds) :
    refer d.name = some (d.layout refer) := by
  rw [h.solves d.name, find?_of_mem h.emittable.names hd, Option.map_some]

theorem LaidOut.get?_eq (h : LaidOut ds t refer) {d : Declaration} (hd : d ∈ ds)
    (halias : ¬d.isAlias) : t.get? d.name = some (d.layout refer) := by
  rw [h.table, laidOut_eq, get?]
  have hnames : ((ds.filter (!·.isAlias)).map (·.name)).Nodup :=
    h.emittable.names.sublist (List.filter_sublist.map _)
  have hmem : d ∈ ds.filter (!·.isAlias) := List.mem_filter.mpr ⟨hd, by simpa using halias⟩
  exact lookup_map_of_mem (·.layout refer) hnames hmem

theorem LaidOut.substitution (h : LaidOut ds t refer) : Substitution ds t refer := by
  refine ⟨?_, ?_, ?_⟩
  · intro d hd halias
    rw [h.refer_eq hd, h.get?_eq hd halias]
  · intro d hd target hbody
    rw [h.refer_eq hd, Declaration.layout, hbody]
  · intro name hname
    rw [h.solves name, find?_eq_none_iff.mpr hname, Option.map_none]

/-- There is only one way to put layouts for the names in a table. -/
theorem LaidOut.unique (h : LaidOut ds t refer) (h' : Substitution ds t refer') :
    refer' = refer := by
  have hdeclared : ∀ d ∈ ds, refer' d.name = refer d.name := by
    intro d hd
    induction h.grounded d hd with
    | intro d _ ih =>
      by_cases halias : d.isAlias
      · obtain ⟨target, hbody⟩ := exists_target halias
        rw [h'.target d hd target hbody, h.substitution.target d hd target hbody]
        congr 1
        apply TypeExpr.layout_congr
        intro name hname
        by_cases hmem : name ∈ ds.map (·.name)
        · obtain ⟨e, he, rfl⟩ := List.mem_map.mp hmem
          exact ih e ⟨he, mem_references_of_alias hbody hname⟩ he
        · rw [h'.undeclared name hmem, h.substitution.undeclared name hmem]
      · rw [h'.entry d hd halias, h.substitution.entry d hd halias]
  funext name
  by_cases hname : name ∈ ds.map (·.name)
  · obtain ⟨d, hd, rfl⟩ := List.mem_map.mp hname
    exact hdeclared d hd
  · rw [h'.undeclared name hname, h.substitution.undeclared name hname]

/-- What is put for a name that a declaration refers to is the layout of a declaration. -/
theorem LaidOut.exists_referred (h : LaidOut ds t refer) {d : Declaration} {type : TypeExpr}
    (htype : type ∈ d.types) {name : String} (hname : name ∈ type.references) {layout : Layout}
    (hrefer : refer name = some layout) : ∃ e, RefersTo ds d e ∧ layout = e.layout refer := by
  rw [h.solves name, Option.map_eq_some_iff] at hrefer
  obtain ⟨e, hfind, rfl⟩ := hrefer
  obtain rfl := find?_name hfind
  exact ⟨e, ⟨mem_of_find? hfind, List.mem_flatMap.mpr ⟨type, htype, hname⟩⟩, rfl⟩

/-- The induction is along the references, so that what is put for them is known to fit. -/
theorem LaidOut.fits (h : LaidOut ds t refer) {d : Declaration} (hd : d ∈ ds) :
    t.Fits (d.layout refer) := by
  induction h.grounded d hd with
  | intro d _ ih =>
    have htypes : ∀ type ∈ d.types, t.Fits (type.layout refer) := by
      intro type htype
      apply TypeExpr.fits_layout
      intro name hname layout hrefer
      obtain ⟨e, he, rfl⟩ := h.exists_referred htype hname hrefer
      exact ih e he he.1
    by_cases halias : d.isAlias
    · obtain ⟨target, hbody⟩ := exists_target halias
      have hlayout : d.layout refer = target.layout refer := by rw [Declaration.layout, hbody]
      rw [hlayout]
      apply htypes
      rw [types, hbody]
      exact List.mem_singleton_self target
    · refine ⟨fun _ => ?_, linked_layout htypes⟩
      rw [layout_name refer halias, h.get?_eq hd halias]

theorem LaidOut.exists_declaration (h : LaidOut ds t refer) {entry : String × Layout}
    (hentry : entry ∈ t.entries) : ∃ d ∈ ds, entry.2 = d.layout refer := by
  rw [h.table, laidOut_eq] at hentry
  obtain ⟨d, hd, rfl⟩ := List.mem_map.mp hentry
  exact ⟨d, List.mem_of_mem_filter hd, rfl⟩

theorem LaidOut.fits_entry (h : LaidOut ds t refer) {entry : String × Layout}
    (hentry : entry ∈ t.entries) : t.Fits entry.2 := by
  obtain ⟨d, hd, hlayout⟩ := h.exists_declaration hentry
  rw [hlayout]
  exact h.fits hd

theorem LaidOut.linked (h : LaidOut ds t refer) {entry : String × Layout}
    (hentry : entry ∈ t.entries) : entry.2.Linked t :=
  (h.fits_entry hentry).2

end Substitution

/-- What is put for the names is settled by the table, and the table by what is put for them. -/
theorem emit_eq_substitution {ds : List Declaration} {t : Table} (h : emit ds = .ok t) :
    (∃! refer, Substitution ds t refer) ∧
      (∀ refer, Substitution ds t refer →
        ∀ d ∈ ds, ¬d.isAlias → t.get? d.name = some (d.layout refer)) ∧
      ∀ entry ∈ t.entries, ∀ child, Relation.TransGen Layout.Child child entry.2 →
        child.isNamed → t.get? child.name = some child := by
  obtain ⟨refer, hlaid⟩ := exists_laidOut h
  refine ⟨⟨refer, hlaid.substitution, fun refer' h' => hlaid.unique h'⟩, ?_, ?_⟩
  · intro refer' h' d hd halias
    obtain rfl := hlaid.unique h'
    exact hlaid.get?_eq hd halias
  · intro entry hentry child hchild
    exact ((hlaid.linked hentry).descendant hchild).1

/-- A vault whose parts are declared after it, one of them behind an alias. -/
def vault : List Declaration :=
  [⟨"Vault", .struct [⟨"owner", .named "Owner", false⟩, ⟨"cache", .named "Cache", true⟩,
      ⟨"state", .named "State", false⟩]⟩,
    ⟨"Owner", .alias (.option (.named "Key"))⟩,
    ⟨"State", .enum [⟨"Open", .unit⟩, ⟨"Held", .unnamed [.named "Key", .named "u64"]⟩] .one⟩,
    ⟨"Key", .tuple [.bytes 32]⟩]

def vaultTable : Table :=
  let key := .tuple "Key" [.ofPrimitive (.fixedBytes 32)]
  let state := .enum "State" [("Open", .struct "StateOpen" []),
    ("Held", .tuple "StateHeld" [key, .ofPrimitive (.int .u64)])] .one
  ⟨[("Vault", .struct "Vault" [("owner", .option "" key), ("state", state)]), ("State", state),
    ("Key", key)]⟩

theorem emit_vault : emit vault = .ok vaultTable ∧
    (∃! refer, Substitution vault vaultTable refer) := by
  have h : emit vault = .ok vaultTable := by rfl
  exact ⟨h, (emit_eq_substitution h).1⟩

end Table
end WireSchema
