import WireSchema.Proofs.ClientTypes
import WireSchema.Proofs.Sharing

/-!
What the classes of a client module refer to. Main statement: where all declarations have names, no
member has a type but such as are made of primitives and of classes in the module.
-/

namespace WireSchema

/-- A layout that is shown with references to known classes only. -/
def Layout.ShownWithin (Known : String → Prop) (layout : Layout) : Prop :=
  ∃ type, layout.ShownAs type ∧ ∀ name ∈ type.references, Known name

section Shown
variable {Known : String → Prop} {refer : String → Option Layout}

theorem Layout.ShownWithin.imp {Known' : String → Prop} {layout : Layout}
    (h : layout.ShownWithin Known) (himp : ∀ name, Known name → Known' name) :
    layout.ShownWithin Known' := by
  obtain ⟨type, hshown, hknown⟩ := h
  exact ⟨type, hshown, fun name hname => himp name (hknown name hname)⟩

theorem Layout.ShownWithin.primitive (kind : Primitive) :
    (Layout.ofPrimitive kind).ShownWithin Known :=
  ⟨.primitive kind, .primitive, List.forall_mem_nil _⟩

theorem Layout.ShownWithin.map {key content : Layout} (hkey : key.ShownWithin Known)
    (hcontent : content.ShownWithin Known) (bound : Option UInt64) :
    (Layout.map "" key content bound).ShownWithin Known := by
  obtain ⟨keyType, hk, hknown⟩ := hkey
  obtain ⟨contentType, hc, hcknown⟩ := hcontent
  exact ⟨.map keyType contentType, .map hk hc, List.forall_mem_append.mpr ⟨hknown, hcknown⟩⟩

theorem TypeExpr.shown_layout {type : TypeExpr}
    (h : ∀ name ∈ type.references, ∀ layout, refer name = some layout →
      layout.ShownWithin Known) :
    (type.layout refer).ShownWithin Known := by
  induction type with
  | primitive name => exact .primitive _
  | named name =>
    rw [layout]
    cases hrefer : refer name with
    | none => exact .primitive _
    | some layout => exact h name (List.mem_singleton_self name) layout hrefer
  | sequence element ih =>
    obtain ⟨type, hshown, hknown⟩ := ih h
    exact ⟨.sequence type, .sequence hshown, hknown⟩
  | boundedSequence element bound ih =>
    obtain ⟨type, hshown, hknown⟩ := ih h
    exact ⟨.sequence type, .sequence hshown, hknown⟩
  | option inner ih =>
    obtain ⟨type, hshown, hknown⟩ := ih h
    exact ⟨.option type, .option hshown, hknown⟩
  | map key value ihk ihv =>
    obtain ⟨hk, hv⟩ := List.forall_mem_append.mp h
    exact (ihk hk).map (ihv hv) none
  | boundedMap key value bound ihk ihv =>
    obtain ⟨hk, hv⟩ := List.forall_mem_append.mp h
    exact (ihk hk).map (ihv hv) (some bound)
  | array element length ih =>
    obtain ⟨type, hshown, hknown⟩ := ih h
    exact ⟨.array type length, .array hshown, hknown⟩
  | bytes width => exact .primitive _
  | boundedString bound => exact .primitive _

end Shown

namespace Layout

/-- A struct or a tuple whose members are shown with references to known classes only. -/
def MembersWithin (Known : String → Prop) : Layout → Prop
  | .struct _ fields => ∀ field ∈ fields, field.2.ShownWithin Known
  | .tuple _ members => ∀ member ∈ members, member.ShownWithin Known
  | _ => False

/-- The same of an entry: of all payloads, if it is an enum. -/
def EntryWithin (Known : String → Prop) : Layout → Prop
  | .enum _ variants _ => ∀ variant ∈ variants, variant.2.MembersWithin Known
  | layout => layout.MembersWithin Known

section Weakening
variable {Known Known' : String → Prop} {layout : Layout}

theorem MembersWithin.imp (h : layout.MembersWithin Known)
    (himp : ∀ name, Known name → Known' name) : layout.MembersWithin Known' := by
  cases layout with
  | struct name fields => exact fun field hfield => (h field hfield).imp himp
  | tuple name members => exact fun member hmember => (h member hmember).imp himp
  | _ => exact h.elim

theorem EntryWithin.enum_or (h : layout.EntryWithin Known) :
    (∃ name variants tag, layout = .enum name variants tag ∧
      ∀ variant ∈ variants, variant.2.MembersWithin Known) ∨ layout.MembersWithin Known := by
  cases layout with
  | enum name variants tag => exact .inl ⟨name, variants, tag, rfl, h⟩
  | _ => exact .inr h

theorem MembersWithin.entry (h : layout.MembersWithin Known) : layout.EntryWithin Known := by
  cases layout with
  | enum name variants tag => exact h.elim
  | _ => exact h

theorem EntryWithin.imp (h : layout.EntryWithin Known)
    (himp : ∀ name, Known name → Known' name) : layout.EntryWithin Known' := by
  rcases h.enum_or with ⟨name, variants, tag, rfl, hvariants⟩ | hmembers
  · exact fun variant hvariant => (hvariants variant hvariant).imp himp
  · exact (hmembers.imp himp).entry

end Weakening

end Layout

namespace Declaration
variable {Known : String → Prop} {refer : String → Option Layout}

theorem within_fields (name : String) {fields : List Field}
    (h : ∀ type ∈ (keptFields fields).map (·.type), (type.layout refer).ShownWithin Known) :
    (Layout.struct name (layoutFields refer fields)).MembersWithin Known := by
  rw [List.forall_mem_map] at h
  exact List.forall_mem_map.mpr h

theorem within_members (name : String) {members : List TypeExpr}
    (h : ∀ type ∈ members, (type.layout refer).ShownWithin Known) :
    (Layout.tuple name (layoutMembers refer members)).MembersWithin Known :=
  List.forall_mem_map.mpr h

theorem Variant.within_layout {owner : String} {variant : Variant}
    (h : ∀ type ∈ variant.types, (type.layout refer).ShownWithin Known) :
    (variant.layout refer owner).2.MembersWithin Known := by
  obtain ⟨name, payload⟩ := variant
  cases payload with
  | unit => exact List.forall_mem_nil _
  | named fields => exact within_fields _ h
  | unnamed members => exact within_members _ h

theorem within_layout {d : Declaration} (halias : ¬d.isAlias)
    (h : ∀ type ∈ d.types, (type.layout refer).ShownWithin Known) :
    (d.layout refer).EntryWithin Known := by
  obtain ⟨name, body⟩ := d
  cases body with
  | struct fields => exact within_fields name h
  | tuple members => exact within_members name h
  | enum variants tag =>
    refine List.forall_mem_map.mpr fun variant hvariant => variant.within_layout ?_
    intro type htype
    exact h type (mem_types_of_variant hvariant htype)
  | «alias» target => exact absurd rfl halias

end Declaration

namespace ClientClass
variable {Known : String → Prop}

@[simp] theorem ofLayout_name (name : String) (layout : Layout) :
    (ofLayout name layout).name = name := by
  cases layout <;> rfl

@[simp] theorem ofLayout_kind (name : String) (layout : Layout) :
    (ofLayout name layout).kind = .struct := by
  cases layout <;> rfl

/-- The types of all members are made of primitives and of known classes. -/
def Resolved (Known : String → Prop) (c : ClientClass) : Prop :=
  ∀ m ∈ c.members, ∃ type : ClientType, m.classType = type.classText ∧
    m.schemaType = type.schemaText ∧ ∀ name ∈ type.references, Known name

theorem Resolved.imp {Known' : String → Prop} {c : ClientClass} (h : c.Resolved Known)
    (himp : ∀ name, Known name → Known' name) : c.Resolved Known' := by
  intro m hm
  obtain ⟨type, hclass, hschema, hknown⟩ := h m hm
  exact ⟨type, hclass, hschema, fun name hname => himp name (hknown name hname)⟩

theorem exists_type_of_shown {layout : Layout} (h : layout.ShownWithin Known) (name : String) :
    ∃ type : ClientType, (ClientMember.ofLayout name layout).classType = type.classText ∧
      (ClientMember.ofLayout name layout).schemaType = type.schemaText ∧
      ∀ name ∈ type.references, Known name := by
  obtain ⟨type, hshown, hknown⟩ := h
  exact ⟨type, hshown.classType_eq, hshown.schemaType_eq, hknown⟩

theorem resolved_ofLayout {layout : Layout} (h : layout.MembersWithin Known) (name : String) :
    (ofLayout name layout).Resolved Known := by
  intro m hm
  cases layout with
  | struct typeName fields =>
    obtain ⟨field, hfield, rfl⟩ := List.mem_map.mp hm
    exact exists_type_of_shown (h field hfield) _
  | tuple typeName members =>
    obtain ⟨position, hposition, rfl⟩ := List.mem_mapIdx.mp hm
    exact exists_type_of_shown (h _ (List.getElem_mem hposition)) _
  | _ => exact h.elim

theorem resolved_ofEntry {entry : String × Layout} (h : entry.2.EntryWithin Known)
    (hknown : ∀ c ∈ ofEntry entry, Known c.name) : ∀ c ∈ ofEntry entry, c.Resolved Known := by
  obtain ⟨name, layout⟩ := entry
  intro c hc
  cases layout with
  | enum typeName variants tag =>
    rcases List.mem_cons.mp hc with rfl | hc
    · intro m hm
      obtain ⟨variant, hvariant, rfl⟩ := List.mem_map.mp hm
      have hclass := hknown _ (List.mem_cons_of_mem _ (List.mem_map_of_mem hvariant))
      rw [ofLayout_name] at hclass
      exact ⟨.reference (name ++ variant.1), rfl, rfl, List.forall_mem_singleton.mpr hclass⟩
    · obtain ⟨variant, hvariant, rfl⟩ := List.mem_map.mp hc
      exact resolved_ofLayout (h variant hvariant) _
  | struct typeName fields =>
    obtain rfl := List.mem_singleton.mp hc
    have hmembers : (Layout.struct typeName fields).MembersWithin Known := h
    exact resolved_ofLayout hmembers name
  | tuple typeName members =>
    obtain rfl := List.mem_singleton.mp hc
    have hmembers : (Layout.tuple typeName members).MembersWithin Known := h
    exact resolved_ofLayout hmembers name
  | _ => exact h.elim

end ClientClass

namespace Declaration

/-- The classes of a declaration: its own, then those of its variants. An alias has none. -/
def classes (d : Declaration) : List (String × ClientKind) :=
  match d.body with
  | .struct _ | .tuple _ => [(d.name, .struct)]
  | .enum variants _ =>
    (d.name, .enum) :: variants.map fun variant => (variant.payloadName d.name, .struct)
  | .alias _ => []

theorem classes_ofEntry {d : Declaration} (h : ¬d.isAlias) (refer : String → Option Layout) :
    (ClientClass.ofEntry (d.name, d.layout refer)).map (fun c => (c.name, c.kind)) = d.classes := by
  obtain ⟨name, body⟩ := d
  cases body with
  | struct fields => rfl
  | tuple members => rfl
  | enum variants tag =>
    simp [layout, classes, ClientClass.ofEntry, Variant.layout, Variant.payloadName]
  | «alias» target => exact absurd rfl h

theorem classes_eq_nil {d : Declaration} (h : d.isAlias) : d.classes = [] := by
  obtain ⟨target, hbody⟩ := exists_target h
  rw [classes, hbody]

theorem exists_class {d : Declaration} (h : ¬d.isAlias) : ∃ kind, (d.name, kind) ∈ d.classes := by
  obtain ⟨name, body⟩ := d
  cases body with
  | struct fields => exact ⟨.struct, List.mem_singleton_self _⟩
  | tuple members => exact ⟨.struct, List.mem_singleton_self _⟩
  | enum variants tag => exact ⟨.enum, List.mem_cons_self⟩
  | «alias» target => exact absurd rfl h

end Declaration

namespace Table
open Declaration
variable {ds : List Declaration} {t : Table} {refer : String → Option Layout}

theorem LaidOut.classes_eq (h : LaidOut ds t refer) :
    t.clientClasses.map (fun c => (c.name, c.kind)) = ds.flatMap Declaration.classes := by
  rw [clientClasses, h.table, laidOut_eq]
  have hall : ∀ ds : List Declaration,
      (((ds.filter (!·.isAlias)).map fun d => (d.name, d.layout refer)).flatMap
        ClientClass.ofEntry).map (fun c => (c.name, c.kind)) =
      ds.flatMap Declaration.classes := by
    intro ds
    induction ds with
    | nil => rfl
    | cons d ds ih =>
      rw [List.flatMap_cons, ← ih]
      by_cases hd : d.isAlias
      · simp [hd, classes_eq_nil hd]
      · simp [hd, ← classes_ofEntry hd refer]
  exact hall ds

/-- A name of a class in the module. -/
def HasClass (t : Table) (name : String) : Prop :=
  ∃ c ∈ t.clientClasses, c.name = name

theorem LaidOut.hasClass (h : LaidOut ds t refer) {d : Declaration} (hd : d ∈ ds)
    (halias : ¬d.isAlias) : t.HasClass d.name := by
  obtain ⟨kind, hkind⟩ := exists_class halias
  have hmem : (d.name, kind) ∈ t.clientClasses.map fun c => (c.name, c.kind) := by
    rw [h.classes_eq]
    exact List.mem_flatMap.mpr ⟨d, hd, hkind⟩
  obtain ⟨c, hc, heq⟩ := List.mem_map.mp hmem
  exact ⟨c, hc, congrArg Prod.fst heq⟩

/-- The induction is along the references: an alias is shown like its target. -/
theorem LaidOut.shown (h : LaidOut ds t refer) (hnames : ∀ d ∈ ds, ¬d.isAlias → d.name ≠ "")
    {d : Declaration} (hd : d ∈ ds) : (d.layout refer).ShownWithin t.HasClass := by
  induction h.grounded d hd with
  | intro d _ ih =>
    by_cases halias : d.isAlias
    · obtain ⟨target, hbody⟩ := exists_target halias
      have htarget : target ∈ d.types := by
        rw [types, hbody]
        exact List.mem_singleton_self target
      have hlayout : d.layout refer = target.layout refer := by rw [Declaration.layout, hbody]
      rw [hlayout]
      apply TypeExpr.shown_layout
      intro name hname layout hrefer
      obtain ⟨e, he, rfl⟩ := h.exists_referred htarget hname hrefer
      exact ih e he he.1
    · have hname : (d.layout refer).name = d.name := layout_name refer halias
      have hnamed : (d.layout refer).isNamed := by
        simpa [Layout.isNamed, hname] using hnames d hd halias
      refine ⟨.reference (d.layout refer).name, .reference hnamed, ?_⟩
      rw [ClientType.references, List.forall_mem_singleton, hname]
      exact h.hasClass hd halias

theorem LaidOut.within (h : LaidOut ds t refer) (hnames : ∀ d ∈ ds, ¬d.isAlias → d.name ≠ "")
    {entry : String × Layout} (hentry : entry ∈ t.entries) :
    entry.2.EntryWithin t.HasClass := by
  rw [h.table, laidOut_eq] at hentry
  obtain ⟨d, hd, rfl⟩ := List.mem_map.mp hentry
  obtain ⟨hmem, halias⟩ := List.mem_filter.mp hd
  apply within_layout (by simpa using halias)
  intro type htype
  apply TypeExpr.shown_layout
  intro name hname layout hrefer
  obtain ⟨e, he, rfl⟩ := h.exists_referred htype hname hrefer
  exact h.shown hnames he.1

theorem LaidOut.resolved (h : LaidOut ds t refer) (hnames : ∀ d ∈ ds, ¬d.isAlias → d.name ≠ "") :
    ∀ c ∈ t.clientClasses, c.Resolved t.HasClass := by
  intro c hc
  obtain ⟨entry, hentry, hof⟩ := List.mem_flatMap.mp hc
  apply ClientClass.resolved_ofEntry (h.within hnames hentry) _ c hof
  intro c' hc'
  exact ⟨c', List.mem_flatMap.mpr ⟨entry, hentry, hc'⟩, rfl⟩

end Table
end WireSchema
