import Mathlib.Data.List.Pairwise
import WireSchema.Proofs.References

/-!
The names of the classes in a client module. Main statement: they are told apart exactly where the
names that are made for variants meet neither a declared name nor each other.
-/

namespace WireSchema
namespace Declaration

/-- The variants of an enum. No other type has any. -/
def variants (d : Declaration) : List Variant :=
  match d.body with
  | .enum variants _ => variants
  | .struct _ | .tuple _ | .alias _ => []

def classNames (d : Declaration) : List String :=
  d.classes.map (·.1)

/-- The names made for the variants of an enum are neither those of declared types nor those made
for another enum. An alias has no class, so that its name is free. -/
structure ClassesApart (ds : List Declaration) : Prop where
  declared : ∀ d ∈ ds, ∀ variant ∈ d.variants, ∀ e ∈ ds, ¬e.isAlias →
    variant.payloadName d.name ≠ e.name
  made : ∀ d ∈ ds, ∀ variant ∈ d.variants, ∀ e ∈ ds, ∀ other ∈ e.variants,
    variant.payloadName d.name = other.payloadName e.name → d = e

/-- No declared name begins with the name of an enum but its own, and all variants have names. -/
structure OwnersApart (ds : List Declaration) : Prop where
  owner : ∀ d ∈ ds, d.variants ≠ [] → ∀ e ∈ ds, ¬e.isAlias → d.name.toList <+: e.name.toList → d = e
  named : ∀ d ∈ ds, ∀ variant ∈ d.variants, variant.name ≠ ""

section Names
variable {d e : Declaration} {name : String}

theorem not_isAlias_of_variant {variant : Variant} (h : variant ∈ d.variants) : ¬d.isAlias := by
  intro halias
  obtain ⟨target, hbody⟩ := exists_target halias
  rw [variants, hbody] at h
  cases h

theorem classNames_eq (h : ¬d.isAlias) :
    d.classNames = d.name :: d.variants.map (·.payloadName d.name) := by
  obtain ⟨own, body⟩ := d
  cases body with
  | struct fields => rfl
  | tuple members => rfl
  | enum variants tag => simp [classNames, classes, Declaration.variants]
  | «alias» target => exact absurd rfl h

theorem mem_classNames : name ∈ d.classNames ↔
    ¬d.isAlias ∧ name = d.name ∨ ∃ variant ∈ d.variants, variant.payloadName d.name = name := by
  by_cases halias : d.isAlias
  · have hnone : ¬∃ variant ∈ d.variants, variant.payloadName d.name = name :=
      fun ⟨_, hvariant, _⟩ => not_isAlias_of_variant hvariant halias
    simp [classNames, classes_eq_nil halias, halias, hnone]
  · simp [classNames_eq halias, halias]

theorem Variant.payloadName_inj {owner : String} {variant other : Variant} :
    variant.payloadName owner = other.payloadName owner ↔ variant.name = other.name :=
  String.append_right_inj owner

theorem Variant.prefix_payloadName (owner : String) (variant : Variant) :
    owner.toList <+: (variant.payloadName owner).toList := by
  rw [payloadName, String.toList_append]
  exact List.prefix_append _ _

theorem DistinctParts.variants (h : d.DistinctParts) : (d.variants.map (·.name)).Nodup := by
  obtain ⟨own, body⟩ := d
  cases body with
  | enum variants tag => exact h.1
  | _ => exact List.nodup_nil

/-- Variants of one enum differ in what stands after the name of the enum. -/
theorem nodup_variantClasses (h : d.DistinctParts) :
    (d.variants.map (·.payloadName d.name)).Nodup := by
  have hparts := List.pairwise_map.mp h.variants
  exact List.pairwise_map.mpr (hparts.imp fun hne heq => hne (Variant.payloadName_inj.mp heq))

theorem nodup_classNames (h : d.DistinctParts)
    (hown : ∀ variant ∈ d.variants, variant.payloadName d.name ≠ d.name) : d.classNames.Nodup := by
  by_cases halias : d.isAlias
  · rw [classNames, classes_eq_nil halias]
    exact List.nodup_nil
  · rw [classNames_eq halias, List.nodup_cons, List.mem_map]
    exact ⟨fun ⟨variant, hvariant, heq⟩ => hown variant hvariant heq, nodup_variantClasses h⟩

end Names

section Apart
variable {ds : List Declaration}

/-- A name is the name of a class of one declaration only. -/
theorem eq_of_mem_classNames (h : (ds.flatMap classNames).Nodup) {d e : Declaration} (hd : d ∈ ds)
    (he : e ∈ ds) {name : String} (hnamed : name ∈ d.classNames) (hnamee : name ∈ e.classNames) :
    d = e := by
  by_contra hne
  have : Std.Symm (Function.onFun List.Disjoint classNames) := ⟨fun _ _ => List.disjoint_symm⟩
  exact (List.nodup_flatMap.mp h).2.forall hd he hne hnamed hnamee

theorem classesApart_of_nodup (h : (ds.flatMap classNames).Nodup) : ClassesApart ds := by
  refine ⟨?_, ?_⟩
  · intro d hd variant hvariant e he halias hsame
    obtain rfl := eq_of_mem_classNames h hd he (mem_classNames.mpr (.inr ⟨variant, hvariant, rfl⟩))
      (mem_classNames.mpr (.inl ⟨halias, hsame⟩))
    -- Within one declaration the name of the enum comes before those of its variants.
    have hnodup := (List.nodup_flatMap.mp h).1 d hd
    rw [classNames_eq halias, List.nodup_cons, List.mem_map] at hnodup
    exact hnodup.1 ⟨variant, hvariant, hsame⟩
  · intro d hd variant hvariant e he other hother hsame
    exact eq_of_mem_classNames h hd he (mem_classNames.mpr (.inr ⟨variant, hvariant, rfl⟩))
      (mem_classNames.mpr (.inr ⟨other, hother, hsame.symm⟩))

theorem ClassesApart.disjoint (h : ClassesApart ds) (hnames : (ds.map (·.name)).Nodup)
    {d e : Declaration} (hd : d ∈ ds) (he : e ∈ ds) (hne : d ≠ e) :
    d.classNames.Disjoint e.classNames := by
  intro name hnamed hnamee
  rcases mem_classNames.mp hnamed with ⟨haliasd, rfl⟩ | ⟨variant, hvariant, rfl⟩
  · rcases mem_classNames.mp hnamee with ⟨-, hsame⟩ | ⟨other, hother, hsame⟩
    · exact hne (List.inj_on_of_nodup_map hnames hd he hsame)
    · exact h.declared e he other hother d hd haliasd hsame
  · rcases mem_classNames.mp hnamee with ⟨haliase, hsame⟩ | ⟨other, hother, hsame⟩
    · exact h.declared d hd variant hvariant e he haliase hsame
    · exact hne (h.made d hd variant hvariant e he other hother hsame.symm)

theorem ClassesApart.nodup (h : ClassesApart ds) (hnames : (ds.map (·.name)).Nodup)
    (hparts : ∀ d ∈ ds, d.DistinctParts) : (ds.flatMap classNames).Nodup := by
  refine List.nodup_flatMap.mpr ⟨fun d hd => ?_, ?_⟩
  · apply nodup_classNames (hparts d hd)
    intro variant hvariant
    exact h.declared d hd variant hvariant d hd (not_isAlias_of_variant hvariant)
  · exact (List.Nodup.of_map _ hnames).pairwise_of_forall_ne
      fun d hd e he hne => h.disjoint hnames hd he hne

/-- A name made for a variant begins with that of its enum, and with no other. -/
theorem OwnersApart.classesApart (h : OwnersApart ds) : ClassesApart ds := by
  have howner : ∀ d ∈ ds, ∀ variant ∈ d.variants, ∀ e ∈ ds, ¬e.isAlias →
      d.name.toList <+: e.name.toList → d = e :=
    fun d hd variant hvariant => h.owner d hd (List.ne_nil_of_mem hvariant)
  refine ⟨?_, ?_⟩
  · intro d hd variant hvariant e he halias hsame
    have hbegins := variant.prefix_payloadName d.name
    rw [hsame] at hbegins
    obtain rfl := howner d hd variant hvariant e he halias hbegins
    exact h.named d hd variant hvariant (String.append_eq_left_iff.mp hsame)
  · intro d hd variant hvariant e he other hother hsame
    have hbegins := variant.prefix_payloadName d.name
    rw [hsame] at hbegins
    rcases List.prefix_or_prefix_of_prefix hbegins (other.prefix_payloadName e.name) with hde | hed
    · exact howner d hd variant hvariant e he (not_isAlias_of_variant hother) hde
    · exact (howner e he other hother d hd (not_isAlias_of_variant hvariant) hed).symm

end Apart
end Declaration

namespace Table
open Declaration
variable {ds : List Declaration} {t : Table} {refer : String → Option Layout}

theorem LaidOut.classNames_eq (h : LaidOut ds t refer) :
    t.clientClasses.map (·.name) = ds.flatMap classNames := by
  have hnames := congrArg (List.map (·.1)) h.classes_eq
  rw [List.map_map, List.map_flatMap] at hnames
  exact hnames

/-- The names of declared types differ, and so do those of the variants of one enum; nothing else
keeps the names of classes apart. It is enough that no declared name begins with that of an enum. -/
theorem class_names_nodup_iff (h : emit ds = .ok t) :
    ((t.clientClasses.map (·.name)).Nodup ↔ ClassesApart ds) ∧
      (OwnersApart ds → (t.clientClasses.map (·.name)).Nodup) := by
  obtain ⟨refer, hlaid⟩ := exists_laidOut h
  have hnodup : ClassesApart ds → (ds.flatMap classNames).Nodup :=
    fun hapart => hapart.nodup hlaid.emittable.names hlaid.emittable.parts
  rw [hlaid.classNames_eq]
  exact ⟨⟨classesApart_of_nodup, hnodup⟩, fun howners => hnodup howners.classesApart⟩

theorem class_names_nodup_vault : emit vault = .ok vaultTable ∧ OwnersApart vault ∧
    (vaultTable.clientClasses.map (·.name)).Nodup := by
  have h : emit vault = .ok vaultTable := by rfl
  have howners : OwnersApart vault := ⟨by decide, by decide⟩
  exact ⟨h, howners, (class_names_nodup_iff h).2 howners⟩

/-- A struct that is called like a variant of the enum before it. -/
def switchBeside : List Declaration :=
  [⟨"Switch", .enum [⟨"On", .unit⟩] .one⟩, ⟨"SwitchOn", .struct []⟩]

/-- Both are emitted, and the module has two classes of the name `SwitchOn`. -/
theorem switchBeside_classes : ∃ t, emit switchBeside = .ok t ∧
    t.clientClasses.map (·.name) = ["Switch", "SwitchOn", "SwitchOn"] ∧
    ¬(t.clientClasses.map (·.name)).Nodup := by
  refine ⟨⟨[("Switch", .enum "Switch" [("On", .struct "SwitchOn" [])] .one),
    ("SwitchOn", .struct "SwitchOn" [])]⟩, by rfl, ?_⟩
  decide

end Table
end WireSchema
