import WireSchema.Proofs.CamelCase
import WireSchema.Proofs.ClassNames

/-!
The members of the classes in a client module. Main statement: within each class they are told apart
exactly where the camel case of fields and of variants is; names of the usual spellings always are.
-/

namespace WireSchema
open Text

namespace Declaration

def memberNames (fields : List Field) : List String :=
  (keptFields fields).map fun field => lowerCamelCase field.name

def Variant.DistinctMembers (variant : Variant) : Prop :=
  match variant.payload with
  | .named fields => (memberNames fields).Nodup
  | .unit | .unnamed _ => True

/-- Camel case tells the fields that are laid out side by side apart, and the variants with the name
of the enum before them. -/
def DistinctMembers (d : Declaration) : Prop :=
  match d.body with
  | .struct fields => (memberNames fields).Nodup
  | .enum variants _ =>
    (variants.map fun variant => lowerCamelCase (variant.payloadName d.name)).Nodup ∧
      ∀ variant ∈ variants, variant.DistinctMembers
  | .tuple _ | .alias _ => True

def Variant.Conventional (variant : Variant) : Prop :=
  match variant.payload with
  | .named fields => ∀ field ∈ keptFields fields, SnakeCase field.name
  | .unit | .unnamed _ => True

/-- Fields are named in words with underscores between them, enums and variants in capital words. -/
def Conventional (d : Declaration) : Prop :=
  match d.body with
  | .struct fields => ∀ field ∈ keptFields fields, SnakeCase field.name
  | .enum variants _ =>
    ∀ variant ∈ variants, CapitalCase (variant.payloadName d.name) ∧ variant.Conventional
  | .tuple _ | .alias _ => True

theorem nodup_memberNames {fields : List Field} (h : ((keptFields fields).map (·.name)).Nodup)
    (hnames : ∀ field ∈ keptFields fields, SnakeCase field.name) : (memberNames fields).Nodup := by
  have hsnake := List.forall_mem_map.mpr hnames
  have hnodup := h.map_on fun name hname other hother =>
    (hsnake name hname).eq_of_lowerCamelCase (hsnake other hother)
  rwa [List.map_map] at hnodup

theorem Variant.Conventional.distinctMembers {variant : Variant} (h : variant.Conventional)
    (hparts : variant.DistinctFields) : variant.DistinctMembers := by
  obtain ⟨name, payload⟩ := variant
  cases payload with
  | named fields => exact nodup_memberNames hparts h
  | _ => trivial

theorem Conventional.distinctMembers {d : Declaration} (h : d.Conventional)
    (hparts : d.DistinctParts) : d.DistinctMembers := by
  obtain ⟨name, body⟩ := d
  cases body with
  | struct fields => exact nodup_memberNames hparts h
  | enum variants tag =>
    refine ⟨?_, fun variant hvariant => (h variant hvariant).2.distinctMembers
      (hparts.2 variant hvariant)⟩
    have hcapital := List.forall_mem_map.mpr fun variant hvariant => (h variant hvariant).1
    have hnodup := (nodup_variantClasses hparts).map_on fun variant hvariant other hother =>
      (hcapital variant hvariant).eq_of_lowerCamelCase (hcapital other hother)
    rwa [List.map_map] at hnodup
  | _ => trivial

end Declaration

namespace ClientClass

/-- No two members have the same name. -/
def DistinctMembers (c : ClientClass) : Prop :=
  (c.members.map (·.name)).Nodup

theorem position_eq_of_name {i j : Nat} {layout layout' : Layout}
    (h : (ClientMember.ofPosition i layout).name = (ClientMember.ofPosition j layout').name) :
    i = j := by
  have hdigits := congrArg String.toList h
  rw [toList_ofPosition_name, toList_ofPosition_name, List.append_cancel_left_eq] at hdigits
  exact eq_of_digits_eq hdigits

theorem distinctMembers_tuple (name typeName : String) (members : List Layout) :
    (ofLayout name (.tuple typeName members)).DistinctMembers := by
  refine List.pairwise_map.mpr (List.pairwise_iff_getElem.mpr fun i j hi hj hlt heq => ?_)
  have hmembers : (ofLayout name (.tuple typeName members)).members =
    members.mapIdx ClientMember.ofPosition := rfl
  simp only [hmembers, List.getElem_mapIdx] at heq
  exact absurd (position_eq_of_name heq) (Nat.ne_of_lt hlt)

variable (refer : String → Option Layout)
open Declaration

theorem distinctMembers_struct (name typeName : String) (fields : List Field) :
    (ofLayout name (.struct typeName (layoutFields refer fields))).DistinctMembers ↔
      (memberNames fields).Nodup := by
  simp [DistinctMembers, ofLayout, layoutFields, memberNames, ClientMember.ofField,
    ClientMember.ofLayout, Function.comp_def]

theorem distinctMembers_variant (name owner : String) (variant : Variant) :
    (ofLayout name (variant.layout refer owner).2).DistinctMembers ↔ variant.DistinctMembers := by
  obtain ⟨own, payload⟩ := variant
  cases payload with
  | unit => exact iff_of_true List.nodup_nil trivial
  | named fields => exact distinctMembers_struct refer name _ fields
  | unnamed members => exact iff_of_true (distinctMembers_tuple name _ _) trivial

theorem distinctMembers_entry {d : Declaration} (h : ¬d.isAlias) :
    (∀ c ∈ ofEntry (d.name, d.layout refer), c.DistinctMembers) ↔ d.DistinctMembers := by
  obtain ⟨name, body⟩ := d
  cases body with
  | struct fields =>
    exact List.forall_mem_singleton.trans (distinctMembers_struct refer name name fields)
  | tuple members =>
    exact List.forall_mem_singleton.trans (iff_of_true (distinctMembers_tuple name name _) trivial)
  | enum variants tag =>
    refine List.forall_mem_cons.trans (and_congr ?_ ?_)
    · simp [DistinctMembers, Variant.layout, ClientMember.ofVariantClass, Variant.payloadName,
        Function.comp_def]
    · simp only [List.forall_mem_map]
      exact forall₂_congr fun variant _ => distinctMembers_variant refer _ name variant
  | «alias» target => exact absurd rfl h

end ClientClass

namespace Table
open Declaration
variable {ds : List Declaration} {t : Table} {refer : String → Option Layout}

theorem LaidOut.distinctMembers_iff (h : LaidOut ds t refer) :
    (∀ c ∈ t.clientClasses, c.DistinctMembers) ↔ ∀ d ∈ ds, d.DistinctMembers := by
  rw [clientClasses, h.table, laidOut_eq]
  constructor
  · intro hclasses d hd
    by_cases halias : d.isAlias
    · obtain ⟨target, hbody⟩ := exists_target halias
      rw [DistinctMembers, hbody]
      trivial
    · refine (ClientClass.distinctMembers_entry refer halias).mp fun c hc => hclasses c ?_
      have hkept : d ∈ ds.filter (!·.isAlias) := List.mem_filter.mpr ⟨hd, by simpa using halias⟩
      exact List.mem_flatMap.mpr ⟨_, List.mem_map_of_mem hkept, hc⟩
  · intro hds c hc
    obtain ⟨entry, hentry, hc⟩ := List.mem_flatMap.mp hc
    obtain ⟨d, hd, rfl⟩ := List.mem_map.mp hentry
    obtain ⟨hd, halias⟩ := List.mem_filter.mp hd
    exact (ClientClass.distinctMembers_entry refer (by simpa using halias)).mpr (hds d hd) c hc

/-- Emission compares names as they are spelled, and the module gives them in camel case. What is
spelled apart and has the same camel case is one member twice. -/
theorem member_names_nodup_iff (h : emit ds = .ok t) :
    ((∀ c ∈ t.clientClasses, (c.members.map (·.name)).Nodup) ↔ ∀ d ∈ ds, d.DistinctMembers) ∧
      ((∀ d ∈ ds, d.Conventional) → ∀ c ∈ t.clientClasses, (c.members.map (·.name)).Nodup) := by
  obtain ⟨refer, hlaid⟩ := exists_laidOut h
  have hiff := hlaid.distinctMembers_iff
  refine ⟨hiff, fun hconventional => hiff.mpr fun d hd => ?_⟩
  exact (hconventional d hd).distinctMembers (hlaid.emittable.parts d hd)

theorem conventional_vault : ∀ d ∈ vault, d.Conventional := by
  have hstate : ∀ name : String, isWordFrom Char.isUpper name.toList →
      CapitalCase ("State" ++ name) :=
    fun name h => .append (by decide) (by decide) (.word h)
  simp only [vault, List.forall_mem_cons, List.not_mem_nil, false_imp_iff, implies_true, and_true]
  refine ⟨?_, trivial, ?_, trivial⟩
  · exact List.forall_mem_cons.mpr ⟨.word (by decide), List.forall_mem_singleton.mpr
      (.word (by decide))⟩
  · exact List.forall_mem_cons.mpr ⟨⟨hstate "Open" (by decide), trivial⟩,
      List.forall_mem_singleton.mpr ⟨hstate "Held" (by decide), trivial⟩⟩

theorem member_names_nodup_vault : emit vault = .ok vaultTable ∧
    (∀ d ∈ vault, d.Conventional) ∧
    ∀ c ∈ vaultTable.clientClasses, (c.members.map (·.name)).Nodup := by
  have h : emit vault = .ok vaultTable := by rfl
  exact ⟨h, conventional_vault, (member_names_nodup_iff h).2 conventional_vault⟩

/-- Two fields that differ in spelling only. -/
def twinFields : List Declaration :=
  [⟨"Pair", .struct [⟨"part_a", .named "u8", false⟩, ⟨"partA", .named "u8", false⟩]⟩]

/-- They make a struct with two fields, and its class has the member `partA` twice. -/
theorem twinFields_members : ∃ t, emit twinFields = .ok t ∧
    t.clientClasses.map (fun c => c.members.map (·.name)) = [["partA", "partA"]] ∧
    ¬∀ c ∈ t.clientClasses, (c.members.map (·.name)).Nodup := by
  refine ⟨⟨[("Pair", .struct "Pair" [("part_a", .ofPrimitive (.int .u8)),
    ("partA", .ofPrimitive (.int .u8))])]⟩, by rfl, ?_⟩
  decide +kernel

end Table
end WireSchema
