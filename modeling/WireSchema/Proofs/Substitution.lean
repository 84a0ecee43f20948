import WireSchema.Declaration
import WireSchema.Primitive
import WireSchema.Table.Resolve

/-!
What declarations refer to, and their layouts once the layouts of the declared names are known.
Nothing here fails or keeps a memo; the emission of tables is measured against these definitions.
Main statement: a layout depends only on what is put for the names that are referred to.
-/

namespace WireSchema

/-- The layout of a primitive by its name. A name that is none is given some layout all the same. -/
def Layout.ofWord (name : String) : Layout :=
  .ofPrimitive ((Primitive.ofText? name).getD default)

namespace TypeExpr

/-- The names of declared types, or of primitives where no type of that name is declared. -/
def references : TypeExpr → List String
  | named name => [name]
  | sequence element | boundedSequence element _ | option element | array element _ =>
    element.references
  | map key value | boundedMap key value _ => key.references ++ value.references
  | primitive _ | bytes _ | boundedString _ => []

/-- The names that have to be primitives. -/
def primitives : TypeExpr → List String
  | primitive name => [name]
  | sequence element | boundedSequence element _ | option element | array element _ =>
    element.primitives
  | map key value | boundedMap key value _ => key.primitives ++ value.primitives
  | named _ | bytes _ | boundedString _ => []

/-- The layout of an expression, with `refer` put for the names of declared types. -/
def layout (refer : String → Option Layout) : TypeExpr → Layout
  | primitive name => .ofWord name
  | named name => (refer name).getD (.ofWord name)
  | sequence element => .sequence "" (element.layout refer) none
  | boundedSequence element bound => .sequence "" (element.layout refer) (some bound)
  | option inner => .option "" (inner.layout refer)
  | map key value => .map "" (key.layout refer) (value.layout refer) none
  | boundedMap key value bound => .map "" (key.layout refer) (value.layout refer) (some bound)
  | array element length => .array "" (element.layout refer) length
  | bytes width => .ofPrimitive (.fixedBytes width)
  | boundedString bound => .ofPrimitive (.string (some bound))

theorem layout_congr {type : TypeExpr} {refer refer' : String → Option Layout}
    (h : ∀ name ∈ type.references, refer name = refer' name) :
    type.layout refer = type.layout refer' := by
  induction type with
  | primitive name => rfl
  | named name => rw [layout, layout, h name (List.mem_singleton_self name)]
  | sequence element ih => rw [layout, layout, ih h]
  | boundedSequence element bound ih => rw [layout, layout, ih h]
  | option inner ih => rw [layout, layout, ih h]
  | map key value ihk ihv =>
    obtain ⟨hk, hv⟩ := List.forall_mem_append.mp h
    rw [layout, layout, ihk hk, ihv hv]
  | boundedMap key value bound ihk ihv =>
    obtain ⟨hk, hv⟩ := List.forall_mem_append.mp h
    rw [layout, layout, ihk hk, ihv hv]
  | array element length ih => rw [layout, layout, ih h]
  | bytes width => rfl
  | boundedString bound => rfl

end TypeExpr

namespace Declaration

/-- The fields that are laid out. -/
def keptFields (fields : List Field) : List Field :=
  fields.filter (!·.skip)

def Variant.types (variant : Variant) : List TypeExpr :=
  match variant.payload with
  | .unit => []
  | .named fields => (keptFields fields).map (·.type)
  | .unnamed members => members

/-- The types of a declaration, those of skipped fields left out. -/
def types (d : Declaration) : List TypeExpr :=
  match d.body with
  | .struct fields => (keptFields fields).map (·.type)
  | .tuple members => members
  | .enum variants _ => variants.flatMap Variant.types
  | .alias target => [target]

theorem mem_types_of_variant {name : String} {variants : List Variant} {tag : TagWidth}
    {variant : Variant} {type : TypeExpr} (hvariant : variant ∈ variants)
    (htype : type ∈ variant.types) : type ∈ types ⟨name, .enum variants tag⟩ :=
  List.mem_flatMap.mpr ⟨variant, hvariant, htype⟩

def references (d : Declaration) : List String :=
  d.types.flatMap TypeExpr.references

def primitives (d : Declaration) : List String :=
  d.types.flatMap TypeExpr.primitives

def Variant.DistinctFields (variant : Variant) : Prop :=
  match variant.payload with
  | .named fields => ((keptFields fields).map (·.name)).Nodup
  | .unit | .unnamed _ => True

/-- No two fields that are laid out side by side have the same name, and no two variants have. -/
def DistinctParts (d : Declaration) : Prop :=
  match d.body with
  | .struct fields => ((keptFields fields).map (·.name)).Nodup
  | .enum variants _ =>
    (variants.map (·.name)).Nodup ∧ ∀ variant ∈ variants, variant.DistinctFields
  | .tuple _ | .alias _ => True

section Layouts
variable (refer : String → Option Layout)

def layoutFields (fields : List Field) : List (String × Layout) :=
  (keptFields fields).map fun field => (field.name, field.type.layout refer)

def layoutMembers (members : List TypeExpr) : List Layout :=
  members.map (·.layout refer)

def Variant.layout (owner : String) (variant : Variant) : String × Layout :=
  (variant.name,
    match variant.payload with
    | .unit => .struct (variant.payloadName owner) []
    | .named fields => .struct (variant.payloadName owner) (layoutFields refer fields)
    | .unnamed members => .tuple (variant.payloadName owner) (layoutMembers refer members))

/-- The layout of a declaration, with `refer` put for the names of declared types. That of an alias
is the layout of its target. -/
def layout (d : Declaration) : Layout :=
  match d.body with
  | .struct fields => .struct d.name (layoutFields refer fields)
  | .tuple members => .tuple d.name (layoutMembers refer members)
  | .enum variants tag => .enum d.name (variants.map (·.layout refer d.name)) tag
  | .alias target => target.layout refer

end Layouts

section Congruence
variable {refer refer' : String → Option Layout}

theorem layoutFields_congr {fields : List Field}
    (h : ∀ type ∈ (keptFields fields).map (·.type), type.layout refer = type.layout refer') :
    layoutFields refer fields = layoutFields refer' fields := by
  apply List.map_congr_left
  intro field hfield
  rw [h field.type (List.mem_map_of_mem hfield)]

theorem layoutMembers_congr {members : List TypeExpr}
    (h : ∀ type ∈ members, type.layout refer = type.layout refer') :
    layoutMembers refer members = layoutMembers refer' members :=
  List.map_congr_left h

theorem Variant.layout_congr {owner : String} {variant : Variant}
    (h : ∀ type ∈ variant.types, type.layout refer = type.layout refer') :
    variant.layout refer owner = variant.layout refer' owner := by
  obtain ⟨name, payload⟩ := variant
  cases payload with
  | unit => rfl
  | named fields => simp only [Variant.layout, layoutFields_congr h]
  | unnamed members =>
    have hmembers : layoutMembers refer members = layoutMembers refer' members :=
      layoutMembers_congr h
    simp only [Variant.layout, hmembers]

theorem layout_congr {d : Declaration} (h : ∀ name ∈ d.references, refer name = refer' name) :
    d.layout refer = d.layout refer' := by
  have htypes : ∀ type ∈ d.types, type.layout refer = type.layout refer' := by
    intro type htype
    apply TypeExpr.layout_congr
    intro name hname
    exact h name (List.mem_flatMap.mpr ⟨type, htype, hname⟩)
  obtain ⟨name, body⟩ := d
  cases body with
  | struct fields => simp only [layout, layoutFields_congr htypes]
  | tuple members =>
    have hmembers : layoutMembers refer members = layoutMembers refer' members :=
      layoutMembers_congr htypes
    simp only [layout, hmembers]
  | enum variants tag =>
    have hvariants : variants.map (·.layout refer name) = variants.map (·.layout refer' name) := by
      apply List.map_congr_left
      intro variant hvariant
      apply Variant.layout_congr
      intro type htype
      exact htypes type (mem_types_of_variant hvariant htype)
    simp only [layout, hvariants]
  | «alias» target => exact htypes target (List.mem_singleton_self target)

end Congruence

/-- A layout bears the name of its declaration, if that is no alias. -/
theorem layout_name {d : Declaration} (refer : String → Option Layout) (h : ¬d.isAlias) :
    (d.layout refer).name = d.name := by
  obtain ⟨name, body⟩ := d
  cases body with
  | «alias» target => exact absurd rfl h
  | _ => rfl

end Declaration
end WireSchema
