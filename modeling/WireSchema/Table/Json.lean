import WireSchema.Json
import WireSchema.Table

/-!
The JSON form of a table. A child with a name is written as a reference, one without in place.
-/

namespace WireSchema
namespace Layout

@[macro_inline]
def jsonChild (layout : Layout) (body : Json) : Json :=
  if layout.isNamed then .object [("ref", .string layout.name)] else body

/-- A bound is written only if there is one. -/
def jsonBound : Option UInt64 → List (String × Json)
  | some max => [("max_length", .int max.toNat)]
  | none => []

def jsonPrimitive : Primitive → Json
  | .string (some max) => .object [("kind", .string "string"), ("max_length", .int max.toNat)]
  | kind => .string kind.name

/-- A body with a name. What is not written as an object becomes its type. -/
def jsonNamed (name : String) : Json → Json
  | .object entries => .object (("name", .string name) :: entries)
  | body => .object [("name", .string name), ("type", body)]

mutual

def toJson : Layout → Json
  | .primitive _ kind => jsonPrimitive kind
  | .array _ element length =>
    .object [("kind", .string "array"), ("type", jsonChild element (toJson element)),
      ("length", .int length.toNat)]
  | .sequence _ element max =>
    .object (("kind", .string "sequence") :: ("type", jsonChild element (toJson element)) ::
      jsonBound max)
  | .map _ key value max =>
    .object (("kind", .string "map") :: ("key", jsonChild key (toJson key)) ::
      ("value", jsonChild value (toJson value)) :: jsonBound max)
  | .option _ inner =>
    .object [("kind", .string "option"), ("type", jsonChild inner (toJson inner))]
  | .struct _ fields =>
    .object [("kind", .string "struct"), ("fields", .array (fieldsToJson fields))]
  | .tuple _ members =>
    .object [("kind", .string "tuple_struct"), ("members", .array (membersToJson members))]
  | .enum _ variants tag =>
    .object [("kind", .string "enum"), ("tag_width", .int tag.size),
      ("variants", .array (variantsToJson variants))]

def fieldsToJson : List (String × Layout) → List Json
  | [] => []
  | (name, layout) :: rest =>
    .object [("name", .string name), ("type", jsonChild layout (toJson layout))] ::
      fieldsToJson rest

def membersToJson : List Layout → List Json
  | [] => []
  | layout :: rest => jsonChild layout (toJson layout) :: membersToJson rest

/-- Payloads are written in place, under the names of the variants. -/
def variantsToJson : List (String × Layout) → List Json
  | [] => []
  | (name, payload) :: rest => jsonNamed name (toJson payload) :: variantsToJson rest

end

end Layout

def Table.toJson (t : Table) : Json :=
  .object [("types", .array (t.entries.map fun (name, layout) =>
    Layout.jsonNamed name layout.toJson))]

end WireSchema
