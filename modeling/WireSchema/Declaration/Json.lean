import WireSchema.Declaration
import WireSchema.Json.Reader
import WireSchema.Json.Record
import WireSchema.TypeExpr.Parser

/-!
The JSON form of declarations. Records are objects, or arrays of their entries in order, and
entries of other names are passed over. The writer gives every entry, also those that the reader
does not ask for.
-/

namespace WireSchema

open Json (asText asBool asList noMore nextItem optional required)

def TypeExpr.ofJson (json : Json) : Except JsonFault TypeExpr := do
  match TypeExpr.parse (← asText json) with
  | .ok type => return type
  | .error _ => throw .shape

def TypeExpr.toJson (type : TypeExpr) : Json :=
  .string type.render

/-- A width is a byte before it is one of those allowed. -/
def TagWidth.ofJson : Json → Except JsonFault TagWidth
  | .int n =>
    if 0 ≤ n ∧ n < 256 then
      match TagWidth.ofSize? n.toNat with
      | some tag => .ok tag
      | none => .error (.tagWidth n.toNat)
    else .error .shape
  | _ => .error .shape

namespace Declaration

def Field.ofJson : Json → Except JsonFault Field
  | .object entries => do
    let name ← asText (← required entries "name")
    let skip ← match ← optional entries "skip" with
      | some skip => asBool skip
      | none => pure false
    return ⟨name, ← TypeExpr.ofJson (← required entries "ty"), skip⟩
  | .array (name :: type :: rest) => do
    let (skip, rest) ← nextItem false asBool rest
    noMore rest
    return ⟨← asText name, ← TypeExpr.ofJson type, skip⟩
  | _ => .error .shape

def Field.toJson (field : Field) : Json :=
  .object [("name", .string field.name), ("ty", field.type.toJson), ("skip", .bool field.skip)]

def Payload.ofJson : Json → Except JsonFault Payload
  | .string "unit" => .ok .unit
  | .object [("unit", .null)] => .ok .unit
  | .object [("named", fields)] => do return .named (← asList Field.ofJson fields)
  | .object [("unnamed", members)] => do return .unnamed (← asList TypeExpr.ofJson members)
  | _ => .error .shape

def Payload.toJson : Payload → Json
  | .unit => .string "unit"
  | .named fields => .object [("named", .array (fields.map Field.toJson))]
  | .unnamed members => .object [("unnamed", .array (members.map TypeExpr.toJson))]

def Variant.ofJson : Json → Except JsonFault Variant
  | .object entries => do
    let payload ← match ← optional entries "fields" with
      | some payload => Payload.ofJson payload
      | none => pure .unit
    return ⟨← asText (← required entries "name"), payload⟩
  | .array (name :: rest) => do
    let (payload, rest) ← nextItem .unit Payload.ofJson rest
    noMore rest
    return ⟨← asText name, payload⟩
  | _ => .error .shape

def Variant.toJson (variant : Variant) : Json :=
  .object [("name", .string variant.name), ("fields", variant.payload.toJson)]

/-- An object gives the tag width before the variants, an array after them. -/
def enumOfJson : Json → Except JsonFault Body
  | .object entries => do
    let tag ← match ← optional entries "tag_width" with
      | some tag => TagWidth.ofJson tag
      | none => pure .one
    return .enum (← asList Variant.ofJson (← required entries "variants")) tag
  | .array (variants :: rest) => do
    let variants ← asList Variant.ofJson variants
    let (tag, rest) ← nextItem .one TagWidth.ofJson rest
    noMore rest
    return .enum variants tag
  | _ => .error .shape

def Body.ofJson : Json → Except JsonFault Body
  | .object [("struct", fields)] => do return .struct (← asList Field.ofJson fields)
  | .object [("tuple_struct", members)] => do return .tuple (← asList TypeExpr.ofJson members)
  | .object [("enum", body)] => enumOfJson body
  | .object [("alias", target)] => do return .alias (← TypeExpr.ofJson target)
  | _ => .error .shape

def Body.toJson : Body → Json
  | .struct fields => .object [("struct", .array (fields.map Field.toJson))]
  | .tuple members => .object [("tuple_struct", .array (members.map TypeExpr.toJson))]
  | .enum variants tag =>
    .object [("enum", .object [("variants", .array (variants.map Variant.toJson)),
      ("tag_width", .int tag.size)])]
  | .alias target => .object [("alias", target.toJson)]

/-- An object gives the body before the name, an array after it. -/
def ofJson : Json → Except JsonFault Declaration
  | .object entries => do
    let body ← Body.ofJson (← required entries "kind")
    return ⟨← asText (← required entries "name"), body⟩
  | .array (name :: body :: rest) => do
    let name ← asText name
    let body ← Body.ofJson body
    noMore rest
    return ⟨name, body⟩
  | _ => .error .shape

def toJson (d : Declaration) : Json :=
  .object [("name", .string d.name), ("kind", d.body.toJson)]

def listOfJson : Json → Except JsonFault (List Declaration) :=
  asList ofJson

def listToJson (ds : List Declaration) : Json :=
  .array (ds.map toJson)

/-- Declarations in JSON text, where no entry may be given twice. -/
def listOfText? (s : String) : Option (List Declaration) := do
  (listOfJson (← Json.parse? s)).toOption

end Declaration
end WireSchema
