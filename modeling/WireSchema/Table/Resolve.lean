import WireSchema.Declaration
import WireSchema.Layout.Checked

/-!
From type expressions and declarations to layouts, given the layouts of the declarations that they
refer to. `refer` answers for the declared names only, and a declared name hides a primitive.
-/

namespace WireSchema

section
variable {m : Type → Type} [Monad m] [MonadExceptOf SchemaError m]

/-- The layout of an expression that stands in the declaration `owner`. -/
def TypeExpr.resolve (refer : String → Option (m Layout)) (owner : String) :
    TypeExpr → m Layout
  | primitive name =>
    match Primitive.ofText? name with
    | some kind => return .ofPrimitive kind
    | none => throw (.unknownPrimitive name)
  | named name =>
    match refer name with
    | some layout => layout
    | none =>
      match Primitive.ofText? name with
      | some kind => return .ofPrimitive kind
      | none => throw (.unresolvedReference owner name)
  | sequence element => return .sequence "" (← element.resolve refer owner) none
  | boundedSequence element bound =>
    return .sequence "" (← element.resolve refer owner) (some bound)
  | option inner => return .option "" (← inner.resolve refer owner)
  | map key value =>
    return .map "" (← key.resolve refer owner) (← value.resolve refer owner) none
  | boundedMap key value bound =>
    return .map "" (← key.resolve refer owner) (← value.resolve refer owner) (some bound)
  | array element length => return .array "" (← element.resolve refer owner) length
  | bytes width => return .ofPrimitive (.fixedBytes width)
  | boundedString bound => return .ofPrimitive (.string (some bound))

namespace Declaration

def checked (result : Except SchemaError Layout) : m Layout :=
  match result with
  | .ok layout => return layout
  | .error error => throw error

def resolveFields (refer : String → Option (m Layout)) (owner : String) (fields : List Field) :
    m (List (String × Layout)) :=
  (fields.filter (!·.skip)).mapM fun field => do
    return (field.name, ← field.type.resolve refer owner)

def resolveMembers (refer : String → Option (m Layout)) (owner : String)
    (members : List TypeExpr) : m (List Layout) :=
  members.mapM (·.resolve refer owner)

/-- The payload of a variant bears the names of the enum and of the variant, one after the other. -/
def Variant.payloadName (owner : String) (variant : Variant) : String :=
  owner ++ variant.name

def Variant.resolve (refer : String → Option (m Layout)) (owner : String) (variant : Variant) :
    m (String × Layout) := do
  let name := variant.payloadName owner
  let payload ← match variant.payload with
    | .unit => pure (Layout.struct name [])
    | .named fields => do checked (Layout.checkedStruct name (← resolveFields refer owner fields))
    | .unnamed members => do pure (.tuple name (← resolveMembers refer owner members))
  return (variant.name, payload)

/-- The layout of a declaration, named like it unless it is an alias. -/
def resolve (refer : String → Option (m Layout)) (d : Declaration) : m Layout := do
  match d.body with
  | .struct fields => checked (Layout.checkedStruct d.name (← resolveFields refer d.name fields))
  | .tuple members => return .tuple d.name (← resolveMembers refer d.name members)
  | .enum variants tag =>
    checked (Layout.checkedEnum d.name (← variants.mapM (·.resolve refer d.name)) tag)
  | .alias target => target.resolve refer d.name

end Declaration
end

end WireSchema
