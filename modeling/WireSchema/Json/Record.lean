import WireSchema.Json

/-!
JSON values as records: objects, or arrays of their entries in order. Entries of other names are
passed over in an object, and an array may leave out entries at its end that need not be given.
-/

namespace WireSchema

/-- Why a JSON value stands for nothing. -/
inductive JsonFault
  | shape
  | tagWidth (width : Nat)
  deriving Repr, DecidableEq, Inhabited

/-- Only a wrong tag width has a message. -/
def JsonFault.message? : JsonFault → Option String
  | .shape => none
  | .tagWidth width => some s!"tag width must be 1, 2 or 4 bytes, got {width}"

namespace Json

def optional (entries : List (String × Json)) (key : String) : Except JsonFault (Option Json) :=
  match entry? entries key with
  | some value => .ok value
  | none => .error .shape

def required (entries : List (String × Json)) (key : String) : Except JsonFault Json := do
  match ← optional entries key with
  | some value => return value
  | none => throw .shape

def asText : Json → Except JsonFault String
  | string s => .ok s
  | _ => .error .shape

def asBool : Json → Except JsonFault Bool
  | bool b => .ok b
  | _ => .error .shape

/-- An array, whose items are read from left to right. -/
def asList {α : Type} (item : Json → Except JsonFault α) : Json → Except JsonFault (List α)
  | array items => items.mapM item
  | _ => .error .shape

/-- The end of a record written as an array. -/
def noMore : List Json → Except JsonFault Unit
  | [] => .ok ()
  | _ => .error .shape

/-- An entry that need not be there, at the front of a record written as an array. -/
def nextItem {α : Type} (default : α) (item : Json → Except JsonFault α) :
    List Json → Except JsonFault (α × List Json)
  | [] => .ok (default, [])
  | value :: rest => do return (← item value, rest)

end Json

end WireSchema
