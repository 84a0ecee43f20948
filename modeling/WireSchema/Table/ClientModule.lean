import WireSchema.Table
import WireSchema.Text.CamelCase

/-!
The module that gives borsh-js clients the types of a table: a class for each struct, each enum and
each of its variants, then a map from the classes to their schemas.
-/

namespace WireSchema
namespace Layout

def classTypeOfPrimitive : Primitive → String
  | .bool => "boolean"
  | .int kind => if 8 ≤ kind.size then "BN" else "number"
  | .string _ => "string"
  | .fixedBytes width => s!"[{width.toNat}]"
  | .publicKey => "PublicKey"

def isAnonymousOption : Layout → Bool
  | .option name _ => name == ""
  | _ => false

/-- An array of options needs parentheses. -/
def classArray (element : Layout) (type : String) : String :=
  if element.isAnonymousOption then s!"({type})[]" else s!"{type}[]"

/-- The type of a class member. -/
def classType (layout : Layout) : String :=
  if layout.isNamed then layout.name
  else match layout with
  | .primitive _ kind => classTypeOfPrimitive kind
  | .array _ element _ | .sequence _ element _ => classArray element (classType element)
  | .map _ key value _ => s!"Map<{classType key}, {classType value}>"
  | .option _ inner => s!"{classType inner} | null"
  | .struct _ _ | .tuple _ _ | .enum _ _ _ => "any"

/-- Signs are not told, nor are truth values from bytes. -/
def schemaTypeOfPrimitive : Primitive → String
  | .bool => "'u8'"
  | .int kind => s!"'u{8 * kind.size}'"
  | .string _ => "'string'"
  | .fixedBytes width => s!"[{width.toNat}]"
  | .publicKey => "'publicKey'"

/-- The type in the schema of a class. Bounds are not told. -/
def schemaType (layout : Layout) : String :=
  if layout.isNamed then layout.name
  else match layout with
  | .primitive _ kind => schemaTypeOfPrimitive kind
  | .array _ element length => s!"[{schemaType element}, {length.toNat}]"
  | .sequence _ element _ => s!"[{schemaType element}]"
  | .map _ key value _ =>
    s!"\x7b kind: 'map', key: {schemaType key}, value: {schemaType value} \x7d"
  | .option _ inner => s!"\x7b kind: 'option', type: {schemaType inner} \x7d"
  | .struct _ _ | .tuple _ _ | .enum _ _ _ => "undefined"

end Layout

structure ClientMember where
  name : String
  classType : String
  schemaType : String
  deriving Repr, DecidableEq, Inhabited

inductive ClientKind
  | struct
  | enum
  deriving Repr, DecidableEq, Inhabited

structure ClientClass where
  name : String
  kind : ClientKind
  members : List ClientMember
  deriving Repr, DecidableEq, Inhabited

namespace ClientMember

def ofLayout (name : String) (layout : Layout) : ClientMember :=
  ⟨name, layout.classType, layout.schemaType⟩

def ofField (field : String × Layout) : ClientMember :=
  ofLayout (Text.lowerCamelCase field.1) field.2

def ofPosition (position : Nat) (layout : Layout) : ClientMember :=
  ofLayout s!"unnamed_{position}" layout

/-- A variant refers to its class by a member named like it. -/
def ofVariantClass (name : String) : ClientMember :=
  ⟨Text.lowerCamelCase name, name, name⟩

end ClientMember

namespace ClientKind

def base : ClientKind → String
  | .struct => "Struct"
  | .enum => "Enum"

def head : ClientKind → String
  | .struct => "kind: 'struct', fields:"
  | .enum => "kind: 'enum', field: 'enum', values:"

end ClientKind

namespace ClientClass

/-- A class for one layout. What is neither a struct nor a tuple is its only member. -/
def ofLayout (name : String) (layout : Layout) : ClientClass :=
  match layout with
  | .struct _ fields => ⟨name, .struct, fields.map .ofField⟩
  | .tuple _ members => ⟨name, .struct, members.mapIdx .ofPosition⟩
  | layout => ⟨name, .struct, [.ofPosition 0 layout]⟩

/-- The classes of a table entry. Those of its variants follow an enum. -/
def ofEntry (entry : String × Layout) : List ClientClass :=
  match entry.2 with
  | .enum _ variants _ =>
    ⟨entry.1, .enum, variants.map fun v => .ofVariantClass (entry.1 ++ v.1)⟩ ::
      variants.map fun v => ofLayout (entry.1 ++ v.1) v.2
  | layout => [ofLayout entry.1 layout]

def renderClass (c : ClientClass) : String :=
  s!"export class {c.name} extends {c.kind.base} \x7b" ++
    String.join (c.members.map fun m => s!"\n    {m.name}: {m.classType};") ++ "\n\x7d;\n\n"

def renderSchema (c : ClientClass) : String :=
  s!"\n    [\n            {c.name},\n            \x7b\n                {c.kind.head} [" ++
    String.join (c.members.map fun m => s!"\n\t\t\t['{m.name}', {m.schemaType}],") ++
    "\n                ],\n            \x7d,\n    ],"

end ClientClass

namespace Table

def clientHeader : String :=
  "import \x7b PublicKey \x7d from \"@solana/web3.js\";\n" ++
    "import BN from \"bn.js\";\n" ++
    "import Enum from \"./extensions/enum\";\n" ++
    "import Struct from \"./extensions/struct\";\n" ++
    "import \x7b borshPublicKey \x7d from \"./extensions/publicKey\";\n\n" ++
    "borshPublicKey();\n\n"

def clientClasses (t : Table) : List ClientClass :=
  t.entries.flatMap ClientClass.ofEntry

def clientModule (t : Table) : String :=
  let classes := t.clientClasses
  clientHeader ++ String.join (classes.map (·.renderClass)) ++
    "export const SCHEMA = new Map<any, any>([" ++
    String.join (classes.map (·.renderSchema)) ++ "\n]);\n"

end Table
end WireSchema
