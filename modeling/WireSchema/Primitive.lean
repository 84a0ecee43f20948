import WireSchema.Integer
import WireSchema.Text.Blank
import WireSchema.Text.Decimal

/-!
The primitive types and the vocabulary that names them.
-/

namespace WireSchema

inductive Primitive
  | bool
  | int (kind : IntKind)
  | string (bound : Option UInt64)
  | fixedBytes (width : UInt64)
  | publicKey
  deriving Repr, DecidableEq, Inhabited

namespace Primitive

def publicKeyWidth : Nat := 32

/-- The encoded width in bytes, where every value has the same. -/
def size? : Primitive → Option Nat
  | .bool => some 1
  | .int kind => some kind.size
  | .string _ => none
  | .fixedBytes width => some width.toNat
  | .publicKey => some publicKeyWidth

/-- The canonical name. It does not show the bound of a string. -/
def name : Primitive → String
  | .bool => "bool"
  | .int kind => kind.name
  | .string _ => "string"
  | .fixedBytes width => s!"[{width.toNat}]"
  | .publicKey => "publicKey"

def signed : Primitive → Bool
  | .int kind => kind.signed
  | _ => false

def isInteger : Primitive → Bool
  | .int _ => true
  | _ => false

/-- The bare words of the vocabulary. -/
def words : List (String × Primitive) :=
  ("bool", .bool) :: IntKind.all.map (fun kind => (kind.name, .int kind)) ++
    [("string", .string none), ("String", .string none),
      ("publicKey", .publicKey), ("Pubkey", .publicKey)]

def ofWord? (word : String) : Option Primitive :=
  words.lookup word

/-- The text between an opening and a closing square bracket at the two ends. -/
def unbracket? : List Char → Option (List Char)
  | '[' :: rest =>
    match rest.reverse with
    | ']' :: inner => some inner.reverse
    | _ => none
  | _ => none

/-- `[N]` and `[u8; N]`, with blanks around each part. -/
def ofBrackets? (s : List Char) : Option Primitive := do
  let inner := Text.trim (← unbracket? s)
  let width ←
    match inner.dropWhile (· != ';') with
    | [] => some inner
    | _ :: width =>
      if Text.trim (inner.takeWhile (· != ';')) = ['u', '8'] then some (Text.trim width) else none
  return .fixedBytes (← Text.readUInt64? width)

/-- Reads a primitive by name; blanks at the ends do not matter. -/
def ofText? (s : String) : Option Primitive :=
  let trimmed := Text.trim s.toList
  (ofWord? (String.ofList trimmed)).or (ofBrackets? trimmed)

def isName (s : String) : Bool :=
  (ofText? s).isSome

end Primitive
end WireSchema
