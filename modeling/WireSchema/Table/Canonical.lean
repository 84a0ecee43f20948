import WireSchema.Digest.Md5
import WireSchema.Table

/-!
The canonical bytes of a table and their fingerprint. Counts and lengths take eight bytes, so none
is cut short. A child with a name is written as a reference, one without in place.
-/

namespace WireSchema
namespace Canonical

def count (n : Nat) : Bytes :=
  Bytes.ofNatLE 8 n

def text (s : String) : Bytes :=
  let bs := Bytes.ofText s
  count bs.length ++ bs

def bound : Option UInt64 → Bytes
  | some max => 1 :: count max.toNat
  | none => [0]

def integerCode : IntKind → UInt8
  | .u8 => 1
  | .u16 => 2
  | .u32 => 3
  | .u64 => 4
  | .u128 => 5
  | .i8 => 6
  | .i16 => 7
  | .i32 => 8
  | .i64 => 9
  | .i128 => 10

def primitive : Primitive → Bytes
  | .bool => [0]
  | .int kind => [integerCode kind]
  | .string max => 11 :: bound max
  | .fixedBytes width => 12 :: count width.toNat
  | .publicKey => [13]

/-- A child, whose bytes in place are `body`. -/
@[macro_inline]
def child (layout : Layout) (body : Bytes) : Bytes :=
  if layout.isNamed then 1 :: text layout.name else 0 :: body

end Canonical

namespace Layout
open Canonical (child count text bound)

mutual

/-- What a layout is, without its name. -/
def canonical : Layout → Bytes
  | .primitive _ kind => 0 :: Canonical.primitive kind
  | .array _ element length => 1 :: child element (canonical element) ++ count length.toNat
  | .sequence _ element max => 2 :: child element (canonical element) ++ bound max
  | .map _ key value max =>
    3 :: child key (canonical key) ++ child value (canonical value) ++ bound max
  | .option _ inner => 4 :: child inner (canonical inner)
  | .struct _ fields => 5 :: count fields.length ++ canonicalFields fields
  | .tuple _ members => 6 :: count members.length ++ canonicalMembers members
  | .enum _ variants tag =>
    7 :: UInt8.ofNat tag.size :: count variants.length ++ canonicalVariants variants

def canonicalFields : List (String × Layout) → Bytes
  | [] => []
  | (name, layout) :: rest => text name ++ child layout (canonical layout) ++ canonicalFields rest

def canonicalMembers : List Layout → Bytes
  | [] => []
  | layout :: rest => child layout (canonical layout) ++ canonicalMembers rest

/-- Payloads are written in place although they have names. -/
def canonicalVariants : List (String × Layout) → Bytes
  | [] => []
  | (name, payload) :: rest => text name ++ canonical payload ++ canonicalVariants rest

end

end Layout

namespace Table
open Canonical (count text)

def canonical (t : Table) : Bytes :=
  count t.size ++ t.entries.flatMap fun (name, layout) => text name ++ layout.canonical

def fingerprint (t : Table) : Bytes :=
  Digest.md5 t.canonical

end Table

/-- How a fingerprint is shown where its kind must be told. -/
def Digest.describe (digest : Bytes) : String :=
  s!"SchemaHash({digest.toHex})"

end WireSchema
