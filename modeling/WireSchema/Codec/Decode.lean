import WireSchema.Value
import WireSchema.Layout.Size
import WireSchema.Codec.Reserve
import WireSchema.Codec.Cursor

/-!
Bytes to values, as a layout directs. A length prefix alone causes no work: elements that take no
bytes are refused, so the number of elements is bounded by the number of bytes. Room for elements is
asked for before they are read; `decode` and its like leave that out and `decodeReserving` and its
like do not.
-/

namespace WireSchema

def decodeLength (bound : Option UInt64) (c : Cursor) : Except CodecError (Nat × Cursor) := do
  let (length, next) ← c.readNat lengthWidth
  checkBound c.offset length bound
  return (length, next)

def decodePrimitive (kind : Primitive) (c : Cursor) : Except CodecError (Value × Cursor) :=
  match kind with
  | .bool => do
    let (byte, next) ← c.readByte
    match byte with
    | 0 => return (.bool false, next)
    | 1 => return (.bool true, next)
    | byte => throw (.invalidBool c.offset byte)
  | .int kind => do
    let (word, next) ← c.readInt kind
    return (.int kind word, next)
  | .string bound => do
    let (length, start) ← decodeLength bound c
    let (bs, next) ← start.readBytes length
    match bs.toText? with
    | some s => return (.string s, next)
    | none => throw (.invalidUtf8 start.offset)
  | .fixedBytes width => do
    let (bs, next) ← c.readBytes width.toNat
    return (.bytes bs, next)
  | .publicKey => do
    let (bs, next) ← c.readBytes Primitive.publicKeyWidth
    return (.bytes bs, next)

section
variable {m : Type → Type} [Monad m] [MonadLiftT (Except CodecError) m]

def decodeMany (decodeOne : Cursor → m (Value × Cursor)) :
    Nat → Cursor → m (List Value × Cursor)
  | 0, c => pure ([], c)
  | count + 1, c => do
    let (value, c) ← decodeOne c
    let (rest, c) ← decodeMany decodeOne count c
    return (value :: rest, c)

/-- Keys are compared by the bytes they were read from; `seen` holds those of the entries before. -/
def decodeEntries (decodeKey decodeValue : Cursor → m (Value × Cursor)) (seen : List Bytes) :
    Nat → Cursor → m (List (Value × Value) × Cursor)
  | 0, c => pure ([], c)
  | count + 1, c => do
    let (key, afterKey) ← decodeKey c
    let ks := afterKey.since c.offset
    checkKey c.offset ks seen
    let (value, afterValue) ← decodeValue afterKey
    let (rest, last) ← decodeEntries decodeKey decodeValue (ks :: seen) count afterValue
    return ((key, value) :: rest, last)

def decodeTagged (typeName : String) (variantCount : Nat) (tag : TagWidth)
    (decodePayload : CodecError → Nat → Cursor → m (Value × Cursor)) (c : Cursor) :
    m (Value × Cursor) := do
  let (discriminant, next) ← c.readNat tag.size
  let unknown := .unknownVariant typeName c.offset discriminant variantCount
  let (payload, last) ← decodePayload unknown discriminant next
  return (.enum (UInt32.ofNat discriminant) payload, last)

namespace Layout

mutual

/-- `reserve` makes room for so many elements of some width before any of them is read. -/
def decodeAtWith (reserve : Nat → Nat → m Unit) (limit room : Nat) (layout : Layout) (c : Cursor) :
    m (Value × Cursor) :=
  match layout with
  | .primitive _ kind => decodePrimitive kind c
  | .array _ element length => do
    let room ← descend limit room
    reserve valueWidth length.toNat
    let (elements, c) ← decodeMany (decodeAtWith reserve limit room element) length.toNat c
    return (.array elements, c)
  | .sequence _ element bound => do
    let room ← descend limit room
    let (count, next) ← decodeLength bound c
    ensure (count = 0 ∨ ¬element.isZeroSized) (.zeroSizedElements c.offset count)
    reserve valueWidth count
    let (elements, last) ← decodeMany (decodeAtWith reserve limit room element) count next
    return (.sequence elements, last)
  | .map _ key content bound => do
    let room ← descend limit room
    let (count, c) ← decodeLength bound c
    reserve entryWidth count
    reserve keyWidth count
    let (entries, c) ← decodeEntries (decodeAtWith reserve limit room key)
      (decodeAtWith reserve limit room content) [] count c
    return (.map entries, c)
  | .option _ inner => do
    let room ← descend limit room
    let (tag, next) ← c.readByte
    match tag with
    | 0 => return (.absent, next)
    | 1 => do
      let (value, last) ← decodeAtWith reserve limit room inner next
      return (.present value, last)
    | tag => (.error (.invalidDiscriminant c.offset tag) : Except CodecError (Value × Cursor))
  | .struct _ fields => do
    let room ← descend limit room
    let (values, c) ← decodeFieldsWith reserve limit room fields c
    return (.struct values, c)
  | .tuple _ members => do
    let room ← descend limit room
    let (values, c) ← decodeMembersWith reserve limit room members c
    return (.tuple values, c)
  | .enum name variants tag => do
    let room ← descend limit room
    decodeTagged name variants.length tag (fun unknown discriminant =>
      decodePayloadWith reserve limit room unknown variants discriminant) c

def decodeFieldsWith (reserve : Nat → Nat → m Unit) (limit room : Nat) :
    List (String × Layout) → Cursor → m (List (String × Value) × Cursor)
  | [], c => pure ([], c)
  | (name, layout) :: fields, c => do
    let (value, c) ← decodeAtWith reserve limit room layout c
    let (rest, c) ← decodeFieldsWith reserve limit room fields c
    return ((name, value) :: rest, c)

def decodeMembersWith (reserve : Nat → Nat → m Unit) (limit room : Nat) :
    List Layout → Cursor → m (List Value × Cursor)
  | [], c => pure ([], c)
  | layout :: members, c => do
    let (value, c) ← decodeAtWith reserve limit room layout c
    let (rest, c) ← decodeMembersWith reserve limit room members c
    return (value :: rest, c)

/-- The payload of the variant at a position, one level further down. -/
def decodePayloadWith (reserve : Nat → Nat → m Unit) (limit room : Nat) (unknown : CodecError) :
    List (String × Layout) → Nat → Cursor → m (Value × Cursor)
  | [], _, _ => (.error unknown : Except CodecError (Value × Cursor))
  | (_, payload) :: _, 0, c => do
    let room ← descend limit room
    decodeAtWith reserve limit room payload c
  | _ :: rest, position + 1, c => decodePayloadWith reserve limit room unknown rest position c

end

/-- The value and the number of bytes that it took. Bytes after it are left alone. -/
def decodeWith (reserve : Nat → Nat → m Unit) (layout : Layout) (limits : Limits)
    (input : Bytes) : m (Value × Nat) := do
  let (value, c) ← layout.decodeAtWith reserve limits.maxDepth limits.maxDepth (.start input)
  return (value, c.offset)

/-- Refuses bytes after the value. -/
def decodeExactWith (reserve : Nat → Nat → m Unit) (layout : Layout) (limits : Limits)
    (input : Bytes) : m Value := do
  let (value, consumed) ← layout.decodeWith reserve limits input
  ensure (consumed = input.length) (.lengthMismatch consumed consumed input.length)
  return value

end Layout
end

/-- Elements take no room. -/
def reserveNothing (_ _ : Nat) : Except CodecError Unit :=
  .ok ()

namespace Layout

/-- Decoding as it is where all room that is asked for can be had. -/
def decodeAt (limit room : Nat) (layout : Layout) (c : Cursor) :
    Except CodecError (Value × Cursor) :=
  layout.decodeAtWith reserveNothing limit room c

def decodeFields (limit room : Nat) (fields : List (String × Layout)) (c : Cursor) :
    Except CodecError (List (String × Value) × Cursor) :=
  decodeFieldsWith reserveNothing limit room fields c

def decodeMembers (limit room : Nat) (members : List Layout) (c : Cursor) :
    Except CodecError (List Value × Cursor) :=
  decodeMembersWith reserveNothing limit room members c

def decodePayload (limit room : Nat) (unknown : CodecError) (variants : List (String × Layout))
    (position : Nat) (c : Cursor) : Except CodecError (Value × Cursor) :=
  decodePayloadWith reserveNothing limit room unknown variants position c

/-- What is decoded where all room that is asked for can be had. -/
def decode (layout : Layout) (limits : Limits) (input : Bytes) :
    Except CodecError (Value × Nat) :=
  layout.decodeWith reserveNothing limits input

def decodeExact (layout : Layout) (limits : Limits) (input : Bytes) :
    Except CodecError Value :=
  layout.decodeExactWith reserveNothing limits input

/-- What is decoded in blocks of memory, each of them as large as the limits and the declared
number of elements say. -/
def decodeReserving (layout : Layout) (limits : Limits) (input : Bytes) :
    Except Halt (Value × Nat) :=
  layout.decodeWith limits.reserve limits input

def decodeExactReserving (layout : Layout) (limits : Limits) (input : Bytes) :
    Except Halt Value :=
  layout.decodeExactWith limits.reserve limits input

section Shapes
variable (limit room : Nat) (name : String) (c : Cursor)

theorem decodeAt_primitive (kind : Primitive) :
    decodeAt limit room (primitive name kind) c = decodePrimitive kind c :=
  rfl

theorem decodeAt_array (element : Layout) (length : UInt64) :
    decodeAt limit room (array name element length) c = do
      let room ← descend limit room
      let (elements, c) ← decodeMany (decodeAt limit room element) length.toNat c
      return (.array elements, c) :=
  rfl

theorem decodeAt_sequence (element : Layout) (bound : Option UInt64) :
    decodeAt limit room (sequence name element bound) c = do
      let room ← descend limit room
      let (count, next) ← decodeLength bound c
      ensure (count = 0 ∨ ¬element.isZeroSized) (.zeroSizedElements c.offset count)
      let (elements, last) ← decodeMany (decodeAt limit room element) count next
      return (.sequence elements, last) :=
  rfl

theorem decodeAt_map (key content : Layout) (bound : Option UInt64) :
    decodeAt limit room (map name key content bound) c = do
      let room ← descend limit room
      let (count, c) ← decodeLength bound c
      let (entries, c) ← decodeEntries (decodeAt limit room key) (decodeAt limit room content) []
        count c
      return (.map entries, c) :=
  rfl

theorem decodeAt_option (inner : Layout) :
    decodeAt limit room (option name inner) c = (do
      let room ← descend limit room
      let (tag, next) ← c.readByte
      match tag with
      | 0 => return (.absent, next)
      | 1 => do
        let (value, last) ← decodeAt limit room inner next
        return (.present value, last)
      | tag => .error (.invalidDiscriminant c.offset tag)) :=
  rfl

theorem decodeAt_struct (fields : List (String × Layout)) :
    decodeAt limit room (struct name fields) c = do
      let room ← descend limit room
      let (values, c) ← decodeFields limit room fields c
      return (.struct values, c) :=
  rfl

theorem decodeAt_tuple (members : List Layout) :
    decodeAt limit room (tuple name members) c = do
      let room ← descend limit room
      let (values, c) ← decodeMembers limit room members c
      return (.tuple values, c) :=
  rfl

theorem decodeAt_enum (variants : List (String × Layout)) (tag : TagWidth) :
    decodeAt limit room (enum name variants tag) c = (do
      let room ← descend limit room
      decodeTagged name variants.length tag (fun unknown discriminant =>
        decodePayload limit room unknown variants discriminant) c) :=
  rfl

theorem decodeFields_nil : decodeFields limit room [] c = .ok ([], c) :=
  rfl

theorem decodeFields_cons (layout : Layout) (fields : List (String × Layout)) :
    decodeFields limit room ((name, layout) :: fields) c = do
      let (value, c) ← decodeAt limit room layout c
      let (rest, c) ← decodeFields limit room fields c
      return ((name, value) :: rest, c) :=
  rfl

theorem decodeMembers_nil : decodeMembers limit room [] c = .ok ([], c) :=
  rfl

theorem decodeMembers_cons (layout : Layout) (members : List Layout) :
    decodeMembers limit room (layout :: members) c = do
      let (value, c) ← decodeAt limit room layout c
      let (rest, c) ← decodeMembers limit room members c
      return (value :: rest, c) :=
  rfl

variable (unknown : CodecError)

theorem decodePayload_nil (position : Nat) :
    decodePayload limit room unknown [] position c = .error unknown :=
  rfl

theorem decodePayload_zero (payload : Layout) (variants : List (String × Layout)) :
    decodePayload limit room unknown ((name, payload) :: variants) 0 c = (do
      let room ← descend limit room
      decodeAt limit room payload c) :=
  rfl

theorem decodePayload_succ (variant : String × Layout) (variants : List (String × Layout))
    (position : Nat) :
    decodePayload limit room unknown (variant :: variants) (position + 1) c =
      decodePayload limit room unknown variants position c :=
  rfl

end Shapes

theorem decode_eq (layout : Layout) (limits : Limits) (input : Bytes) :
    layout.decode limits input = (do
      let (value, c) ← layout.decodeAt limits.maxDepth limits.maxDepth (.start input)
      return (value, c.offset)) :=
  rfl

theorem decodeExact_eq (layout : Layout) (limits : Limits) (input : Bytes) :
    layout.decodeExact limits input = (do
      let (value, consumed) ← layout.decode limits input
      ensure (consumed = input.length) (.lengthMismatch consumed consumed input.length)
      return value) :=
  rfl

end Layout
end WireSchema
