import WireSchema.Value
import WireSchema.Layout.Size
import WireSchema.Codec.Limits

/-!
Values to bytes, checked against a layout. `offset` is the number of bytes written before, `room`
the number of levels that may still be entered, and `limit` the number of levels allowed at all.
-/

namespace WireSchema

/-- Lengths and counts are written as four bytes. -/
def encodeLength (offset length : Nat) (bound : Option UInt64) : Except CodecError Bytes := do
  checkBound offset length bound
  ensure (length < UInt32.size) (.boundExceeded offset length (UInt32.size - 1))
  return Bytes.ofNatLE lengthWidth length

def encodeFixed (offset width : Nat) (bs : Bytes) : Except CodecError Bytes :=
  if bs.length = width then .ok bs else .error (.lengthMismatch offset width bs.length)

def kindMismatch (layout : Layout) (value : Value) : CodecError :=
  .valueMismatch (.kind layout.render value.kindName)

def encodePrimitive (offset : Nat) (layout : Layout) (kind : Primitive) (value : Value) :
    Except CodecError Bytes :=
  match kind, value with
  | .bool, .bool b => .ok [if b then 1 else 0]
  | .int kind, .int kind' word =>
    if kind = kind' then .ok (kind'.toBytes word) else .error (kindMismatch layout value)
  | .string bound, .string s => do
    let bs := Bytes.ofText s
    return (← encodeLength offset bs.length bound) ++ bs
  | .fixedBytes width, .bytes bs => encodeFixed offset width.toNat bs
  | .publicKey, .bytes bs => encodeFixed offset Primitive.publicKeyWidth bs
  | _, _ => .error (kindMismatch layout value)

def encodeMany (encodeOne : Nat → Value → Except CodecError Bytes) (offset : Nat) :
    List Value → Except CodecError Bytes
  | [] => .ok []
  | value :: rest => do
    let bs ← encodeOne offset value
    return bs ++ (← encodeMany encodeOne (offset + bs.length) rest)

/-- Keys are compared by their bytes; `seen` holds those of the entries before. -/
def encodeEntries (encodeKey encodeValue : Nat → Value → Except CodecError Bytes)
    (seen : List Bytes) (offset : Nat) : List (Value × Value) → Except CodecError Bytes
  | [] => .ok []
  | (key, value) :: rest => do
    let ks ← encodeKey offset key
    checkKey offset ks seen
    let vs ← encodeValue (offset + ks.length) value
    return ks ++ vs ++
      (← encodeEntries encodeKey encodeValue (ks :: seen) (offset + ks.length + vs.length) rest)

/-- The tag, then the payload. An index that the tag cannot hold is out of range. -/
def encodeTagged (typeName : String) (variantCount : Nat) (tag : TagWidth) (index : UInt32)
    (encodePayload : CodecError → Except CodecError Bytes) : Except CodecError Bytes := do
  let outOfRange := .variantIndexOutOfRange typeName index variantCount
  ensure (index.toNat ≤ tag.maxDiscriminant) outOfRange
  return Bytes.ofNatLE tag.size index.toNat ++ (← encodePayload outOfRange)

namespace Layout

mutual

def encodeAt (limit room offset : Nat) (layout : Layout) (value : Value) :
    Except CodecError Bytes :=
  match layout with
  | .primitive _ kind => encodePrimitive offset layout kind value
  | .array _ element length => do
    let room ← descend limit room
    match value with
    | .array elements =>
      ensure (elements.length = length.toNat)
        (.lengthMismatch offset length.toNat elements.length)
      encodeMany (fun offset => encodeAt limit room offset element) offset elements
    | _ => throw (kindMismatch layout value)
  | .sequence _ element bound => do
    let room ← descend limit room
    match value with
    | .sequence elements =>
      ensure (elements.isEmpty ∨ ¬element.isZeroSized)
        (.zeroSizedElements offset elements.length)
      let count ← encodeLength offset elements.length bound
      return count ++ (← encodeMany (fun offset => encodeAt limit room offset element)
        (offset + count.length) elements)
    | _ => throw (kindMismatch layout value)
  | .map _ key content bound => do
    let room ← descend limit room
    match value with
    | .map entries =>
      let count ← encodeLength offset entries.length bound
      return count ++ (← encodeEntries (fun offset => encodeAt limit room offset key)
        (fun offset => encodeAt limit room offset content) [] (offset + count.length) entries)
    | _ => throw (kindMismatch layout value)
  | .option _ inner => do
    let room ← descend limit room
    match value with
    | .absent => return [0]
    | .present v => return 1 :: (← encodeAt limit room (offset + optionTagWidth) inner v)
    | _ => throw (kindMismatch layout value)
  | .struct _ fields => do
    let room ← descend limit room
    match value with
    | .struct values =>
      ensure (fields.length = values.length)
        (.valueMismatch (.fieldCount fields.length layout.render values.length))
      encodeFields limit room offset fields values
    | .tuple [] => if fields.isEmpty then return [] else throw (kindMismatch layout value)
    | _ => throw (kindMismatch layout value)
  | .tuple _ members => do
    let room ← descend limit room
    match value with
    | .tuple values =>
      ensure (members.length = values.length)
        (.valueMismatch (.memberCount members.length layout.render values.length))
      encodeMembers limit room offset members values
    | .struct [] => if members.isEmpty then return [] else throw (kindMismatch layout value)
    | _ => throw (kindMismatch layout value)
  | .enum name variants tag => do
    let room ← descend limit room
    match value with
    | .enum index payload =>
      encodeTagged name variants.length tag index fun outOfRange =>
        encodePayload limit room (offset + tag.size) outOfRange payload variants index.toNat
    | _ => throw (kindMismatch layout value)

def encodeFields (limit room offset : Nat) :
    List (String × Layout) → List (String × Value) → Except CodecError Bytes
  | (name, layout) :: fields, (name', value) :: values => do
    ensure (name = name') (.valueMismatch (.fieldName name name'))
    let bs ← encodeAt limit room offset layout value
    return bs ++ (← encodeFields limit room (offset + bs.length) fields values)
  | _, _ => .ok []

def encodeMembers (limit room offset : Nat) :
    List Layout → List Value → Except CodecError Bytes
  | layout :: members, value :: values => do
    let bs ← encodeAt limit room offset layout value
    return bs ++ (← encodeMembers limit room (offset + bs.length) members values)
  | _, _ => .ok []

/-- The payload of the variant at a position, one level further down. -/
def encodePayload (limit room offset : Nat) (outOfRange : CodecError) (value : Value) :
    List (String × Layout) → Nat → Except CodecError Bytes
  | [], _ => .error outOfRange
  | (_, payload) :: _, 0 => do
    let room ← descend limit room
    encodeAt limit room offset payload value
  | _ :: rest, position + 1 => encodePayload limit room offset outOfRange value rest position

end

def encode (layout : Layout) (limits : Limits) (value : Value) : Except CodecError Bytes :=
  layout.encodeAt limits.maxDepth limits.maxDepth 0 value

end Layout
end WireSchema
