import WireSchema.Integer

/-!
Values of any layout. A value does not know its layout; the codec checks the one against the other.
-/

namespace WireSchema

inductive Value
  | bool (b : Bool)
  | int (kind : IntKind) (word : kind.Word)
  | string (s : String)
  | bytes (bs : Bytes)
  | array (elements : List Value)
  | sequence (elements : List Value)
  | map (entries : List (Value × Value))
  | absent
  | present (inner : Value)
  | struct (fields : List (String × Value))
  | tuple (members : List Value)
  | enum (variant : UInt32) (payload : Value)
  deriving Repr, Inhabited

namespace Value

/-- Induction with a hypothesis for every element, key, value, field and member. -/
@[induction_eliminator]
theorem induct {P : Value → Prop}
    (bool : ∀ b, P (.bool b)) (int : ∀ kind word, P (.int kind word))
    (string : ∀ s, P (.string s)) (bytes : ∀ bs, P (.bytes bs))
    (array : ∀ elements, (∀ e ∈ elements, P e) → P (.array elements))
    (sequence : ∀ elements, (∀ e ∈ elements, P e) → P (.sequence elements))
    (map : ∀ entries, (∀ e ∈ entries, P e.1 ∧ P e.2) → P (.map entries))
    (absent : P .absent) (present : ∀ inner, P inner → P (.present inner))
    (struct : ∀ fields, (∀ f ∈ fields, P f.2) → P (.struct fields))
    (tuple : ∀ members, (∀ m ∈ members, P m) → P (.tuple members))
    (enum : ∀ variant payload, P payload → P (.enum variant payload))
    (value : Value) : P value :=
  @Value.rec P (fun es => ∀ e ∈ es, P e) (fun es => ∀ e ∈ es, P e.1 ∧ P e.2)
    (fun fs => ∀ f ∈ fs, P f.2) (fun e => P e.1 ∧ P e.2) (fun f => P f.2)
    bool int string bytes array sequence map absent present struct tuple enum
    (fun _ h => nomatch h)
    (fun _ _ hm hms n hn => by
      rcases List.mem_cons.mp hn with rfl | hn
      · exact hm
      · exact hms n hn)
    (fun _ h => nomatch h)
    (fun _ _ hm hms n hn => by
      rcases List.mem_cons.mp hn with rfl | hn
      · exact hm
      · exact hms n hn)
    (fun _ h => nomatch h)
    (fun _ _ hm hms n hn => by
      rcases List.mem_cons.mp hn with rfl | hn
      · exact hm
      · exact hms n hn)
    (fun _ _ hk hv => ⟨hk, hv⟩) (fun _ _ h => h) value

/-- The value of a type without content. -/
def unit : Value :=
  .struct []

def kindName : Value → String
  | .bool _ => "bool"
  | .int kind _ => kind.name
  | .string _ => "string"
  | .bytes _ => "bytes"
  | .array _ => "fixed array"
  | .sequence _ => "sequence"
  | .map _ => "map"
  | .absent | .present _ => "option"
  | .struct _ => "struct"
  | .tuple _ => "tuple struct"
  | .enum _ _ => "enum"

def bool? : Value → Option Bool
  | .bool b => some b
  | _ => none

/-- The number of a value of exactly this integer kind. -/
def int? (kind : IntKind) : Value → Option Int
  | .int kind' word => if kind' = kind then some (kind'.toInt word) else none
  | _ => none

def string? : Value → Option String
  | .string s => some s
  | _ => none

def bytes? : Value → Option Bytes
  | .bytes bs => some bs
  | _ => none

/-- The items of an array, a sequence or a tuple. -/
def items? : Value → Option (List Value)
  | .array items | .sequence items | .tuple items => some items
  | _ => none

def entries? : Value → Option (List (Value × Value))
  | .map entries => some entries
  | _ => none

def option? : Value → Option (Option Value)
  | .absent => some none
  | .present inner => some (some inner)
  | _ => none

def variant? : Value → Option (UInt32 × Value)
  | .enum variant payload => some (variant, payload)
  | _ => none

/-- The first field of that name. -/
def field? (value : Value) (name : String) : Option Value :=
  match value with
  | .struct fields => fields.lookup name
  | _ => none

/-- The bytes as a sequence of integers. -/
def ofBytes (bs : Bytes) : Value :=
  .sequence (bs.map fun b => .int .u8 (IntKind.ofBytes .u8 [b]))

end Value
end WireSchema
