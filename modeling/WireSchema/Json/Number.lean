import WireSchema.Json
import WireSchema.Text.Decimal

/-!
Numbers of JSON. Integers are kept as such where 64 bits hold them; all others are reals, which
must not be larger than the largest finite number of 64 bits.
-/

namespace WireSchema.Json

/-- A number in its parts: `mantissa * 10 ^ (exponent - places)`, `places` digits being written
after the point. -/
structure Numeral where
  negative : Bool
  mantissa : List Char
  places : Nat
  exponent : Int
  fractional : Bool
  deriving Repr

/-- Half a unit in the last place above the largest finite binary number of 64 bits. -/
def overflowBound : Nat :=
  Nat.pow 2 1024 - Nat.pow 2 970

/-- No finite number of 64 bits is nearest. -/
def Numeral.overflows (n : Numeral) : Bool :=
  let significant := n.mantissa.dropWhile (· == '0')
  let value := Nat.ofDigitChars 10 significant 0
  let scale := n.exponent - n.places
  let magnitude := significant.length + scale
  if significant.isEmpty || magnitude < 309 then false
  else if magnitude > 309 then true
  else if 0 ≤ scale then overflowBound ≤ value * Nat.pow 10 scale.toNat
  else overflowBound * Nat.pow 10 (-scale).toNat ≤ value

def splitDigits (s : List Char) : List Char × List Char :=
  (s.takeWhile Char.isDigit, s.dropWhile Char.isDigit)

/-- Digits without a needless zero in front. -/
def readWhole? (s : List Char) : Option (List Char × List Char) :=
  match splitDigits s with
  | ([], _) => none
  | ('0' :: _ :: _, _) => none
  | split => some split

def readFraction? : List Char → Option (List Char × List Char)
  | '.' :: rest =>
    match splitDigits rest with
    | ([], _) => none
    | split => some split
  | s => some ([], s)

def readSign : List Char → Bool × List Char
  | '-' :: rest => (true, rest)
  | '+' :: rest => (false, rest)
  | s => (false, s)

/-- The exponent, if there is one. -/
def readExponent? : List Char → Option (Option Int × List Char)
  | c :: s =>
    if c == 'e' || c == 'E' then
      let (negative, digits) := readSign s
      match splitDigits digits with
      | ([], _) => none
      | (ds, rest) =>
        let n : Int := Nat.ofDigitChars 10 ds 0
        some (some (if negative then -n else n), rest)
    else some (none, c :: s)
  | [] => some (none, [])

def readNumeral? (s : List Char) : Option (Numeral × List Char) := do
  let (negative, unsigned) := match s with
    | '-' :: rest => (true, rest)
    | _ => (false, s)
  let (whole, s) ← readWhole? unsigned
  let (fraction, s) ← readFraction? s
  let (exponent, s) ← readExponent? s
  return (⟨negative, whole ++ fraction, fraction.length, exponent.getD 0,
    !fraction.isEmpty || exponent.isSome⟩, s)

/-- The integer that is written, if it is written as one and 64 bits hold it. A zero with a minus
sign is no integer. -/
def Numeral.int? (n : Numeral) : Option Int :=
  let value := Nat.ofDigitChars 10 n.mantissa 0
  if n.fractional then none
  else if n.negative then
    if 0 < value ∧ value ≤ UInt64.size / 2 then some (-value) else none
  else if value < UInt64.size then some value else none

def readNumber? (s : List Char) : Option (Json × List Char) := do
  let (numeral, rest) ← readNumeral? s
  match numeral.int? with
  | some n => return (.int n, rest)
  | none => return (.real (String.ofList (s.take (s.length - rest.length))), rest)

end WireSchema.Json
