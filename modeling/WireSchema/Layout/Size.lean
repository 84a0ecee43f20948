import WireSchema.Layout

/-!
An upper bound on encoded sizes. Sizes are 64-bit words, so a bound that does not fit is no bound.
-/

namespace WireSchema

def checkedAdd? (a b : Nat) : Option Nat :=
  if a + b < UInt64.size then some (a + b) else none

def checkedMul? (a b : Nat) : Option Nat :=
  if a * b < UInt64.size then some (a * b) else none

/-- The width of the count before a string, a sequence or a map. -/
def lengthWidth : Nat := 4

/-- The width of the tag before an optional value. -/
def optionTagWidth : Nat := 1

namespace Primitive

def maxEncodedLen? : Primitive → Option Nat
  | .string bound => do checkedAdd? (← bound).toNat lengthWidth
  | kind => kind.size?

end Primitive

namespace Layout

mutual

/-- The length of the longest encoding. There is none if a string, sequence or map without bound
occurs, or if the length or one on the way to it is no 64-bit word. -/
def maxEncodedLen? : Layout → Option Nat
  | .primitive _ kind => kind.maxEncodedLen?
  | .array _ element length => do checkedMul? (← maxEncodedLen? element) length.toNat
  | .sequence _ element bound => do
    let max ← bound
    checkedAdd? (← checkedMul? (← maxEncodedLen? element) max.toNat) lengthWidth
  | .map _ key value bound => do
    let max ← bound
    let pair ← checkedAdd? (← maxEncodedLen? key) (← maxEncodedLen? value)
    checkedAdd? (← checkedMul? pair max.toNat) lengthWidth
  | .option _ inner => do checkedAdd? (← maxEncodedLen? inner) optionTagWidth
  | .struct _ fields => sumMaxFields? 0 fields
  | .tuple _ members => sumMaxMembers? 0 members
  | .enum _ variants tag => do checkedAdd? (← widestVariant? 0 variants) tag.size

def sumMaxFields? (total : Nat) : List (String × Layout) → Option Nat
  | [] => some total
  | (_, layout) :: rest => do
    sumMaxFields? (← checkedAdd? total (← maxEncodedLen? layout)) rest

def sumMaxMembers? (total : Nat) : List Layout → Option Nat
  | [] => some total
  | layout :: rest => do
    sumMaxMembers? (← checkedAdd? total (← maxEncodedLen? layout)) rest

def widestVariant? (widest : Nat) : List (String × Layout) → Option Nat
  | [] => some widest
  | (_, payload) :: rest => do
    widestVariant? (max widest (← maxEncodedLen? payload)) rest

end

/-- No value of the layout takes any bytes. -/
def isZeroSized (layout : Layout) : Bool :=
  layout.maxEncodedLen? == some 0

end Layout
end WireSchema
