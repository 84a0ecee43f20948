import WireSchema.Codec.Limits
import WireSchema.Json.Record

/-!
The JSON form of limits.
-/

namespace WireSchema.Limits
open Json (nextItem noMore optional)

/-- A number that 64 bits hold. -/
def numberOfJson : Json → Except JsonFault Nat
  | .int n => if 0 ≤ n ∧ n < UInt64.size then .ok n.toNat else .error .shape
  | _ => .error .shape

def standard : Limits := {}

def entry (entries : List (String × Json)) (key : String) (default : Nat) :
    Except JsonFault Nat := do
  match ← optional entries key with
  | some value => numberOfJson value
  | none => return default

/-- Limits that are not given have their defaults. -/
def ofJson : Json → Except JsonFault Limits
  | .object entries => do
    return ⟨← entry entries "max_depth" standard.maxDepth,
      ← entry entries "max_preallocation" standard.maxPreallocation⟩
  | .array items => do
    let (maxDepth, items) ← nextItem standard.maxDepth numberOfJson items
    let (maxPreallocation, items) ← nextItem standard.maxPreallocation numberOfJson items
    noMore items
    return ⟨maxDepth, maxPreallocation⟩
  | _ => .error .shape

end WireSchema.Limits
