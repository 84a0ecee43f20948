import WireSchema.Layout
import WireSchema.SchemaError

/-!
Structs and enums whose names are checked when they are built. Main statement: a struct is refused
exactly when a field name occurs twice.
-/

namespace WireSchema

/-- The first name that also occurs before, in the list or in `seen`. -/
def firstRepeat? (seen : List String) : List String → Option String
  | [] => none
  | name :: rest => if name ∈ seen then some name else firstRepeat? (name :: seen) rest

theorem firstRepeat?_eq_none_iff {seen names : List String} :
    firstRepeat? seen names = none ↔ names.Nodup ∧ ∀ name ∈ names, name ∉ seen := by
  induction names generalizing seen with
  | nil => simp [firstRepeat?]
  | cons name rest ih =>
    by_cases h : name ∈ seen
    · simp [firstRepeat?, h]
    · simp only [firstRepeat?, h, if_false, ih, List.nodup_cons, List.mem_cons, not_or,
        forall_eq_or_imp, not_false_eq_true, true_and]
      constructor
      · rintro ⟨hnd, hall⟩
        exact ⟨⟨fun hm => (hall name hm).1 rfl, hnd⟩, fun n hn => (hall n hn).2⟩
      · rintro ⟨⟨hnot, hnd⟩, hall⟩
        exact ⟨hnd, fun n hn => ⟨fun he => hnot (he ▸ hn), hall n hn⟩⟩

namespace Layout

def checkedStruct (name : String) (fields : List (String × Layout)) :
    Except SchemaError Layout :=
  match firstRepeat? [] (fields.map (·.1)) with
  | some field => .error (.duplicateField name field)
  | none => .ok (.struct name fields)

/-- Variant names are checked before the payloads. -/
def checkedEnum (name : String) (variants : List (String × Layout)) (tag : TagWidth) :
    Except SchemaError Layout :=
  match firstRepeat? [] (variants.map (·.1)) with
  | some variant => .error (.duplicateField name variant)
  | none =>
    match variants.find? (!·.2.isStructLike) with
    | some (variant, _) => .error (.invalidVariantPayload name variant)
    | none => .ok (.enum name variants tag)

theorem checkedStruct_eq_ok_iff {name : String} {fields : List (String × Layout)}
    {layout : Layout} :
    checkedStruct name fields = .ok layout ↔
      (fields.map (·.1)).Nodup ∧ layout = .struct name fields := by
  have h := @firstRepeat?_eq_none_iff [] (fields.map (·.1))
  simp only [List.not_mem_nil, not_false_eq_true, implies_true, and_true] at h
  rw [← h, checkedStruct]
  split <;> rename_i hr <;> simp [hr, eq_comm]

theorem checkedEnum_eq_ok_iff {name : String} {variants : List (String × Layout)} {tag : TagWidth}
    {layout : Layout} :
    checkedEnum name variants tag = .ok layout ↔
      ((variants.map (·.1)).Nodup ∧ ∀ variant ∈ variants, variant.2.isStructLike) ∧
        layout = .enum name variants tag := by
  have h := @firstRepeat?_eq_none_iff [] (variants.map (·.1))
  simp only [List.not_mem_nil, not_false_eq_true, implies_true, and_true] at h
  have hfind := @List.find?_eq_none _ (fun variant : String × Layout => !variant.2.isStructLike)
    variants
  simp only [Bool.not_eq_true, Bool.not_eq_false'] at hfind
  rw [← h, ← hfind, checkedEnum]
  split
  · rename_i hr
    simp [hr]
  · rename_i hr
    split <;> rename_i hp <;> simp [hr, hp, eq_comm]

/-- The payload of a variant without fields bears the name of the variant. -/
def unitVariant (name : String) : String × Layout :=
  (name, .struct name [])

end Layout
end WireSchema
