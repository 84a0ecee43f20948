import WireSchema.Proofs.Correspondence

/-!
What the schema types of members tell. Main statement: two layouts have the same schema type exactly
when they differ in signs, in truth values for bytes and in bounds only.
-/

namespace WireSchema.Layout

theorem schemaTypeOfPrimitive_told (kind : Primitive) :
    schemaTypeOfPrimitive kind.told = schemaTypeOfPrimitive kind := by
  cases kind with
  | int kind => cases kind <;> rfl
  | _ => rfl

theorem schemaType_primitive (kind : Primitive) :
    schemaType (.primitive "" kind) = schemaTypeOfPrimitive kind := by
  simp [schemaType, isNamed, name]

/-- By induction on the agreement. Nothing that is shown depends on what may differ. -/
theorem SameShown.schemaType_eq {layout other : Layout} (h : layout.SameShown other) :
    layout.schemaType = other.schemaType := by
  induction h with
  | reference hnamed hnamed' hname =>
    rw [schemaType_named hnamed, schemaType_named hnamed', hname]
  | primitive htold =>
    rw [schemaType_primitive, schemaType_primitive, ← schemaTypeOfPrimitive_told, htold,
      schemaTypeOfPrimitive_told]
  | array _ ih | sequence _ ih => simp [schemaType, isNamed, name, ih]
  | map _ _ ihk ihc => rw [schemaType_map, schemaType_map, ihk, ihc]
  | option _ ih => rw [schemaType_option, schemaType_option, ih]

/-- The brackets of fixed bytes, sequences and arrays are told apart by what stands in them. Every
word of letters, digits and underscores that does not begin with a digit is a bare name. -/
theorem schemaType_eq_iff {layout other : Layout}
    (h : layout.ShownWithin fun name => isBareName name.toList)
    (h' : other.ShownWithin fun name => isBareName name.toList) :
    layout.schemaType = other.schemaType ↔ layout.SameShown other := by
  constructor
  · intro htext
    obtain ⟨type, hshown, hnames⟩ := h
    obtain ⟨otherType, hshown', hnames'⟩ := h'
    rw [hshown.schemaType_eq, hshown'.schemaType_eq] at htext
    exact hshown.sameShown hshown' (ClientType.told_eq_of_schemaText_eq hnames hnames' htext)
  · exact SameShown.schemaType_eq

/-- A count of equal elements is shown, a bound is not. -/
theorem schemaType_eq_iff_owner :
    let owner := Layout.struct "Owner_1" []
    let listed := Layout.map "" (ofPrimitive (.int .i64)) (.sequence "" owner (some 3)) (some 3)
    let unlisted := Layout.map "" (ofPrimitive (.int .u64)) (.sequence "" owner none) none
    let counted := Layout.map "" (ofPrimitive (.int .i64)) (.array "" owner 3) (some 3)
    listed.schemaType = unlisted.schemaType ∧ listed.schemaType ≠ counted.schemaType := by
  intro owner listed unlisted counted
  have howner : owner.ShownAs (.reference "Owner_1") := .reference (by decide)
  have hnames (type : ClientType) (h : type.references = ["Owner_1"]) :
      ∀ name ∈ type.references, isBareName name.toList := by
    rw [h]
    decide
  have hlisted : listed.ShownWithin fun name => isBareName name.toList :=
    ⟨_, .map .primitive (.sequence howner), hnames _ rfl⟩
  have hunlisted : unlisted.ShownWithin fun name => isBareName name.toList :=
    ⟨_, .map .primitive (.sequence howner), hnames _ rfl⟩
  have hcounted : counted.ShownWithin fun name => isBareName name.toList :=
    ⟨_, .map .primitive (.array howner), hnames _ rfl⟩
  constructor
  · have hsame : listed.SameShown unlisted :=
      .map (.primitive rfl) (.sequence (.reference (by decide) (by decide) rfl))
    exact (schemaType_eq_iff hlisted hunlisted).mpr hsame
  · intro htext
    have hsame := (schemaType_eq_iff hlisted hcounted).mp htext
    simp only [listed, counted] at hsame
    cases hsame with
    | reference hnamed => exact absurd hnamed (by decide)
    | map _ hcontent =>
      cases hcontent with
      | reference hnamed => exact absurd hnamed (by decide)

end WireSchema.Layout
