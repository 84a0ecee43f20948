import WireSchema.Layout

/-!
What stands in a layout. Main statement: what holds of everything that occurs in a layout holds of
the layout and of everything that occurs in its parts.
-/

namespace WireSchema.Layout

/-- The layouts that stand in a layout. The payloads of variants are among them. -/
def parts : Layout → List Layout
  | .primitive _ _ => []
  | .array _ part _ | .sequence _ part _ | .option _ part => [part]
  | .map _ key content _ => [key, content]
  | .struct _ parts | .enum _ parts _ => parts.map (·.2)
  | .tuple _ parts => parts

/-- A layout that occurs in another one, however deep. -/
inductive Occurs (part : Layout) : Layout → Prop
  | self : Occurs part part
  | inside : child ∈ layout.parts → Occurs part child → Occurs part layout

theorem Occurs.trans {part outer layout : Layout} (h : part.Occurs outer)
    (houter : outer.Occurs layout) : part.Occurs layout := by
  induction houter with
  | self => exact h
  | inside hchild _ ih => exact .inside hchild ih

theorem Occurs.parts {layout whole : Layout} (h : layout.Occurs whole) :
    ∀ child ∈ layout.parts, child.Occurs whole :=
  fun _ hchild => Occurs.trans (.inside hchild .self) h

theorem forall_occurs {P : Layout → Prop} {layout : Layout} :
    (∀ part : Layout, part.Occurs layout → P part) ↔
      P layout ∧ ∀ child ∈ layout.parts, ∀ part : Layout, part.Occurs child → P part := by
  constructor
  · intro h
    exact ⟨h layout .self, fun child hchild part hpart => h part (.inside hchild hpart)⟩
  · rintro ⟨hself, hinside⟩ part hpart
    cases hpart with
    | self => exact hself
    | inside hchild hpart => exact hinside _ hchild part hpart

end WireSchema.Layout
