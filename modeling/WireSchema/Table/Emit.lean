import WireSchema.Table
import WireSchema.Table.Resolve

/-!
Schema tables from declarations. Each declaration is resolved once and its layout remembered; one
that is reached while it is being resolved closes a cycle.
-/

namespace WireSchema

/-- Finished layouts by the names of their declarations. -/
abbrev Finished := List (String × Layout)

abbrev Emission := StateT Finished (Except SchemaError)

namespace Declaration

def find? (ds : List Declaration) (name : String) : Option Declaration :=
  List.find? (·.name == name) ds

/-- The way around from `name` back to it. `waiting` holds the declarations being resolved, the
innermost first. -/
def cycle (waiting : List String) (name : String) : List String :=
  name :: (waiting.takeWhile (· != name)).reverse ++ [name]

/-- Resolves `d` while those of `waiting` wait for it. With as many levels as there are declarations
the last one can only be reached by a cycle. -/
def resolveWithin (ds : List Declaration) (levels : Nat) (waiting : List String)
    (d : Declaration) : Emission Layout := fun finished =>
  match finished.lookup d.name with
  | some layout => .ok (layout, finished)
  | none =>
    if d.name ∈ waiting then .error (.cyclicReference (cycle waiting d.name))
    else match levels with
    | 0 => .error (.cyclicReference (cycle waiting d.name))
    | levels + 1 => do
      let refer := fun name =>
        (find? ds name).map (resolveWithin ds levels (d.name :: waiting))
      let (layout, finished) ← (d.resolve refer).run finished
      return (layout, (d.name, layout) :: finished)

end Declaration

/-- The layouts of all declarations, aliases left out. -/
def Table.emit (ds : List Declaration) : Except SchemaError Table := do
  if let some name := firstRepeat? [] (ds.map (·.name)) then throw (.duplicateType name)
  let (layouts, _) ← (ds.mapM (Declaration.resolveWithin ds ds.length [])).run []
  return ⟨(ds.zip layouts).filterMap fun (d, layout) =>
    if d.isAlias then none else some (d.name, layout)⟩

end WireSchema
