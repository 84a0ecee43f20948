import Mathlib.Data.List.Nodup
import Mathlib.Data.List.Perm.Subperm
import WireSchema.Proofs.Memo

/-!
The walk along references. Main statement: where no declaration refers to itself on whatever way,
there are levels enough for each, and resolving it adds it to the memo after all that it refers to.
-/

namespace WireSchema
namespace Declaration

/-- One declaration refers to another where it is not skipped. -/
def RefersTo (ds : List Declaration) (d e : Declaration) : Prop :=
  e ∈ ds ∧ e.name ∈ d.references

structure Emittable (ds : List Declaration) : Prop where
  names : (ds.map (·.name)).Nodup
  primitives : ∀ d ∈ ds, ∀ name ∈ d.primitives, Primitive.isName name
  references : ∀ d ∈ ds, ∀ name ∈ d.references,
    name ∈ ds.map (·.name) ∨ Primitive.isName name
  acyclic : ∀ d ∈ ds, ¬Relation.TransGen (RefersTo ds) d d
  parts : ∀ d ∈ ds, d.DistinctParts

section Lookup
variable {ds : List Declaration} {name : String} {d : Declaration}

theorem mem_of_find? (h : find? ds name = some d) : d ∈ ds :=
  List.mem_of_find?_eq_some h

theorem find?_eq_none_iff : find? ds name = none ↔ name ∉ ds.map (·.name) := by
  simp [find?]

theorem find?_of_mem (hnames : (ds.map (·.name)).Nodup) (h : d ∈ ds) :
    find? ds d.name = some d := by
  cases hfind : find? ds d.name with
  | none => exact absurd (List.mem_map_of_mem h) (find?_eq_none_iff.mp hfind)
  | some e =>
    have he := List.inj_on_of_nodup_map hnames (mem_of_find? hfind) h (find?_name hfind)
    rw [he]

end Lookup

/-- The declarations of `waiting` wait for `d`, and there are levels left for all others. -/
structure Entered (ds : List Declaration) (levels : Nat) (waiting : List String)
    (d : Declaration) : Prop where
  nodup : waiting.Nodup
  leads : ∀ name ∈ waiting, ∃ w ∈ ds, w.name = name ∧ Relation.TransGen (RefersTo ds) w d
  room : ds.length ≤ levels + waiting.length

section Entered
variable {ds : List Declaration} {levels : Nat} {waiting : List String} {d e : Declaration}

theorem Entered.not_waiting (h : Entered ds levels waiting d) (hds : Emittable ds) (hd : d ∈ ds) :
    d.name ∉ waiting := by
  intro hw
  obtain ⟨w, hmem, hname, hpath⟩ := h.leads d.name hw
  obtain rfl := List.inj_on_of_nodup_map hds.names hmem hd hname
  exact hds.acyclic w hd hpath

/-- Those that wait and the one they wait for are different declarations. -/
theorem Entered.levels_pos (h : Entered ds levels waiting d) (hd : d ∈ ds)
    (hfresh : d.name ∉ waiting) : 0 < levels := by
  have hnodup : (d.name :: waiting).Nodup := List.nodup_cons.mpr ⟨hfresh, h.nodup⟩
  have hsub : d.name :: waiting ⊆ ds.map (·.name) := by
    refine List.cons_subset.mpr ⟨List.mem_map_of_mem hd, ?_⟩
    intro name hname
    obtain ⟨w, hmem, rfl, -⟩ := h.leads name hname
    exact List.mem_map_of_mem hmem
  have hle := (List.subperm_of_subset hnodup hsub).length_le
  have hroom := h.room
  simp only [List.length_cons, List.length_map] at hle
  omega

theorem Entered.next (h : Entered ds (levels + 1) waiting d) (hd : d ∈ ds)
    (hfresh : d.name ∉ waiting) (he : RefersTo ds d e) :
    Entered ds levels (d.name :: waiting) e := by
  refine ⟨List.nodup_cons.mpr ⟨hfresh, h.nodup⟩, ?_, ?_⟩
  · intro name hname
    rcases List.mem_cons.mp hname with rfl | hname
    · exact ⟨d, hd, rfl, .single he⟩
    · obtain ⟨w, hmem, hw, hpath⟩ := h.leads name hname
      exact ⟨w, hmem, hw, hpath.tail he⟩
  · have hroom := h.room
    simp only [List.length_cons]
    omega

end Entered

section Within
variable {ds : List Declaration} {levels : Nat} {waiting : List String} {d : Declaration}
  {s : Finished}

theorem resolveWithin_found {layout : Layout} (h : s.lookup d.name = some layout) :
    resolveWithin ds levels waiting d s = .ok (layout, s) := by
  unfold resolveWithin
  rw [h]

theorem resolveWithin_circle (hs : s.lookup d.name = none)
    (h : d.name ∈ waiting ∨ levels = 0) :
    resolveWithin ds levels waiting d s = .error (.cyclicReference (cycle waiting d.name)) := by
  unfold resolveWithin
  rw [hs]
  rcases h with h | rfl
  · simp [h]
  · simp

theorem resolveWithin_fresh (hs : s.lookup d.name = none) (h : d.name ∉ waiting) :
    resolveWithin ds (levels + 1) waiting d s = (do
      let (layout, t) ← d.resolve
        (fun name => (find? ds name).map (resolveWithin ds levels (d.name :: waiting))) s
      return (layout, (d.name, layout) :: t)) := by
  unfold resolveWithin
  rw [hs]
  simp only [h, if_false]
  rfl

end Within

theorem Emittable.sound {ds : List Declaration} (hds : Emittable ds) {d : Declaration}
    (hd : d ∈ ds) {Runs : Declaration → Prop} (h : ∀ e, RefersTo ds d e → Runs e) :
    d.Sound (Resolvable ds Runs) := by
  refine ⟨fun type htype => ⟨?_, ?_⟩, hds.parts d hd⟩
  · intro name hname
    exact hds.primitives d hd name (List.mem_flatMap.mpr ⟨type, htype, hname⟩)
  · intro name hname
    have href : name ∈ d.references := List.mem_flatMap.mpr ⟨type, htype, hname⟩
    unfold Resolvable
    split
    · rename_i e he
      exact h e ⟨mem_of_find? he, find?_name he ▸ href⟩
    · rename_i he
      exact (hds.references d hd name href).resolve_left (find?_eq_none_iff.mp he)

/-- What resolving a declaration comes to where the memo does not have it yet. -/
structure FinishesFresh (ds : List Declaration) (levels : Nat) (waiting : List String)
    (d : Declaration) (Runs : Prop) (s : Finished) : Prop where
  runs : Runs → ∃ result, resolveWithin ds levels waiting d s = .ok result
  keeps : ∀ layout s', resolveWithin ds levels waiting d s = .ok (layout, s') →
    Grows ds waiting s s' ∧ s'.lookup d.name = some layout

section Finishing
variable {ds : List Declaration} {levels : Nat} {waiting : List String} {d : Declaration}
  {Runs : Prop}

theorem settles_of_fresh
    (h : ∀ s, Settled ds s → s.lookup d.name = none → FinishesFresh ds levels waiting d Runs s) :
    Settles ds waiting (resolveWithin ds levels waiting d) Runs
      (fun t => (t.lookup d.name).isSome) (fun t => (t.lookup d.name).getD (.ofWord d.name)) := by
  constructor
  · intro hruns s hs
    cases hlookup : s.lookup d.name with
    | some layout => exact ⟨_, resolveWithin_found hlookup⟩
    | none => exact (h s hs hlookup).runs hruns
  · intro s layout s' hs hok
    have hkeeps : Grows ds waiting s s' ∧ s'.lookup d.name = some layout := by
      cases hlookup : s.lookup d.name with
      | some found =>
        rw [resolveWithin_found hlookup] at hok
        cases hok
        exact ⟨.refl hs, hlookup⟩
      | none => exact (h s hs hlookup).keeps layout s' hok
    refine ⟨hkeeps.1, ?_⟩
    intro t _ hext
    have ht := hext d.name layout hkeeps.2
    simp [ht]

/-- Once all that it refers to is in the memo, the declaration is added to it. -/
theorem Grows.finish {s t : Finished} (hgrows : Grows ds (d.name :: waiting) s t)
    (hfind : find? ds d.name = some d) (hs : s.lookup d.name = none)
    (hwaiting : d.name ∉ waiting) (hsound : d.Sound (Known ds t)) :
    Grows ds waiting s ((d.name, d.layout (t.lookup ·)) :: t) := by
  have hfresh : t.lookup d.name = none := hgrows.waits d.name List.mem_cons_self hs
  refine ⟨⟨hfresh, ⟨d, hfind, hsound, rfl⟩, hgrows.settled⟩, ?_, ?_⟩
  · intro name layout hlookup
    have hne : name ≠ d.name := by
      rintro rfl
      rw [hs] at hlookup
      cases hlookup
    rw [List.lookup_cons, beq_false_of_ne hne]
    exact hgrows.extend name layout hlookup
  · intro name hname hlookup
    have hne : name ≠ d.name := by
      rintro rfl
      exact hwaiting hname
    rw [List.lookup_cons, beq_false_of_ne hne]
    exact hgrows.waits name (List.mem_cons_of_mem _ hname) hlookup

end Finishing

/-- Resolving a declaration adds it to the memo, after all that it refers to. -/
theorem finishes_resolveWithin (ds : List Declaration) (levels : Nat) (waiting : List String) :
    Finishes ds waiting (resolveWithin ds levels waiting)
      (fun d => Emittable ds ∧ Entered ds levels waiting d) := by
  induction levels generalizing waiting with
  | zero =>
    intro d hd
    refine settles_of_fresh fun s hs hlookup => ⟨?_, ?_⟩
    · intro hruns
      obtain ⟨hds, hentered⟩ := hruns
      have hmem := mem_of_find? hd
      exact absurd (hentered.levels_pos hmem (hentered.not_waiting hds hmem)) (Nat.lt_irrefl 0)
    · intro layout s' hok
      rw [resolveWithin_circle hlookup (.inr rfl)] at hok
      cases hok
  | succ levels ih =>
    intro d hd
    have hmem := mem_of_find? hd
    have hstep := settles_declaration (ih (d.name :: waiting)) d
    refine settles_of_fresh fun s hs hlookup => ⟨?_, ?_⟩
    · intro hruns
      obtain ⟨hds, hentered⟩ := hruns
      have hfresh := hentered.not_waiting hds hmem
      have hsound := hds.sound hmem fun e he => And.intro hds (hentered.next hmem hfresh he)
      obtain ⟨⟨layout, t⟩, hresult⟩ := hstep.runs hsound s hs
      refine ⟨(layout, (d.name, layout) :: t), ?_⟩
      rw [resolveWithin_fresh hlookup hfresh, hresult]
      rfl
    · intro layout s' hok
      by_cases hwaiting : d.name ∈ waiting
      · rw [resolveWithin_circle hlookup (.inl hwaiting)] at hok
        cases hok
      · rw [resolveWithin_fresh hlookup hwaiting, bind_eq_ok_iff] at hok
        obtain ⟨⟨layout', t⟩, hresult, hok⟩ := hok
        cases hok
        obtain ⟨hgrows, hend⟩ := hstep.keeps s layout t hs hresult
        obtain ⟨hsound, rfl⟩ := hend t hgrows.settled fun _ _ ht => ht
        refine ⟨hgrows.finish hd hlookup hwaiting hsound, ?_⟩
        rw [List.lookup_cons_self]

end Declaration
end WireSchema
