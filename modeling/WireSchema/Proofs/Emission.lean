import WireSchema.Proofs.Walk

/-!
Which declarations make a table, and which table. Main statement: a table is emitted exactly for
declarations with names of their own that refer to declared types and primitives only, in no circle.
-/

namespace WireSchema

theorem TypeExpr.Sound.imp {Known Known' : String → Prop} {type : TypeExpr}
    (h : type.Sound Known) (hknown : ∀ name, Known name → Known' name) : type.Sound Known' :=
  ⟨h.1, fun name hname => hknown name (h.2 name hname)⟩

namespace Declaration

theorem not_transGen_self {ds : List Declaration} {d : Declaration}
    (h : Acc (fun e d => RefersTo ds d e) d) : ¬Relation.TransGen (RefersTo ds) d d := by
  induction h with
  | intro d _ ih =>
    intro hpath
    obtain ⟨e, he, hback⟩ := Relation.TransGen.head'_iff.mp hpath
    exact ih e he (.tail' hback he)

section Settled
variable {ds : List Declaration} {s : Finished} {name : String} {layout : Layout}

theorem Sound.primitive {Known : String → Prop} {d : Declaration} (h : d.Sound Known) :
    ∀ name ∈ d.primitives, Primitive.isName name := by
  intro name hname
  obtain ⟨type, htype, hname⟩ := List.mem_flatMap.mp hname
  exact (h.1 type htype).1 name hname

theorem Sound.known {Known : String → Prop} {d : Declaration} (h : d.Sound Known) :
    ∀ name ∈ d.references, Known name := by
  intro name hname
  obtain ⟨type, htype, hname⟩ := List.mem_flatMap.mp hname
  exact (h.1 type htype).2 name hname

/-- An entry of the memo, and the memo as it was when the entry was made. -/
theorem Settled.exists_before (hs : Settled ds s) (h : s.lookup name = some layout) :
    ∃ before d, before.length < s.length ∧ Settled ds before ∧ Extends before s ∧
      find? ds name = some d ∧ d.Sound (Known ds before) ∧
      layout = d.layout (before.lookup ·) := by
  induction s with
  | nil => cases h
  | cons entry rest ih =>
    obtain ⟨finished, layout'⟩ := entry
    obtain ⟨hfresh, ⟨d, hfind, hsound, hlayout⟩, hrest⟩ := hs
    have hext : Extends rest ((finished, layout') :: rest) := by
      intro other found hother
      have hne : other ≠ finished := by
        rintro rfl
        rw [hfresh] at hother
        cases hother
      rw [List.lookup_cons, beq_false_of_ne hne]
      exact hother
    by_cases hname : name = finished
    · subst hname
      rw [List.lookup_cons_self] at h
      cases h
      exact ⟨rest, d, Nat.lt_succ_self _, hrest, hext, hfind, hsound, hlayout⟩
    · rw [List.lookup_cons, beq_false_of_ne hname] at h
      obtain ⟨before, e, hlen, hbefore, hext', hfound⟩ := ih hrest h
      exact ⟨before, e, Nat.lt_succ_of_lt hlen, hbefore,
        fun other found hother => hext other found (hext' other found hother), hfound⟩

/-- Nothing that was finished refers to itself, on whatever way. -/
theorem Settled.acc (hs : Settled ds s) (h : s.lookup name = some layout) {d : Declaration}
    (hfind : find? ds name = some d) (hnames : (ds.map (·.name)).Nodup) :
    Acc (fun e d => RefersTo ds d e) d := by
  induction hlen : s.length using Nat.strongRecOn generalizing s name layout d with
  | _ n ih =>
    obtain ⟨before, d', hlt, hbefore, -, hfind', hsound, -⟩ := hs.exists_before h
    obtain rfl := Option.some.inj (hfind.symm.trans hfind')
    constructor
    intro e hrefers
    obtain ⟨he, href⟩ := hrefers
    have hfinde := find?_of_mem hnames he
    rcases hsound.known e.name href with hsome | ⟨hnone, -⟩
    · obtain ⟨found, hfound⟩ := Option.isSome_iff_exists.mp hsome
      exact ih before.length (hlen ▸ hlt) hbefore hfound hfinde rfl
    · rw [hfinde] at hnone
      cases hnone

theorem Settled.lookup_eq (hs : Settled ds s) (h : s.lookup name = some layout) :
    ∃ d, find? ds name = some d ∧ d.Sound (Known ds s) ∧ layout = d.layout (s.lookup ·) := by
  obtain ⟨before, d, -, hbefore, hext, hfind, hsound, rfl⟩ := hs.exists_before h
  have hagree : ∀ name ∈ d.references, before.lookup name = s.lookup name := by
    intro name hname
    rcases hsound.known name hname with hsome | ⟨hnone, -⟩
    · obtain ⟨found, hfound⟩ := Option.isSome_iff_exists.mp hsome
      rw [hfound, hext name found hfound]
    · rw [hbefore.lookup_undeclared hnone, hs.lookup_undeclared hnone]
  refine ⟨d, hfind, ⟨fun type htype => (hsound.1 type htype).imp ?_, hsound.2⟩,
    layout_congr hagree⟩
  intro name hknown
  rcases hknown with hsome | hundeclared
  · obtain ⟨found, hfound⟩ := Option.isSome_iff_exists.mp hsome
    exact .inl (by rw [hext name found hfound, Option.isSome_some])
  · exact .inr hundeclared

end Settled

/-- Layouts for the declared names that fit together, and none for all others. -/
def Solves (ds : List Declaration) (refer : String → Option Layout) : Prop :=
  ∀ name, refer name = (find? ds name).map (·.layout refer)

section Complete
variable {ds : List Declaration} {s : Finished}

/-- What is known of a declaration once it is finished. -/
theorem Settled.finished (hs : Settled ds s) (hnames : (ds.map (·.name)).Nodup) {d : Declaration}
    (hd : d ∈ ds) (hsome : (s.lookup d.name).isSome) :
    d.Sound (Known ds s) ∧ Acc (fun e d => RefersTo ds d e) d := by
  obtain ⟨layout, hlookup⟩ := Option.isSome_iff_exists.mp hsome
  have hfind := find?_of_mem hnames hd
  obtain ⟨d', hfind', hsound, -⟩ := hs.lookup_eq hlookup
  obtain rfl := Option.some.inj (hfind.symm.trans hfind')
  exact ⟨hsound, hs.acc hlookup hfind hnames⟩

theorem Settled.emittable (hs : Settled ds s) (hnames : (ds.map (·.name)).Nodup)
    (hall : ∀ d ∈ ds, (s.lookup d.name).isSome) : Emittable ds := by
  have hfinished := fun d hd => hs.finished hnames hd (hall d hd)
  refine ⟨hnames, fun d hd => (hfinished d hd).1.primitive, ?_,
    fun d hd => not_transGen_self (hfinished d hd).2, fun d hd => (hfinished d hd).1.2⟩
  intro d hd name hname
  rcases (hfinished d hd).1.known name hname with hsome | ⟨-, hprimitive⟩
  · refine .inl (by_contra fun hno => ?_)
    rw [hs.lookup_undeclared (find?_eq_none_iff.mpr hno)] at hsome
    cases hsome
  · exact .inr hprimitive

theorem Settled.solves (hs : Settled ds s) (hall : ∀ d ∈ ds, (s.lookup d.name).isSome) :
    Solves ds (s.lookup ·) := by
  intro name
  cases hfind : find? ds name with
  | none => exact hs.lookup_undeclared hfind
  | some d =>
    have hsome := hall d (mem_of_find? hfind)
    rw [find?_name hfind] at hsome
    obtain ⟨layout, hlookup⟩ := Option.isSome_iff_exists.mp hsome
    obtain ⟨d', hfind', -, rfl⟩ := hs.lookup_eq hlookup
    obtain rfl := Option.some.inj (hfind.symm.trans hfind')
    exact hlookup

end Complete
end Declaration

namespace Table
open Declaration

/-- The entries of a table: a name and a layout for each declaration that is no alias. -/
def entriesOf (ds : List Declaration) (layouts : List Layout) : List (String × Layout) :=
  (ds.zip layouts).filterMap fun (d, layout) => if d.isAlias then none else some (d.name, layout)

theorem entriesOf_map (ds : List Declaration) (layout : Declaration → Layout) :
    entriesOf ds (ds.map layout) =
      (ds.filter (!·.isAlias)).map fun d => (d.name, layout d) := by
  induction ds with
  | nil => rfl
  | cons d ds ih =>
    unfold entriesOf at ih ⊢
    by_cases hd : d.isAlias <;> simp [hd, ih]

/-- The layouts of all declarations but aliases, with `refer` put for declared names. -/
def laidOut (ds : List Declaration) (refer : String → Option Layout) : Table :=
  ⟨entriesOf ds (ds.map (·.layout refer))⟩

theorem laidOut_eq (ds : List Declaration) (refer : String → Option Layout) :
    laidOut ds refer = ⟨(ds.filter (!·.isAlias)).map fun d => (d.name, d.layout refer)⟩ := by
  rw [laidOut, entriesOf_map]

theorem emit_eq_ok_iff {ds : List Declaration} {t : Table} :
    emit ds = .ok t ↔ (ds.map (·.name)).Nodup ∧
      ∃ layouts s, ds.mapM (resolveWithin ds ds.length []) [] = .ok (layouts, s) ∧
        t = ⟨entriesOf ds layouts⟩ := by
  have hrepeat := @firstRepeat?_eq_none_iff [] (ds.map (·.name))
  simp only [List.not_mem_nil, not_false_eq_true, implies_true, and_true] at hrepeat
  rw [← hrepeat]
  unfold emit
  cases hfirst : firstRepeat? [] (ds.map (·.name)) with
  | some name => simp [error_bind, throw, throwThe, MonadExceptOf.throw]
  | none =>
    have hok : ∀ table, (Except.ok table : Except SchemaError Table) = .ok t ↔ t = table := by
      intro table
      rw [Except.ok.injEq, eq_comm]
    simp only [StateT.run, true_and, bind_eq_ok_iff, pure_eq_ok, hok, Prod.exists, entriesOf]

/-- All that is done for a table, one declaration after the other. -/
theorem settles_all {ds : List Declaration} (hnames : (ds.map (·.name)).Nodup) :
    Settles ds [] (ds.mapM (resolveWithin ds ds.length []))
      (∀ d ∈ ds, Emittable ds ∧ Entered ds ds.length [] d)
      (fun s => ∀ d ∈ ds, (s.lookup d.name).isSome)
      (fun s => ds.map fun d => (s.lookup d.name).getD (.ofWord d.name)) :=
  .mapM fun d hd => finishes_resolveWithin ds ds.length [] d (find?_of_mem hnames hd)

/-- A table that is laid out with nothing but the references from one declaration to another. -/
structure LaidOut (ds : List Declaration) (t : Table) (refer : String → Option Layout) : Prop where
  emittable : Emittable ds
  grounded : ∀ d ∈ ds, Acc (fun e d => RefersTo ds d e) d
  solves : Solves ds refer
  table : t = laidOut ds refer

theorem exists_laidOut {ds : List Declaration} {t : Table} (h : emit ds = .ok t) :
    ∃ refer, LaidOut ds t refer := by
  obtain ⟨hnames, layouts, s, hrun, rfl⟩ := emit_eq_ok_iff.mp h
  obtain ⟨hgrows, hend⟩ := (settles_all hnames).keeps [] layouts s trivial hrun
  obtain ⟨hall, rfl⟩ := hend s hgrows.settled fun _ _ hs => hs
  have hsolves := hgrows.settled.solves hall
  have hlayouts : ds.map (fun d => (s.lookup d.name).getD (.ofWord d.name)) =
      ds.map (·.layout (s.lookup ·)) := by
    apply List.map_congr_left
    intro d hd
    have hlookup := hsolves d.name
    rw [find?_of_mem hnames hd, Option.map_some] at hlookup
    simp only [hlookup, Option.getD_some]
  refine ⟨(s.lookup ·), hgrows.settled.emittable hnames hall, ?_, hsolves, ?_⟩
  · intro d hd
    exact (hgrows.settled.finished hnames hd (hall d hd)).2
  · rw [hlayouts, laidOut]

theorem exists_emit {ds : List Declaration} (hds : Emittable ds) : ∃ t, emit ds = .ok t := by
  have hentered : ∀ d ∈ ds, Emittable ds ∧ Entered ds ds.length [] d :=
    fun d _ => ⟨hds, .nil, List.forall_mem_nil _, Nat.le_add_right _ _⟩
  obtain ⟨⟨layouts, s⟩, hrun⟩ := (settles_all hds.names).runs hentered [] trivial
  exact ⟨_, emit_eq_ok_iff.mpr ⟨hds.names, layouts, s, hrun, rfl⟩⟩

theorem LaidOut.name_eq {ds : List Declaration} {t : Table} {refer : String → Option Layout}
    (h : LaidOut ds t refer) {entry : String × Layout} (hentry : entry ∈ t.entries) :
    entry.2.name = entry.1 := by
  rw [h.table, laidOut_eq] at hentry
  obtain ⟨d, hd, rfl⟩ := List.mem_map.mp hentry
  exact layout_name refer (by simpa using (List.mem_filter.mp hd).2)

theorem LaidOut.names_eq {ds : List Declaration} {t : Table} {refer : String → Option Layout}
    (h : LaidOut ds t refer) : t.names = (ds.filter (!·.isAlias)).map (·.name) := by
  rw [h.table, laidOut_eq, names, List.map_map]
  rfl

/-- Which declarations make a table, and what is in it in which order. -/
theorem emits_iff_emittable (ds : List Declaration) :
    ((∃ t, emit ds = .ok t) ↔ Emittable ds) ∧
      ∀ t, emit ds = .ok t →
        t.names = (ds.filter (!·.isAlias)).map (·.name) ∧
        ∀ entry ∈ t.entries, entry.2.name = entry.1 := by
  refine ⟨⟨?_, exists_emit⟩, ?_⟩
  · intro hemits
    obtain ⟨t, ht⟩ := hemits
    obtain ⟨refer, hlaid⟩ := exists_laidOut ht
    exact hlaid.emittable
  · intro t ht
    obtain ⟨refer, hlaid⟩ := exists_laidOut ht
    exact ⟨hlaid.names_eq, fun entry => hlaid.name_eq⟩

end Table
end WireSchema
