import WireSchema.Proofs.Sharing

/-!
What an entry of a table depends on. Main statement: the layout of a declared type is settled by the
declarations that can be reached from it, so neither their order nor further declarations matter.
-/

namespace WireSchema

/-- Two lists have the same declarations of some names, and these refer to one another and to what
neither list declares. -/
structure Declaration.Shared (ds ds' : List Declaration) (shared : Set String) : Prop where
  same : ∀ name ∈ shared, ∃ d ∈ ds, d ∈ ds' ∧ d.name = name
  closed : ∀ d ∈ ds, d.name ∈ shared → ∀ name ∈ d.references,
    name ∈ shared ∨ name ∉ ds.map (·.name) ∧ name ∉ ds'.map (·.name)

namespace Declaration

theorem Shared.of_perm {ds ds' : List Declaration} (h : ds.Perm ds') :
    Shared ds ds' {name | name ∈ ds.map (·.name)} := by
  constructor
  · intro name hname
    obtain ⟨d, hd, rfl⟩ := List.mem_map.mp hname
    exact ⟨d, hd, h.mem_iff.mp hd, rfl⟩
  · intro d _ _ name _
    by_cases hname : name ∈ ds.map (·.name)
    · exact .inl hname
    · exact .inr ⟨hname, fun hname' => hname ((h.map _).mem_iff.mpr hname')⟩

/-- Declarations that nobody refers to may follow. -/
theorem Shared.of_append {ds more : List Declaration}
    (h : ∀ d ∈ ds, ∀ e ∈ more, e.name ∉ d.references) :
    Shared ds (ds ++ more) {name | name ∈ ds.map (·.name)} := by
  constructor
  · intro name hname
    obtain ⟨d, hd, rfl⟩ := List.mem_map.mp hname
    exact ⟨d, hd, List.mem_append_left more hd, rfl⟩
  · intro d hd _ name href
    by_cases hname : name ∈ ds.map (·.name)
    · exact .inl hname
    · refine .inr ⟨hname, ?_⟩
      intro hname'
      rw [List.map_append, List.mem_append] at hname'
      obtain ⟨e, he, rfl⟩ := List.mem_map.mp (hname'.resolve_left hname)
      exact h d hd e he href

theorem RefersTo.of_perm {ds ds' : List Declaration} (h : ds.Perm ds') {d e : Declaration}
    (hrefers : RefersTo ds d e) : RefersTo ds' d e :=
  ⟨h.mem_iff.mp hrefers.1, hrefers.2⟩

theorem Emittable.of_perm {ds ds' : List Declaration} (h : ds.Perm ds') (hds : Emittable ds) :
    Emittable ds' where
  names := (h.map _).nodup_iff.mp hds.names
  primitives d hd := hds.primitives d (h.mem_iff.mpr hd)
  references d hd name href :=
    (hds.references d (h.mem_iff.mpr hd) name href).imp_left (h.map _).mem_iff.mp
  acyclic d hd hpath :=
    hds.acyclic d (h.mem_iff.mpr hd)
      (Relation.TransGen.mono (fun _ _ hr => RefersTo.of_perm h.symm hr) d d hpath)
  parts d hd := hds.parts d (h.mem_iff.mpr hd)

end Declaration

namespace Table
open Declaration

section Shared
variable {ds ds' : List Declaration} {t t' : Table} {refer refer' : String → Option Layout}
  {shared : Set String}

/-- The induction is along the references, which never leave what is shared. -/
theorem LaidOut.refer_eq_of_shared (h : LaidOut ds t refer) (h' : LaidOut ds' t' refer')
    (hshared : Shared ds ds' shared) {d : Declaration} (hd : d ∈ ds) (hname : d.name ∈ shared) :
    refer d.name = refer' d.name := by
  induction h.grounded d hd with
  | intro d _ ih =>
    obtain ⟨e, he, he', hsame⟩ := hshared.same d.name hname
    obtain rfl := List.inj_on_of_nodup_map h.emittable.names he hd hsame
    rw [h.refer_eq he, h'.refer_eq he']
    congr 1
    apply Declaration.layout_congr
    intro name href
    rcases hshared.closed e he hname name href with hin | ⟨hout, hout'⟩
    · obtain ⟨f, hf, -, rfl⟩ := hshared.same name hin
      exact ih f ⟨hf, href⟩ hf hin
    · rw [h.substitution.undeclared name hout, h'.substitution.undeclared name hout']

theorem LaidOut.layout_eq_of_shared (h : LaidOut ds t refer) (h' : LaidOut ds' t' refer')
    (hshared : Shared ds ds' shared) {d : Declaration} (hd : d ∈ ds) (hd' : d ∈ ds')
    (hname : d.name ∈ shared) : d.layout refer = d.layout refer' := by
  have hrefer := h.refer_eq_of_shared h' hshared hd hname
  rw [h.refer_eq hd, h'.refer_eq hd'] at hrefer
  exact Option.some.inj hrefer

/-- Where all declarations are shared, the entries are laid out like those of the other list. -/
theorem LaidOut.entries_eq_of_shared (h : LaidOut ds t refer) (h' : LaidOut ds' t' refer')
    (hshared : Shared ds ds' {name | name ∈ ds.map (·.name)}) (hsub : ds ⊆ ds') :
    t.entries = (ds.filter (!·.isAlias)).map fun d => (d.name, d.layout refer') := by
  rw [h.table, laidOut_eq]
  apply List.map_congr_left
  intro d hd
  have hmem := List.mem_of_mem_filter hd
  rw [h.layout_eq_of_shared h' hshared hmem (hsub hmem) (List.mem_map_of_mem hmem)]

theorem LaidOut.get?_eq_none (h : LaidOut ds t refer) {name : String}
    (hname : ∀ d ∈ ds, d.name = name → d.isAlias) : t.get? name = none := by
  rw [get?, List.lookup_eq_none_iff]
  intro entry hentry
  rw [h.table, laidOut_eq] at hentry
  obtain ⟨d, hd, rfl⟩ := List.mem_map.mp hentry
  obtain ⟨hmem, halias⟩ := List.mem_filter.mp hd
  have hne : d.name ≠ name := by
    intro heq
    rw [hname d hmem heq] at halias
    cases halias
  simpa using Ne.symm hne

end Shared

section Reordered
variable {ds ds' more : List Declaration} {t t' : Table}

theorem exists_get?_of_shared {shared : Set String} (h : emit ds = .ok t)
    (h' : emit ds' = .ok t') (hshared : Shared ds ds' shared) {d : Declaration} (hd : d ∈ ds)
    (hname : d.name ∈ shared) (halias : ¬d.isAlias) :
    ∃ layout, t.get? d.name = some layout ∧ t'.get? d.name = some layout := by
  obtain ⟨refer, hlaid⟩ := exists_laidOut h
  obtain ⟨refer', hlaid'⟩ := exists_laidOut h'
  obtain ⟨e, he, he', hsame⟩ := hshared.same d.name hname
  obtain rfl := List.inj_on_of_nodup_map hlaid.emittable.names he hd hsame
  have hlayout := hlaid.layout_eq_of_shared hlaid' hshared he he' hname
  refine ⟨e.layout refer, hlaid.get?_eq he halias, ?_⟩
  rw [hlaid'.get?_eq he' halias, hlayout]

theorem exists_emit_of_perm (h : ds.Perm ds') (hemits : ∃ t, emit ds = .ok t) :
    ∃ t, emit ds' = .ok t := by
  obtain ⟨t, ht⟩ := hemits
  obtain ⟨refer, hlaid⟩ := exists_laidOut ht
  exact exists_emit (hlaid.emittable.of_perm h)

theorem perm_entries_of_perm (hperm : ds.Perm ds') (h : emit ds = .ok t)
    (h' : emit ds' = .ok t') : t.entries.Perm t'.entries := by
  obtain ⟨refer, hlaid⟩ := exists_laidOut h
  obtain ⟨refer', hlaid'⟩ := exists_laidOut h'
  rw [hlaid.entries_eq_of_shared hlaid' (.of_perm hperm) hperm.subset, hlaid'.table, laidOut_eq]
  exact (hperm.filter _).map _

theorem get?_eq_of_perm (hperm : ds.Perm ds') (h : emit ds = .ok t) (h' : emit ds' = .ok t')
    (name : String) : t.get? name = t'.get? name := by
  by_cases hname : ∃ d ∈ ds, d.name = name ∧ ¬d.isAlias
  · obtain ⟨d, hd, rfl, halias⟩ := hname
    obtain ⟨layout, hget, hget'⟩ :=
      exists_get?_of_shared h h' (.of_perm hperm) hd (List.mem_map_of_mem hd) halias
    rw [hget, hget']
  · obtain ⟨refer, hlaid⟩ := exists_laidOut h
    obtain ⟨refer', hlaid'⟩ := exists_laidOut h'
    have hall : ∀ d ∈ ds, d.name = name → d.isAlias := by
      intro d hd heq
      by_contra halias
      exact hname ⟨d, hd, heq, halias⟩
    rw [hlaid.get?_eq_none hall,
      hlaid'.get?_eq_none fun d hd => hall d (hperm.mem_iff.mpr hd)]

theorem entries_isPrefix_append (h : emit ds = .ok t) (h' : emit (ds ++ more) = .ok t')
    (hmore : ∀ d ∈ ds, ∀ e ∈ more, e.name ∉ d.references) : t.entries <+: t'.entries := by
  obtain ⟨refer, hlaid⟩ := exists_laidOut h
  obtain ⟨refer', hlaid'⟩ := exists_laidOut h'
  rw [hlaid.entries_eq_of_shared hlaid' (.of_append hmore) (List.subset_append_left ds more),
    hlaid'.table, laidOut_eq, List.filter_append, List.map_append]
  exact List.prefix_append _ _

end Reordered

/-- Two tables agree on what is declared alike in both lists as far as it can be reached. In
another order the same declarations make the same entries, and what follows them adds entries. -/
theorem emit_local (ds ds' : List Declaration) :
    (∀ t t' shared, emit ds = .ok t → emit ds' = .ok t' → Shared ds ds' shared →
      ∀ d ∈ ds, d.name ∈ shared → ¬d.isAlias →
        ∃ layout, t.get? d.name = some layout ∧ t'.get? d.name = some layout) ∧
    (ds.Perm ds' → ((∃ t, emit ds = .ok t) ↔ ∃ t, emit ds' = .ok t) ∧
      ∀ t t', emit ds = .ok t → emit ds' = .ok t' →
        t.entries.Perm t'.entries ∧ ∀ name, t.get? name = t'.get? name) ∧
    ∀ more t t', emit ds = .ok t → emit (ds ++ more) = .ok t' →
      (∀ d ∈ ds, ∀ e ∈ more, e.name ∉ d.references) → t.entries <+: t'.entries := by
  refine ⟨?_, ?_, ?_⟩
  · intro t t' shared h h' hshared d hd hname halias
    exact exists_get?_of_shared h h' hshared hd hname halias
  · intro hperm
    refine ⟨⟨exists_emit_of_perm hperm, exists_emit_of_perm hperm.symm⟩, ?_⟩
    intro t t' h h'
    exact ⟨perm_entries_of_perm hperm h h', get?_eq_of_perm hperm h h'⟩
  · intro more t t' h h' hmore
    exact entries_isPrefix_append h h' hmore

/-- The key of the vault declared alone, the vault backwards, and a declaration after it. -/
theorem emit_local_vault :
    let key : Declaration := ⟨"Key", .tuple [.bytes 32]⟩
    let door : Declaration := ⟨"Door", .alias (.sequence (.named "Vault"))⟩
    (∃ t layout, emit [key] = .ok t ∧ t.get? "Key" = some layout ∧
      vaultTable.get? "Key" = some layout) ∧
    (∃ t, emit vault.reverse = .ok t ∧ t.entries.Perm vaultTable.entries) ∧
    ∃ t, emit (vault ++ [door]) = .ok t ∧ vaultTable.entries <+: t.entries := by
  intro key door
  have h : emit vault = .ok vaultTable := by rfl
  refine ⟨?_, ?_, ?_⟩
  · obtain ⟨t, ht⟩ : ∃ t, emit [key] = .ok t := ⟨_, rfl⟩
    have hshared : Shared [key] vault {"Key"} := by
      constructor
      · rintro name rfl
        exact ⟨key, by decide, by decide, rfl⟩
      · intro d hd _ name href
        obtain rfl := List.mem_singleton.mp hd
        cases href
    obtain ⟨layout, hget, hget'⟩ := (emit_local [key] vault).1 t vaultTable {"Key"} ht h hshared
      key (List.mem_singleton_self key) rfl (by decide)
    exact ⟨t, layout, ht, hget, hget'⟩
  · obtain ⟨hemits, hsame⟩ := (emit_local vault vault.reverse).2.1 (List.reverse_perm vault).symm
    obtain ⟨t, ht⟩ := hemits.mp ⟨vaultTable, h⟩
    exact ⟨t, ht, (hsame vaultTable t h ht).1.symm⟩
  · obtain ⟨t, ht⟩ : ∃ t, emit (vault ++ [door]) = .ok t := ⟨_, rfl⟩
    exact ⟨t, ht, (emit_local vault []).2.2 [door] vaultTable t h ht (by decide)⟩

end Table
end WireSchema
