import WireSchema.Proofs.Correspondence

/-!
What the text of a client module says of bytes. Main statement: under two tables with the same text
a value has the same bytes, except that tags are as wide as each table says.
-/

namespace WireSchema
open Text

namespace ClientClass
variable {c c' : ClientClass}

/-- How many classes of variants follow a class. -/
def followers (c : ClientClass) : Nat :=
  match c.kind with
  | .struct => 0
  | .enum => c.members.length

theorem SameSchema.followers_eq (h : c.SameSchema c') : c.followers = c'.followers := by
  rw [followers, followers, h.kind, h.members.length_eq]

theorem exists_ofEntry (entry : String × Layout) :
    ∃ c cs, ofEntry entry = c :: cs ∧ c.name = entry.1 ∧ cs.length = c.followers := by
  obtain ⟨name, layout⟩ := entry
  cases layout with
  | enum typeName variants tag => exact ⟨_, _, rfl, rfl, by simp [followers]⟩
  | _ => exact ⟨_, [], rfl, ofLayout_name name _, by simp [followers]⟩

theorem forall₂_append_split {α β : Type} {R : α → β → Prop} {as cs : List α} {bs ds : List β}
    (hlen : as.length = bs.length) (h : List.Forall₂ R (as ++ cs) (bs ++ ds)) :
    List.Forall₂ R as bs ∧ List.Forall₂ R cs ds := by
  have hfirst := List.forall₂_take_append _ _ _ h
  have hlast := List.forall₂_drop_append _ _ _ h
  rw [← hlen, List.take_left] at hfirst
  rw [← hlen, List.drop_left] at hlast
  exact ⟨hfirst, hlast⟩

/-- Which classes belong to one entry is told by the kind of the first and its members. -/
theorem forall₂_entries {entries others : List (String × Layout)}
    (h : List.Forall₂ SameSchema (entries.flatMap ofEntry) (others.flatMap ofEntry)) :
    List.Forall₂ (fun entry other => entry.1 = other.1 ∧
      List.Forall₂ SameSchema (ofEntry entry) (ofEntry other)) entries others := by
  induction entries generalizing others with
  | nil =>
    cases others with
    | nil => exact .nil
    | cons other others =>
      obtain ⟨d, ds, hof, -, -⟩ := exists_ofEntry other
      rw [List.flatMap_cons, hof] at h
      cases h
  | cons entry entries ih =>
    obtain ⟨c, cs, hof, hname, hlen⟩ := exists_ofEntry entry
    cases others with
    | nil =>
      rw [List.flatMap_cons, hof] at h
      cases h
    | cons other others =>
      obtain ⟨d, ds, hof', hname', hlen'⟩ := exists_ofEntry other
      rw [List.flatMap_cons, List.flatMap_cons, hof, hof', List.cons_append, List.cons_append] at h
      cases h with
      | cons hfirst hrest =>
        have hsame : cs.length = ds.length := by rw [hlen, hlen', hfirst.followers_eq]
        obtain ⟨hown, hmore⟩ := forall₂_append_split hsame hrest
        refine .cons ⟨?_, ?_⟩ (ih hmore)
        · rw [← hname, ← hname', hfirst.name]
        · rw [hof, hof']
          exact .cons hfirst hown

end ClientClass

namespace Layout

/-- A layout that refers to classes with words for names only. -/
def ShownInWords (layout : Layout) : Prop :=
  layout.ShownWithin fun name => isWord name.toList

theorem sameShown_of_schemaTypes_eq {members others : List Layout}
    (h : ∀ member ∈ members, member.ShownInWords) (h' : ∀ other ∈ others, other.ShownInWords)
    (heq : members.map (·.schemaType) = others.map (·.schemaType)) :
    List.Forall₂ SameShown members others := by
  induction members generalizing others with
  | nil =>
    cases others with
    | nil => exact .nil
    | cons other others => cases heq
  | cons member members ih =>
    cases others with
    | nil => cases heq
    | cons other others =>
      obtain ⟨hmember, hmembers⟩ := List.forall_mem_cons.mp h
      obtain ⟨hother, hothers⟩ := List.forall_mem_cons.mp h'
      obtain ⟨htext, hrest⟩ := List.cons.inj heq
      obtain ⟨type, hshown, hwords⟩ := hmember
      obtain ⟨otherType, hshown', hwords'⟩ := hother
      simp only [hshown.schemaType_eq, hshown'.schemaType_eq] at htext
      have htold := ClientType.told_eq_of_schemaText_eq (ClientType.Worded.bare hwords)
        (ClientType.Worded.bare hwords') htext
      exact .cons (hshown.sameShown hshown' htold) (ih hmembers hothers hrest)

variable {layout other : Layout}

theorem MembersWithin.isStructLike {Known : String → Prop} (h : layout.MembersWithin Known) :
    layout.isStructLike := by
  cases layout with
  | struct name fields => rfl
  | tuple name members => rfl
  | _ => exact h.elim

theorem MembersWithin.shown {Known : String → Prop} (h : layout.MembersWithin Known) :
    ∀ member ∈ layout.members, member.ShownWithin Known := by
  cases layout with
  | struct name fields => exact List.forall_mem_map.mpr h
  | tuple name members => exact h
  | _ => exact h.elim

theorem schemaTypes_ofLayout (h : layout.isStructLike) (name : String) :
    (ClientClass.ofLayout name layout).members.map (·.schemaType) =
      layout.members.map (·.schemaType) := by
  cases layout with
  | struct typeName fields =>
    simp [ClientClass.ofLayout, ClientMember.ofField, ClientMember.ofLayout, members]
  | tuple typeName members =>
    apply List.ext_getElem
    · simp [ClientClass.ofLayout, Layout.members]
    · simp [ClientClass.ofLayout, ClientMember.ofPosition, ClientMember.ofLayout, Layout.members]
  | _ => cases h

theorem sameMembers_of_sameSchema {name name' : String}
    (h : layout.MembersWithin fun name => isWord name.toList)
    (h' : other.MembersWithin fun name => isWord name.toList)
    (hsame : (ClientClass.ofLayout name layout).SameSchema (ClientClass.ofLayout name' other)) :
    SameMembers layout other := by
  refine ⟨h.isStructLike, h'.isStructLike, ?_⟩
  apply sameShown_of_schemaTypes_eq h.shown h'.shown
  rw [← schemaTypes_ofLayout h.isStructLike name, ← schemaTypes_ofLayout h'.isStructLike name',
    ← List.forall₂_eq_eq_eq, List.forall₂_map_left_iff, List.forall₂_map_right_iff]
  exact hsame.members.imp fun _ _ hmember => hmember.2

theorem sameMembers_of_variants {owner : String} {variants others : List (String × Layout)}
    (h : ∀ variant ∈ variants, variant.2.MembersWithin fun name => isWord name.toList)
    (h' : ∀ other ∈ others, other.2.MembersWithin fun name => isWord name.toList)
    (hsame : List.Forall₂ ClientClass.SameSchema
      (variants.map fun variant => .ofLayout (owner ++ variant.1) variant.2)
      (others.map fun other => .ofLayout (owner ++ other.1) other.2)) :
    List.Forall₂ (fun variant other => SameMembers variant.2 other.2) variants others := by
  rw [List.forall₂_map_left_iff, List.forall₂_map_right_iff] at hsame
  induction hsame with
  | nil => exact .nil
  | cons hfirst _ ih =>
    obtain ⟨hvariant, hvariants⟩ := List.forall_mem_cons.mp h
    obtain ⟨hother, hothers⟩ := List.forall_mem_cons.mp h'
    exact .cons (sameMembers_of_sameSchema hvariant hother hfirst) (ih hvariants hothers)

theorem ofEntry_structLike (h : layout.isStructLike) (name : String) :
    ClientClass.ofEntry (name, layout) = [ClientClass.ofLayout name layout] := by
  cases layout with
  | struct typeName fields => rfl
  | tuple typeName members => rfl
  | _ => cases h

theorem corresponds_of_sameMembers (h : SameMembers layout other) : Corresponds layout other := by
  have hlike := h.structLike
  cases layout with
  | struct name fields => exact h
  | tuple name members => exact h
  | _ => cases hlike

def tagWidth? (layout : Layout) : Option TagWidth :=
  layout.variants?.map (·.2)

/-- The kind of the first class tells whether an entry is an enum. -/
theorem corresponds_of_sameSchema {name : String}
    (h : layout.EntryWithin fun name => isWord name.toList)
    (h' : other.EntryWithin fun name => isWord name.toList)
    (htag : ∀ tag tag', layout.tagWidth? = some tag → other.tagWidth? = some tag' → tag = tag')
    (hsame : List.Forall₂ ClientClass.SameSchema (ClientClass.ofEntry (name, layout))
      (ClientClass.ofEntry (name, other))) :
    Corresponds layout other := by
  rcases h.enum_or with ⟨typeName, variants, tag, rfl, hvariants⟩ | hmembers
  · rcases h'.enum_or with ⟨typeName', others, tag', rfl, hothers⟩ | hmembers'
    · cases hsame with
      | cons _ hsame =>
        exact ⟨htag tag tag' rfl rfl, sameMembers_of_variants hvariants hothers hsame⟩
    · rw [ofEntry_structLike hmembers'.isStructLike] at hsame
      cases hsame with
      | cons hfirst _ =>
        have hkind : ClientKind.enum = (ClientClass.ofLayout name other).kind := hfirst.kind
        rw [ClientClass.ofLayout_kind] at hkind
        cases hkind
  · rw [ofEntry_structLike hmembers.isStructLike] at hsame
    rcases h'.enum_or with ⟨typeName', others, tag', rfl, hothers⟩ | hmembers'
    · cases hsame with
      | cons hfirst _ =>
        have hkind : (ClientClass.ofLayout name layout).kind = ClientKind.enum := hfirst.kind
        rw [ClientClass.ofLayout_kind] at hkind
        cases hkind
    · rw [ofEntry_structLike hmembers'.isStructLike] at hsame
      cases hsame with
      | cons hfirst _ =>
        exact corresponds_of_sameMembers (sameMembers_of_sameSchema hmembers hmembers' hfirst)

end Layout

namespace Table
open Declaration Layout
variable {ds ds' : List Declaration} {t t' : Table}

/-- Enums of the same name have tags of the same width. -/
def SameTags (t t' : Table) : Prop :=
  ∀ name layout other tag tag', t.get? name = some layout → t'.get? name = some other →
    layout.tagWidth? = some tag → other.tagWidth? = some tag' → tag = tag'

theorem mem_entries_of_get? {name : String} {layout : Layout} (h : t.get? name = some layout) :
    (name, layout) ∈ t.entries := by
  obtain ⟨before, after, hentries, -⟩ := List.lookup_eq_some_iff.mp h
  rw [hentries]
  exact List.mem_append_right _ List.mem_cons_self

theorem LaidOut.inWords {refer : String → Option Layout} (h : LaidOut ds t refer)
    (hwords : ∀ c ∈ t.clientClasses, isWord c.name.toList) {entry : String × Layout}
    (hentry : entry ∈ t.entries) : entry.2.EntryWithin fun name => isWord name.toList := by
  apply (h.within (h.ne_empty_of_words hwords) hentry).imp
  intro name hclass
  obtain ⟨c, hc, rfl⟩ := hclass
  exact hwords c hc

/-- An entry has the name of its first class. -/
theorem LaidOut.isNamed_entry {refer : String → Option Layout} (h : LaidOut ds t refer)
    (hwords : ∀ c ∈ t.clientClasses, isWord c.name.toList) {entry : String × Layout}
    (hentry : entry ∈ t.entries) : entry.2.isNamed := by
  obtain ⟨c, cs, hof, hname, -⟩ := ClientClass.exists_ofEntry entry
  have hc : c ∈ t.clientClasses := List.mem_flatMap.mpr ⟨entry, hentry, by simp [hof]⟩
  have hword := hwords c hc
  rw [hname] at hword
  have hne : entry.1 ≠ "" := by
    intro hempty
    rw [hempty] at hword
    cases hword
  simpa [Layout.isNamed, h.name_eq hentry] using hne

theorem aligned_of_clientModule_eq {refer refer' : String → Option Layout}
    (h : LaidOut ds t refer) (h' : LaidOut ds' t' refer')
    (hwords : ∀ c ∈ t.clientClasses, isWord c.name.toList)
    (hwords' : ∀ c ∈ t'.clientClasses, isWord c.name.toList) (htags : SameTags t t')
    (htext : t.clientModule = t'.clientModule) : Aligned t t' := by
  have hclasses := sameSchemas_of_clientModule_eq (h.legible hwords) (h'.legible hwords') htext
  have hentries := ClientClass.forall₂_entries hclasses
  intro name layout other hget hget'
  obtain ⟨-, hsame⟩ := forall₂_get? (fun _ _ hentry => hentry.1) hentries hget hget'
  exact corresponds_of_sameSchema (h.inWords hwords (mem_entries_of_get? hget))
    (h'.inWords hwords' (mem_entries_of_get? hget'))
    (fun tag tag' => htags name layout other tag tag' hget hget') hsame

/-- Where classes are known by their names, the text tells which enums a value passes through. -/
theorem tags_eq_of_clientModule_eq (h : emit ds = .ok t) (h' : emit ds' = .ok t')
    (htext : t.clientModule = t'.clientModule)
    (hwords : ∀ c ∈ t.clientClasses ++ t'.clientClasses, isWord c.name.toList)
    (htags : SameTags t t') {name : String} {layout other : Layout}
    (hget : t.get? name = some layout) (hget' : t'.get? name = some other) {value : Value}
    (hadmits : layout.Admits value) (hadmits' : other.Admits value) :
    layout.tags value = other.tags value := by
  obtain ⟨hwords, hwords'⟩ := List.forall_mem_append.mp hwords
  obtain ⟨refer, hlaid⟩ := exists_laidOut h
  obtain ⟨refer', hlaid'⟩ := exists_laidOut h'
  have haligned := aligned_of_clientModule_eq hlaid hlaid' hwords hwords' htags htext
  have hentry := mem_entries_of_get? hget
  have hentry' := mem_entries_of_get? hget'
  have hname : layout.name = other.name := by
    rw [hlaid.name_eq hentry, hlaid'.name_eq hentry']
  have hsame : SameShown layout other :=
    .reference (hlaid.isNamed_entry hwords hentry) (hlaid'.isNamed_entry hwords' hentry') hname
  exact (inStep haligned layout).shown other (hlaid.fits_entry hentry)
    (hlaid'.fits_entry hentry') hsame value hadmits hadmits'

/-- Whatever else the text leaves open, signs, bounds and the names of fields among it, does not
show in the bytes. -/
theorem clientModule_fixes_bytes (h : emit ds = .ok t) (h' : emit ds' = .ok t')
    (htext : t.clientModule = t'.clientModule) {name : String} {layout other : Layout}
    (hget : t.get? name = some layout) (hget' : t'.get? name = some other)
    {limits limits' : Limits} {value : Value} {bs bs' : Bytes}
    (hok : layout.encode limits value = .ok bs) (hok' : other.encode limits' value = .ok bs')
    (htags : layout.tags value = other.tags value ∨
      (∀ c ∈ t.clientClasses ++ t'.clientClasses, isWord c.name.toList) ∧ SameTags t t') :
    bs = bs' := by
  refine encode_eq_of_tags_eq hok hok' ?_
  rcases htags with hsame | ⟨hwords, htags⟩
  · exact hsame
  · obtain ⟨⟨hadmits, -⟩, -⟩ := (encodeAt_eq_ok_iff layout _ _ _ _ _).mp hok
    obtain ⟨⟨hadmits', -⟩, -⟩ := (encodeAt_eq_ok_iff other _ _ _ _ _).mp hok'
    exact tags_eq_of_clientModule_eq h h' htext hwords htags hget hget' hadmits hadmits'

/-- A mood, whose tag takes two bytes, and a text. -/
def note (text : TypeExpr) : List Declaration :=
  [⟨"Note", .struct [⟨"mood", .named "Mood", false⟩, ⟨"text", text, false⟩]⟩,
    ⟨"Mood", .enum [⟨"Calm", .unit⟩] .two⟩]

def noteTable (text : Primitive) : Table :=
  let mood := .enum "Mood" [("Calm", .struct "MoodCalm" [])] .two
  ⟨[("Note", .struct "Note" [("mood", mood), ("text", .ofPrimitive text)]), ("Mood", mood)]⟩

theorem tag_note {text : Primitive} {name : String} {layout : Layout} {tag : TagWidth}
    (hget : (noteTable text).get? name = some layout) (htag : layout.tagWidth? = some tag) :
    tag = .two := by
  have hentry := mem_entries_of_get? hget
  simp only [noteTable, List.mem_cons, Prod.mk.injEq, List.not_mem_nil, or_false] at hentry
  rcases hentry with ⟨-, rfl⟩ | ⟨-, rfl⟩
  · cases htag
  · exact (Option.some.inj htag).symm

theorem clientModule_congr (h : t.clientClasses = t'.clientClasses) :
    t.clientModule = t'.clientModule := by
  unfold clientModule
  rw [h]

def noteValue : Value :=
  .struct [("mood", .enum 0 (.struct [])), ("text", .string "hi")]

theorem clientModule_fixes_bytes_note :
    emit (note (.primitive "string")) = .ok (noteTable (.string none)) ∧
      emit (note (.boundedString 5)) = .ok (noteTable (.string (some 5))) ∧
      (noteTable (.string none)).clientModule = (noteTable (.string (some 5))).clientModule ∧
      ∃ layout other bs bs', (noteTable (.string none)).get? "Note" = some layout ∧
        (noteTable (.string (some 5))).get? "Note" = some other ∧
        layout.encode {} noteValue = .ok bs ∧ other.encode {} noteValue = .ok bs' ∧ bs = bs' := by
  have h : emit (note (.primitive "string")) = .ok (noteTable (.string none)) := by rfl
  have h' : emit (note (.boundedString 5)) = .ok (noteTable (.string (some 5))) := by rfl
  have htext : (noteTable (.string none)).clientModule =
      (noteTable (.string (some 5))).clientModule := clientModule_congr rfl
  have hencode : ∀ text ∈ [Primitive.string none, .string (some 5)],
      ∃ layout, (noteTable text).get? "Note" = some layout ∧
        layout.encode {} noteValue = .ok [0, 0, 2, 0, 0, 0, 104, 105] := by
    intro text htext
    rcases List.mem_pair.mp htext with rfl | rfl <;> exact ⟨_, rfl, rfl⟩
  obtain ⟨layout, hget, hok⟩ := hencode (.string none) (by decide)
  obtain ⟨other, hget', hok'⟩ := hencode (.string (some 5)) (by decide)
  refine ⟨h, h', htext, layout, other, _, _, hget, hget', hok, hok', ?_⟩
  refine clientModule_fixes_bytes h h' htext hget hget' hok hok' (.inr ⟨by decide, ?_⟩)
  intro name layout other tag tag' hget hget' htag htag'
  rw [tag_note hget htag, tag_note hget' htag']

/-- A switch with a tag of some width. -/
def switch (tag : TagWidth) : List Declaration :=
  [⟨"Switch", .enum [⟨"Off", .unit⟩, ⟨"On", .unit⟩] tag⟩]

def switchLayout (tag : TagWidth) : Layout :=
  .enum "Switch" [("Off", .struct "SwitchOff" []), ("On", .struct "SwitchOn" [])] tag

def switchTable (tag : TagWidth) : Table :=
  ⟨[("Switch", switchLayout tag)]⟩

/-- The text does not tell how wide tags are. -/
theorem clientModule_switch :
    (∀ tag ∈ [TagWidth.one, .two], emit (switch tag) = .ok (switchTable tag) ∧
      (switchTable tag).get? "Switch" = some (switchLayout tag)) ∧
      (switchTable .one).clientModule = (switchTable .two).clientModule ∧
      (switchLayout .one).encode {} (.enum 1 (.struct [])) = .ok [1] ∧
      (switchLayout .two).encode {} (.enum 1 (.struct [])) = .ok [1, 0] := by
  refine ⟨?_, clientModule_congr rfl, rfl, rfl⟩
  intro tag _
  cases tag <;> exact ⟨by rfl, rfl⟩

end Table
end WireSchema
