import WireSchema.Proofs.Sharing
import WireSchema.Proofs.Unambiguous

/-!
What the canonical bytes of a table tell. Main statement: two emitted tables with the same canonical
bytes are the same.
-/

namespace WireSchema
open Canonical

namespace Layout

/-- Tables in which entries of one name have the same bytes, few enough for counts to be exact. -/
def AgreeOn (t t' : Table) : Prop :=
  ∀ name layout layout', t.get? name = some layout → t'.get? name = some layout' →
    layout.canonical = layout'.canonical ∧ layout.canonical.length < UInt64.size

/-- Layouts that no two agreeing tables can have under one name without being equal. -/
def SameAbove (layout layout' : Layout) : Prop :=
  ∀ t t', AgreeOn t t' → layout.Linked t → layout'.Linked t' → layout.name = layout'.name →
    layout = layout'

/-- Layouts that no two agreeing tables can have as the same child without being equal. -/
def SameChild (layout layout' : Layout) : Prop :=
  ∀ t t', AgreeOn t t' → t.Fits layout → t'.Fits layout' → layout = layout'

def written (layout : Layout) : Bytes :=
  child layout layout.canonical

theorem eq_of_not_isNamed {layout : Layout} (h : ¬layout.isNamed) : layout.name = "" := by
  simpa [isNamed] using h

theorem told_written {layout : Layout} (h : Told canonical SameAbove layout) :
    Told written SameChild layout := by
  intro other x y hsize heq
  unfold written child at hsize heq
  by_cases hnamed : layout.isNamed
  · by_cases hnamed' : other.isNamed
    · simp only [hnamed, hnamed', if_true] at hsize heq
      obtain ⟨hname, hrest⟩ := (told_text layout.name).tag 1 _ x y hsize heq
      refine ⟨?_, hrest⟩
      intro t t' hagree hfits hfits'
      -- Only the name was written, but the entry of that name is the child itself, so the
      -- induction on the layout covers it.
      have hentry := hfits.1 hnamed
      have hentry' := hfits'.1 hnamed'
      rw [← hname] at hentry'
      obtain ⟨hbytes, hexact⟩ := hagree _ _ _ hentry hentry'
      obtain ⟨hsame, -⟩ := h other [] [] (by simpa using hexact) (by rw [hbytes])
      exact hsame t t' hagree hfits.2 hfits'.2 hname
    · simp only [hnamed, hnamed', if_true] at heq
      cases (List.cons.inj heq).1
  · by_cases hnamed' : other.isNamed
    · simp only [hnamed, hnamed', if_true] at heq
      cases (List.cons.inj heq).1
    · simp only [hnamed, hnamed'] at hsize heq
      obtain ⟨hsame, hrest⟩ := h.tag 0 other x y hsize heq
      refine ⟨?_, hrest⟩
      intro t t' hagree hfits hfits'
      have hname : layout.name = other.name := by
        rw [eq_of_not_isNamed hnamed, eq_of_not_isNamed hnamed']
      exact hsame t t' hagree hfits.2 hfits'.2 hname

section Shapes
variable {name : String}

theorem told_plain (kind : Primitive) : Told canonical SameAbove (.primitive name kind) := by
  intro other x y hsize heq
  cases other with
  | primitive name' kind' =>
    obtain ⟨rfl, hrest⟩ := (told_primitive kind).tag 0 kind' x y hsize heq
    refine ⟨?_, hrest⟩
    intro t t' _ _ _ hname
    obtain rfl : name = name' := hname
    rfl
  | _ => simp [canonical] at heq

theorem told_array {element : Layout} (length : UInt64)
    (h : Told canonical SameAbove element) :
    Told canonical SameAbove (.array name element length) := by
  intro other x y hsize heq
  cases other with
  | array name' element' length' =>
    have hparts := ((told_written h).append (told_count length)).tag 1
    obtain ⟨⟨helement, hlength⟩, hrest⟩ := hparts (element', length') x y hsize heq
    refine ⟨?_, hrest⟩
    intro t t' hagree hlinked hlinked' hname
    obtain rfl : name = name' := hname
    obtain rfl : length = length' := hlength
    cases hlinked with | array hs hl =>
    cases hlinked' with | array hs' hl' =>
    obtain rfl : element = element' := helement t t' hagree ⟨hs, hl⟩ ⟨hs', hl'⟩
    rfl
  | _ => simp [canonical] at heq

theorem told_sequence {element : Layout} (bound : Option UInt64)
    (h : Told canonical SameAbove element) :
    Told canonical SameAbove (.sequence name element bound) := by
  intro other x y hsize heq
  cases other with
  | sequence name' element' bound' =>
    have hparts := ((told_written h).append (told_bound bound)).tag 2
    obtain ⟨⟨helement, hbound⟩, hrest⟩ := hparts (element', bound') x y hsize heq
    refine ⟨?_, hrest⟩
    intro t t' hagree hlinked hlinked' hname
    obtain rfl : name = name' := hname
    obtain rfl : bound = bound' := hbound
    cases hlinked with | sequence hs hl =>
    cases hlinked' with | sequence hs' hl' =>
    obtain rfl : element = element' := helement t t' hagree ⟨hs, hl⟩ ⟨hs', hl'⟩
    rfl
  | _ => simp [canonical] at heq

theorem told_map {key content : Layout} (bound : Option UInt64)
    (hkey : Told canonical SameAbove key) (hcontent : Told canonical SameAbove content) :
    Told canonical SameAbove (.map name key content bound) := by
  intro other x y hsize heq
  cases other with
  | map name' key' content' bound' =>
    have hparts := (((told_written hkey).append (told_written hcontent)).append
      (told_bound bound)).tag 3
    obtain ⟨⟨⟨hkeys, hcontents⟩, hbound⟩, hrest⟩ := hparts ((key', content'), bound') x y hsize heq
    refine ⟨?_, hrest⟩
    intro t t' hagree hlinked hlinked' hname
    obtain rfl : name = name' := hname
    obtain rfl : bound = bound' := hbound
    cases hlinked with | map hks hkl hcs hcl =>
    cases hlinked' with | map hks' hkl' hcs' hcl' =>
    obtain rfl : key = key' := hkeys t t' hagree ⟨hks, hkl⟩ ⟨hks', hkl'⟩
    obtain rfl : content = content' := hcontents t t' hagree ⟨hcs, hcl⟩ ⟨hcs', hcl'⟩
    rfl
  | _ => simp [canonical] at heq

theorem told_option {inner : Layout} (h : Told canonical SameAbove inner) :
    Told canonical SameAbove (.option name inner) := by
  intro other x y hsize heq
  cases other with
  | option name' inner' =>
    obtain ⟨hinner, hrest⟩ := (told_written h).tag 4 inner' x y hsize heq
    refine ⟨?_, hrest⟩
    intro t t' hagree hlinked hlinked' hname
    obtain rfl : name = name' := hname
    cases hlinked with | option hs hl =>
    cases hlinked' with | option hs' hl' =>
    rw [hinner t t' hagree ⟨hs, hl⟩ ⟨hs', hl'⟩]
  | _ => simp [canonical] at heq

theorem canonicalFields_eq (fields : List (String × Layout)) :
    canonicalFields fields = fields.flatMap fun field => text field.1 ++ written field.2 := by
  induction fields with
  | nil => rfl
  | cons field fields ih => rw [canonicalFields, ih]; rfl

theorem canonicalMembers_eq (members : List Layout) :
    canonicalMembers members = members.flatMap written := by
  induction members with
  | nil => rfl
  | cons member members ih => rw [canonicalMembers, ih]; rfl

theorem canonicalVariants_eq (variants : List (String × Layout)) :
    canonicalVariants variants =
      variants.flatMap fun variant => text variant.1 ++ variant.2.canonical := by
  induction variants with
  | nil => rfl
  | cons variant variants ih => rw [canonicalVariants, ih]; rfl

theorem text_append_ne_nil (s : String) (bs : Bytes) : text s ++ bs ≠ [] := by
  simp [text, count, Bytes.ofNatLE]

theorem written_ne_nil (layout : Layout) : written layout ≠ [] := by
  unfold written child
  split <;> exact List.cons_ne_nil _ _

theorem told_struct {fields : List (String × Layout)}
    (h : ∀ field ∈ fields, Told canonical SameAbove field.2) :
    Told canonical SameAbove (.struct name fields) := by
  intro other x y hsize heq
  cases other with
  | struct name' fields' =>
    have hparts := (told_counted (fun field hfield =>
      (told_text field.1).append (told_written (h field hfield)))
      fun field => text_append_ne_nil field.1 (written field.2)).tag 5
    simp only [canonical, canonicalFields_eq] at hsize heq
    obtain ⟨hfields, hrest⟩ := hparts fields' x y hsize heq
    refine ⟨?_, hrest⟩
    intro t t' hagree hlinked hlinked' hname
    obtain rfl : name = name' := hname
    cases hlinked with | struct hs hl =>
    cases hlinked' with | struct hs' hl' =>
    have hsame : fields = fields' := by
      refine eq_of_forall₂ hfields fun field hf field' hf' hboth => ?_
      exact Prod.ext hboth.1 (hboth.2 t t' hagree ⟨hs field hf, hl field hf⟩
        ⟨hs' field' hf', hl' field' hf'⟩)
    rw [hsame]
  | _ => simp [canonical] at heq

theorem told_tuple {members : List Layout}
    (h : ∀ member ∈ members, Told canonical SameAbove member) :
    Told canonical SameAbove (.tuple name members) := by
  intro other x y hsize heq
  cases other with
  | tuple name' members' =>
    have hparts := (told_counted (fun member hmember => told_written (h member hmember))
      written_ne_nil).tag 6
    simp only [canonical, canonicalMembers_eq] at hsize heq
    obtain ⟨hmembers, hrest⟩ := hparts members' x y hsize heq
    refine ⟨?_, hrest⟩
    intro t t' hagree hlinked hlinked' hname
    obtain rfl : name = name' := hname
    cases hlinked with | tuple hs hl =>
    cases hlinked' with | tuple hs' hl' =>
    have hsame : members = members' := by
      refine eq_of_forall₂ hmembers fun member hm member' hm' hboth => ?_
      exact hboth t t' hagree ⟨hs member hm, hl member hm⟩ ⟨hs' member' hm', hl' member' hm'⟩
    rw [hsame]
  | _ => simp [canonical] at heq

theorem told_enum {variants : List (String × Layout)} (tag : TagWidth)
    (h : ∀ variant ∈ variants, Told canonical SameAbove variant.2) :
    Told canonical SameAbove (.enum name variants tag) := by
  intro other x y hsize heq
  cases other with
  | enum name' variants' tag' =>
    have htag : Told (fun tag : TagWidth => [UInt8.ofNat tag.size]) Eq tag := by
      intro tag' x y _ heq
      refine ⟨?_, (List.cons.inj heq).2⟩
      have hcode := (List.cons.inj heq).1
      cases tag <;> cases tag' <;> first | rfl | cases hcode
    have hparts := (htag.append (told_counted (fun variant hvariant =>
      (told_text variant.1).append (h variant hvariant))
      fun variant => text_append_ne_nil variant.1 variant.2.canonical)).tag 7
    simp only [canonical, canonicalVariants_eq] at hsize heq
    obtain ⟨⟨rfl, hvariants⟩, hrest⟩ := hparts (tag', variants') x y hsize heq
    refine ⟨?_, hrest⟩
    intro t t' hagree hlinked hlinked' hname
    obtain rfl : name = name' := hname
    cases hlinked with | enum hnames hl =>
    cases hlinked' with | enum hnames' hl' =>
    have hsame : variants = variants' := by
      refine eq_of_forall₂ hvariants fun variant hv variant' hv' hboth => ?_
      have hpayload : variant.2.name = variant'.2.name := by
        rw [hnames variant hv, hnames' variant' hv', hboth.1]
      exact Prod.ext hboth.1 (hboth.2 t t' hagree (hl variant hv) (hl' variant' hv') hpayload)
    rw [hsame]
  | _ => simp [canonical] at heq

end Shapes

theorem told_canonical (layout : Layout) : Told canonical SameAbove layout := by
  induction layout with
  | primitive name kind => exact told_plain kind
  | array name element length ih => exact told_array length ih
  | sequence name element bound ih => exact told_sequence bound ih
  | map name key content bound ihk ihc => exact told_map bound ihk ihc
  | option name inner ih => exact told_option ih
  | struct name fields ih => exact told_struct ih
  | tuple name members ih => exact told_tuple ih
  | enum name variants tag ih => exact told_enum tag ih

end Layout

namespace Table
open Layout

def SameEntry (entry other : String × Layout) : Prop :=
  entry.1 = other.1 ∧ SameAbove entry.2 other.2 ∧ entry.2.canonical = other.2.canonical ∧
    entry.2.canonical.length < UInt64.size

theorem told_entries (t : Table) :
    Told canonical (fun t t' => List.Forall₂ SameEntry t.entries t'.entries) t := by
  intro t' x y hsize heq
  have hentries := told_counted
    (fun entry (_ : entry ∈ t.entries) =>
      (told_text entry.1).append (told_canonical entry.2).exact)
    fun entry => text_append_ne_nil entry.1 entry.2.canonical
  exact hentries t'.entries x y hsize heq

/-- What goes together place by place goes together name by name. -/
theorem forall₂_get? {t t' : Table} {Same : String × Layout → String × Layout → Prop}
    (hnames : ∀ entry other, Same entry other → entry.1 = other.1)
    (h : List.Forall₂ Same t.entries t'.entries) {name : String} {layout layout' : Layout}
    (hlayout : t.get? name = some layout) (hlayout' : t'.get? name = some layout') :
    Same (name, layout) (name, layout') := by
  unfold get? at hlayout hlayout'
  generalize t.entries = entries at h hlayout
  generalize t'.entries = entries' at h hlayout'
  induction h with
  | nil => cases hlayout
  | @cons entry other entries entries' hsame _ ih =>
    have hname := hnames entry other hsame
    obtain ⟨own, content⟩ := entry
    obtain ⟨own', content'⟩ := other
    obtain rfl : own = own' := hname
    rw [List.lookup_cons] at hlayout hlayout'
    cases hfound : name == own with
    | true =>
      simp only [hfound, Option.some.injEq] at hlayout hlayout'
      rw [eq_of_beq hfound, ← hlayout, ← hlayout']
      exact hsame
    | false =>
      simp only [hfound] at hlayout hlayout'
      exact ih hlayout hlayout'

theorem agreeOn_of_entries {t t' : Table} (h : List.Forall₂ SameEntry t.entries t'.entries) :
    AgreeOn t t' := by
  intro name layout layout' hlayout hlayout'
  obtain ⟨-, -, hbytes⟩ := forall₂_get? (fun _ _ hsame => hsame.1) h hlayout hlayout'
  exact hbytes

theorem eq_of_canonical_eq {ds ds' : List Declaration} {t t' : Table} (h : emit ds = .ok t)
    (h' : emit ds' = .ok t') (hsize : t.canonical.length < UInt64.size)
    (heq : t.canonical = t'.canonical) : t = t' := by
  obtain ⟨refer, hlaid⟩ := exists_laidOut h
  obtain ⟨refer', hlaid'⟩ := exists_laidOut h'
  have hlength : (t.canonical ++ []).length < UInt64.size := by rwa [List.append_nil]
  obtain ⟨hentries, -⟩ := told_entries t t' [] [] hlength (by rw [heq])
  have hagree := agreeOn_of_entries hentries
  have hsame : t.entries = t'.entries := by
    refine eq_of_forall₂ hentries fun entry hentry other hother hboth => ?_
    have hname : entry.2.name = other.2.name := by
      rw [hlaid.name_eq hentry, hlaid'.name_eq hother, hboth.1]
    exact Prod.ext hboth.1 (hboth.2.1 t t' hagree (hlaid.linked hentry) (hlaid'.linked hother)
      hname)
  cases t
  cases t'
  cases hsame
  rfl

/-- Canonical bytes belong to one table only, and different tables with one fingerprint are a
collision of digests. The bytes of a table in memory are always few enough for eight-byte counts. -/
theorem canonical_identifies {ds ds' : List Declaration} {t t' : Table} (h : emit ds = .ok t)
    (h' : emit ds' = .ok t') (hsize : t.canonical.length < UInt64.size) :
    (t.canonical = t'.canonical → t = t') ∧
      (t.fingerprint = t'.fingerprint → t ≠ t' →
        t.canonical ≠ t'.canonical ∧ Digest.md5 t.canonical = Digest.md5 t'.canonical) := by
  have hidentifies : t.canonical = t'.canonical → t = t' := eq_of_canonical_eq h h' hsize
  refine ⟨hidentifies, ?_⟩
  intro hdigest hne
  exact ⟨fun heq => hne (hidentifies heq), hdigest⟩

theorem canonical_ne_of_tag :
    (Table.mk [("State", .enum "State" [("Open", .struct "StateOpen" [])] .one)]).canonical ≠
      (Table.mk [("State", .enum "State" [("Open", .struct "StateOpen" [])] .two)]).canonical := by
  have h : emit [⟨"State", .enum [⟨"Open", .unit⟩] .one⟩] =
      .ok ⟨[("State", .enum "State" [("Open", .struct "StateOpen" [])] .one)]⟩ := by rfl
  have h' : emit [⟨"State", .enum [⟨"Open", .unit⟩] .two⟩] =
      .ok ⟨[("State", .enum "State" [("Open", .struct "StateOpen" [])] .two)]⟩ := by rfl
  intro heq
  have hsame := (canonical_identifies h h' (by decide +kernel)).1 heq
  simp at hsame

end Table
end WireSchema
