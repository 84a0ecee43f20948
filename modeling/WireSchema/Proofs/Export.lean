import WireSchema.Proofs.Identity
import WireSchema.Proofs.Objects
import WireSchema.Proofs.Vocabulary
import WireSchema.Table.Json

/-!
What the JSON form of a table tells. Main statement: two emitted tables have the same JSON, whatever
the order of its keys, exactly if they are the same.
-/

namespace WireSchema
open Canonical (eq_of_forall₂)

namespace Layout

/-- What the body of a layout says under a key. -/
def said? (layout : Layout) (key : String) : Option Json :=
  Json.said? key layout.toJson.entries

/-- The bodies say the same under each key. -/
def Alike (layout other : Layout) : Prop :=
  ∀ key, layout.said? key = other.said? key

theorem alike_of_normalize_eq {layout other : Layout}
    (h : layout.toJson.normalize = other.toJson.normalize) : Alike layout other :=
  Json.said?_congr h

/-- A child as it is written, up to the order of keys. -/
def childForm (layout : Layout) : Json :=
  (jsonChild layout layout.toJson).normalize

/-- A body under a name, up to the order of keys. -/
def entryForm (name : String) (layout : Layout) : Json :=
  (jsonNamed name layout.toJson).normalize

theorem fieldsToJson_eq (fields : List (String × Layout)) :
    fieldsToJson fields = fields.map fun field =>
      .object [("name", .string field.1), ("type", jsonChild field.2 field.2.toJson)] := by
  induction fields with
  | nil => rfl
  | cons field fields ih => rw [fieldsToJson, ih, List.map_cons]

theorem membersToJson_eq (members : List Layout) :
    membersToJson members = members.map fun member => jsonChild member member.toJson := by
  induction members with
  | nil => rfl
  | cons member members ih => rw [membersToJson, ih, List.map_cons]

theorem variantsToJson_eq (variants : List (String × Layout)) :
    variantsToJson variants =
      variants.map fun variant => jsonNamed variant.1 variant.2.toJson := by
  induction variants with
  | nil => rfl
  | cons variant variants ih => rw [variantsToJson, ih, List.map_cons]

section Shapes
variable {name : String}

attribute [local simp] said? toJson Json.entries Json.said? Json.normalize childForm

theorem toJson_shown {kind : Primitive} (h : kind.Shown) :
    (primitive name kind).toJson = .string kind.name := by
  unfold toJson jsonPrimitive
  split
  · rename_i max
    exact absurd rfl (h max)
  · rfl

theorem said?_shown {kind : Primitive} (h : kind.Shown) (key : String) :
    (primitive name kind).said? key =
      if "type" = key then some (.string kind.name) else none := by
  rw [said?, toJson_shown h]
  simp

theorem said?_bounded (max : UInt64) :
    (primitive name (.string (some max))).said? "kind" = some (.string "string") ∧
    (primitive name (.string (some max))).said? "max_length" = some (.int max.toNat) := by
  simp [jsonPrimitive]

theorem said?_array (element : Layout) (length : UInt64) :
    (array name element length).said? "type" = some element.childForm ∧
    (array name element length).said? "length" = some (.int length.toNat) := by
  simp

theorem said?_sequence (element : Layout) (bound : Option UInt64) :
    (sequence name element bound).said? "type" = some element.childForm ∧
    (sequence name element bound).said? "max_length" = bound.map fun max => .int max.toNat := by
  cases bound <;> simp [jsonBound]

theorem said?_map (key content : Layout) (bound : Option UInt64) :
    (map name key content bound).said? "key" = some key.childForm ∧
    (map name key content bound).said? "value" = some content.childForm ∧
    (map name key content bound).said? "max_length" = bound.map fun max => .int max.toNat := by
  cases bound <;> simp [jsonBound]

theorem said?_option (inner : Layout) :
    (option name inner).said? "type" = some inner.childForm := by
  simp

theorem said?_struct (fields : List (String × Layout)) :
    (struct name fields).said? "fields" = some (.array (fields.map fun field =>
      .object [("name", .string field.1), ("type", field.2.childForm)])) := by
  have hsorted (name : String) (layout : Layout) :
      Json.normalizeEntries [] [("name", .string name), ("type", jsonChild layout layout.toJson)] =
        [("name", .string name), ("type", layout.childForm)] := rfl
  simp [Json.normalizeItems_eq, fieldsToJson_eq, hsorted]

theorem said?_tuple (members : List Layout) :
    (tuple name members).said? "members" = some (.array (members.map childForm)) := by
  simp [Json.normalizeItems_eq, membersToJson_eq, Function.comp_def]

theorem said?_enum (variants : List (String × Layout)) (tag : TagWidth) :
    (enum name variants tag).said? "tag_width" = some (.int tag.size) ∧
    (enum name variants tag).said? "variants" =
      some (.array (variants.map fun variant => entryForm variant.1 variant.2)) := by
  simp [Json.normalizeItems_eq, variantsToJson_eq, Function.comp_def, entryForm]

end Shapes

/-- No body has an entry of one of these keys. -/
theorem said?_reserved (layout : Layout) :
    layout.said? "name" = none ∧ layout.said? "ref" = none := by
  cases layout with
  | primitive name kind =>
    rcases kind.shown_or_bounded with h | ⟨max, rfl⟩
    · simp [said?_shown h]
    · simp [said?, toJson, jsonPrimitive, Json.entries, Json.said?]
  | sequence name element bound | map name key content bound =>
    cases bound <;> simp [said?, toJson, jsonBound, Json.entries, Json.said?]
  | _ => simp [said?, toJson, Json.entries, Json.said?]

/-- The kind in the body, where all primitives have one. -/
def shape : Layout → String
  | .primitive _ _ => "primitive"
  | .array _ _ _ => "array"
  | .sequence _ _ _ => "sequence"
  | .map _ _ _ _ => "map"
  | .option _ _ => "option"
  | .struct _ _ => "struct"
  | .tuple _ _ => "tuple_struct"
  | .enum _ _ _ => "enum"

/-- Only primitives have bodies without a kind, or with that of a string. -/
def shapeOf : Option Json → String
  | some (.string "string") => "primitive"
  | some (.string kind) => kind
  | _ => "primitive"

theorem shape_eq (layout : Layout) : layout.shape = shapeOf (layout.said? "kind") := by
  cases layout with
  | primitive name kind =>
    rcases kind.shown_or_bounded with h | ⟨max, rfl⟩
    · simp [said?_shown h, shape, shapeOf]
    · simp [said?_bounded, shape, shapeOf]
  | sequence name element bound | map name key content bound =>
    cases bound <;>
      simp [said?, toJson, jsonBound, Json.entries, Json.said?, Json.normalize, shape, shapeOf]
  | _ => simp [said?, toJson, Json.entries, Json.said?, Json.normalize, shape, shapeOf]

theorem Alike.shape_eq {layout other : Layout} (h : Alike layout other) :
    layout.shape = other.shape := by
  rw [Layout.shape_eq, Layout.shape_eq, h "kind"]

theorem jsonNamed_eq (name : String) (body : Json) :
    jsonNamed name body = .object (("name", .string name) :: body.entries) := by
  cases body <;> rfl

theorem alike_of_entryForm_eq {name name' : String} {layout other : Layout}
    (h : entryForm name layout = entryForm name' other) : name = name' ∧ Alike layout other := by
  have hsaid (key : String) :
      (layout.said? key).or (if "name" = key then some (Json.string name) else none) =
        (other.said? key).or (if "name" = key then some (Json.string name') else none) := by
    unfold entryForm at h
    rw [jsonNamed_eq, jsonNamed_eq] at h
    exact Json.said?_congr h key
  constructor
  · have hname := hsaid "name"
    simpa [said?_reserved] using hname
  · intro key
    by_cases hkey : "name" = key
    · rw [← hkey, layout.said?_reserved.1, other.said?_reserved.1]
    · simpa [hkey] using hsaid key

theorem childForm_named {layout : Layout} (h : layout.isNamed) :
    layout.childForm = .object [("ref", .string layout.name)] := by
  unfold childForm jsonChild
  rw [if_pos h]
  rfl

theorem childForm_plain {layout : Layout} (h : ¬layout.isNamed) :
    layout.childForm = layout.toJson.normalize := by
  unfold childForm jsonChild
  rw [if_neg h]

/-- A reference is no body. -/
theorem normalize_ne_ref (layout : Layout) (name : String) :
    layout.toJson.normalize ≠ .object [("ref", .string name)] := by
  intro h
  have hsaid : layout.said? "ref" = some (.string name) :=
    Json.said?_congr (b := .object [("ref", .string name)]) h "ref"
  rw [layout.said?_reserved.2] at hsaid
  cases hsaid

end Layout

/-- Entries of one name are alike in the tables. -/
def Table.Agrees (t t' : Table) : Prop :=
  ∀ name layout layout', t.get? name = some layout → t'.get? name = some layout' →
    layout.Alike layout'

namespace Layout

/-- No other layout of the same name in a table that agrees is alike. -/
def Identified (layout : Layout) : Prop :=
  ∀ other t t', t.Agrees t' → layout.Linked t → other.Linked t' → layout.name = other.name →
    Alike layout other → layout = other

section Parts
variable {t t' : Table} {layout other : Layout}

theorem Identified.child (h : layout.Identified) (hagree : t.Agrees t') (hfits : t.Fits layout)
    (hfits' : t'.Fits other) (hform : layout.childForm = other.childForm) : layout = other := by
  by_cases hnamed : layout.isNamed
  · rw [childForm_named hnamed] at hform
    by_cases hnamed' : other.isNamed
    · rw [childForm_named hnamed'] at hform
      have hname : layout.name = other.name := by simpa using hform
      -- Only the name is written, but the entry of that name is the child itself.
      have hentry := hfits.1 hnamed
      have hentry' := hfits'.1 hnamed'
      rw [← hname] at hentry'
      exact h other t t' hagree hfits.2 hfits'.2 hname (hagree _ _ _ hentry hentry')
    · rw [childForm_plain hnamed'] at hform
      exact absurd hform.symm (normalize_ne_ref other layout.name)
  · rw [childForm_plain hnamed] at hform
    by_cases hnamed' : other.isNamed
    · rw [childForm_named hnamed'] at hform
      exact absurd hform (normalize_ne_ref layout other.name)
    · rw [childForm_plain hnamed'] at hform
      have hname : layout.name = other.name := by
        rw [eq_of_not_isNamed hnamed, eq_of_not_isNamed hnamed']
      exact h other t t' hagree hfits.2 hfits'.2 hname (alike_of_normalize_eq hform)

end Parts

/-- The lists go together part by part. -/
theorem forall₂_of_map_eq {form : α → Json} {items others : List α}
    (h : items.map form = others.map form) :
    List.Forall₂ (fun item other => form item = form other) items others := by
  rw [← List.forall₂_eq_eq_eq, List.forall₂_map_left_iff, List.forall₂_map_right_iff] at h
  exact h

theorem bound_inj {bound bound' : Option UInt64}
    (h : bound.map (fun max => Json.int max.toNat) = bound'.map fun max => Json.int max.toNat) :
    bound = bound' := by
  apply Option.map_injective _ h
  intro max max' heq
  exact UInt64.toNat_inj.mp (Int.natCast_inj.mp (Json.int.inj heq))

section Shapes
variable {name : String}

theorem identified_primitive (kind : Primitive) : (primitive name kind).Identified := by
  intro other t t' _ _ _ hname halike
  have hshape := halike.shape_eq
  cases other with
  | primitive name' kind' =>
    obtain rfl : name = name' := hname
    have htype := halike "type"
    have hmax := halike "max_length"
    rcases kind.shown_or_bounded with h | ⟨max, rfl⟩ <;>
      rcases kind'.shown_or_bounded with h' | ⟨max', rfl⟩
    · simp only [said?_shown h, said?_shown h', if_true, Option.some.injEq, Json.string.injEq]
        at htype
      rw [Primitive.eq_of_name_eq h h' htype]
    · simp [said?_shown h, said?_bounded] at hmax
    · simp [said?_shown h', said?_bounded] at hmax
    · simp only [said?_bounded, Option.some.injEq, Json.int.injEq, Int.natCast_inj,
        UInt64.toNat_inj] at hmax
      rw [hmax]
  | _ => simp [shape] at hshape

theorem identified_array {element : Layout} (length : UInt64) (h : element.Identified) :
    (array name element length).Identified := by
  intro other t t' hagree hlinked hlinked' hname halike
  have hshape := halike.shape_eq
  cases other with
  | array name' element' length' =>
    obtain rfl : name = name' := hname
    have htype := halike "type"
    have hlength := halike "length"
    simp only [said?_array, Option.some.injEq, Json.int.injEq, Int.natCast_inj, UInt64.toNat_inj]
      at htype hlength
    cases hlinked with | array hs hl =>
    cases hlinked' with | array hs' hl' =>
    rw [h.child hagree ⟨hs, hl⟩ ⟨hs', hl'⟩ htype, hlength]
  | _ => simp [shape] at hshape

theorem identified_sequence {element : Layout} (bound : Option UInt64) (h : element.Identified) :
    (sequence name element bound).Identified := by
  intro other t t' hagree hlinked hlinked' hname halike
  have hshape := halike.shape_eq
  cases other with
  | sequence name' element' bound' =>
    obtain rfl : name = name' := hname
    have htype := halike "type"
    have hbound := halike "max_length"
    simp only [said?_sequence, Option.some.injEq] at htype hbound
    cases hlinked with | sequence hs hl =>
    cases hlinked' with | sequence hs' hl' =>
    rw [h.child hagree ⟨hs, hl⟩ ⟨hs', hl'⟩ htype, bound_inj hbound]
  | _ => simp [shape] at hshape

theorem identified_map {key content : Layout} (bound : Option UInt64) (hkey : key.Identified)
    (hcontent : content.Identified) : (map name key content bound).Identified := by
  intro other t t' hagree hlinked hlinked' hname halike
  have hshape := halike.shape_eq
  cases other with
  | map name' key' content' bound' =>
    obtain rfl : name = name' := hname
    have hkeys := halike "key"
    have hvalues := halike "value"
    have hbound := halike "max_length"
    simp only [said?_map, Option.some.injEq] at hkeys hvalues hbound
    cases hlinked with | map hks hkl hcs hcl =>
    cases hlinked' with | map hks' hkl' hcs' hcl' =>
    rw [hkey.child hagree ⟨hks, hkl⟩ ⟨hks', hkl'⟩ hkeys,
      hcontent.child hagree ⟨hcs, hcl⟩ ⟨hcs', hcl'⟩ hvalues, bound_inj hbound]
  | _ => simp [shape] at hshape

theorem identified_option {inner : Layout} (h : inner.Identified) :
    (option name inner).Identified := by
  intro other t t' hagree hlinked hlinked' hname halike
  have hshape := halike.shape_eq
  cases other with
  | option name' inner' =>
    obtain rfl : name = name' := hname
    have htype := halike "type"
    simp only [said?_option, Option.some.injEq] at htype
    cases hlinked with | option hs hl =>
    cases hlinked' with | option hs' hl' =>
    rw [h.child hagree ⟨hs, hl⟩ ⟨hs', hl'⟩ htype]
  | _ => simp [shape] at hshape

theorem identified_struct {fields : List (String × Layout)}
    (h : ∀ field ∈ fields, field.2.Identified) : (struct name fields).Identified := by
  intro other t t' hagree hlinked hlinked' hname halike
  have hshape := halike.shape_eq
  cases other with
  | struct name' fields' =>
    obtain rfl : name = name' := hname
    have hfields := halike "fields"
    simp only [said?_struct, Option.some.injEq, Json.array.injEq] at hfields
    cases hlinked with | struct hs hl =>
    cases hlinked' with | struct hs' hl' =>
    have hsame : fields = fields' := by
      refine eq_of_forall₂ (forall₂_of_map_eq hfields) fun field hf field' hf' hboth => ?_
      obtain ⟨hname, htype⟩ : field.1 = field'.1 ∧ field.2.childForm = field'.2.childForm := by
        simpa using hboth
      exact Prod.ext hname ((h field hf).child hagree ⟨hs field hf, hl field hf⟩
        ⟨hs' field' hf', hl' field' hf'⟩ htype)
    rw [hsame]
  | _ => simp [shape] at hshape

theorem identified_tuple {members : List Layout} (h : ∀ member ∈ members, member.Identified) :
    (tuple name members).Identified := by
  intro other t t' hagree hlinked hlinked' hname halike
  have hshape := halike.shape_eq
  cases other with
  | tuple name' members' =>
    obtain rfl : name = name' := hname
    have hmembers := halike "members"
    simp only [said?_tuple, Option.some.injEq, Json.array.injEq] at hmembers
    cases hlinked with | tuple hs hl =>
    cases hlinked' with | tuple hs' hl' =>
    have hsame : members = members' := by
      refine eq_of_forall₂ (forall₂_of_map_eq hmembers) fun member hm member' hm' hform => ?_
      exact (h member hm).child hagree ⟨hs member hm, hl member hm⟩
        ⟨hs' member' hm', hl' member' hm'⟩ hform
    rw [hsame]
  | _ => simp [shape] at hshape

theorem identified_enum {variants : List (String × Layout)} (tag : TagWidth)
    (h : ∀ variant ∈ variants, variant.2.Identified) : (enum name variants tag).Identified := by
  intro other t t' hagree hlinked hlinked' hname halike
  have hshape := halike.shape_eq
  cases other with
  | enum name' variants' tag' =>
    obtain rfl : name = name' := hname
    have htag := halike "tag_width"
    have hvariants := halike "variants"
    simp only [said?_enum, Option.some.injEq, Json.int.injEq, Int.natCast_inj,
      Json.array.injEq] at htag hvariants
    cases hlinked with | enum hnames hl =>
    cases hlinked' with | enum hnames' hl' =>
    have hwidth : tag = tag' := by
      have hread := tag.ofSize?_size
      rw [htag, tag'.ofSize?_size] at hread
      exact (Option.some.inj hread).symm
    have hsame : variants = variants' := by
      refine eq_of_forall₂ (forall₂_of_map_eq hvariants) fun variant hv variant' hv' hform => ?_
      obtain ⟨hown, hpayload⟩ := alike_of_entryForm_eq hform
      -- The payload has the name of the variant in front of its body, and no other.
      have hlayout : variant.2.name = variant'.2.name := by
        rw [hnames variant hv, hnames' variant' hv', hown]
      exact Prod.ext hown (h variant hv _ t t' hagree (hl variant hv) (hl' variant' hv') hlayout
        hpayload)
    rw [hsame, hwidth]
  | _ => simp [shape] at hshape

end Shapes

theorem identified (layout : Layout) : layout.Identified := by
  induction layout with
  | primitive name kind => exact identified_primitive kind
  | array name element length ih => exact identified_array length ih
  | sequence name element bound ih => exact identified_sequence bound ih
  | map name key content bound ihk ihc => exact identified_map bound ihk ihc
  | option name inner ih => exact identified_option ih
  | struct name fields ih => exact identified_struct ih
  | tuple name members ih => exact identified_tuple ih
  | enum name variants tag ih => exact identified_enum tag ih

end Layout

namespace Table
open Layout

theorem forall₂_of_toJson_eq {t t' : Table} (h : t.toJson.normalize = t'.toJson.normalize) :
    List.Forall₂ (fun entry other => entry.1 = other.1 ∧ Alike entry.2 other.2) t.entries
      t'.entries := by
  have htypes := Json.said?_congr h "types"
  simp only [toJson, Json.entries, Json.said?, Json.normalize, Json.normalizeItems_eq, if_true,
    Option.none_or, Option.some.injEq, Json.array.injEq, List.map_map] at htypes
  refine (forall₂_of_map_eq htypes).imp ?_
  intro entry other hform
  exact alike_of_entryForm_eq hform

/-- Two tables have the same JSON, whatever the order of keys, only if they have the same entries in
the same order, each with all its bounds, lengths, tag widths, fields and references. -/
theorem toJson_eq_iff {ds ds' : List Declaration} {t t' : Table} (h : emit ds = .ok t)
    (h' : emit ds' = .ok t') : t.toJson.normalize = t'.toJson.normalize ↔ t = t' := by
  constructor
  · intro hjson
    obtain ⟨refer, hlaid⟩ := exists_laidOut h
    obtain ⟨refer', hlaid'⟩ := exists_laidOut h'
    have hentries := forall₂_of_toJson_eq hjson
    have hagree : t.Agrees t' := by
      intro name layout layout' hlayout hlayout'
      exact (forall₂_get? (fun _ _ hboth => hboth.1) hentries hlayout hlayout').2
    have hsame : t.entries = t'.entries := by
      refine eq_of_forall₂ hentries fun entry hentry other hother hboth => ?_
      obtain ⟨hown, halike⟩ := hboth
      have hname : entry.2.name = other.2.name := by
        rw [hlaid.name_eq hentry, hlaid'.name_eq hother, hown]
      exact Prod.ext hown (identified entry.2 other.2 t t' hagree (hlaid.linked hentry)
        (hlaid'.linked hother) hname halike)
    cases t
    cases t'
    cases hsame
    rfl
  · intro heq
    rw [heq]

/-- A lock refers to its key, whose width shows in the entry of the key only. -/
def lock (width : UInt64) : List Declaration :=
  [⟨"Lock", .struct [⟨"key", .named "Key", false⟩]⟩, ⟨"Key", .tuple [.bytes width]⟩]

def lockTable (width : UInt64) : Table :=
  let key := .tuple "Key" [.ofPrimitive (.fixedBytes width)]
  ⟨[("Lock", .struct "Lock" [("key", key)]), ("Key", key)]⟩

theorem toJson_lock_ne : emit (lock 32) = .ok (lockTable 32) ∧
    emit (lock 64) = .ok (lockTable 64) ∧
    (lockTable 32).toJson.normalize ≠ (lockTable 64).toJson.normalize := by
  have h : emit (lock 32) = .ok (lockTable 32) := by rfl
  have h' : emit (lock 64) = .ok (lockTable 64) := by rfl
  refine ⟨h, h', ?_⟩
  intro heq
  have hsame := (toJson_eq_iff h h').mp heq
  simp [lockTable, Layout.ofPrimitive] at hsame

end Table
end WireSchema
