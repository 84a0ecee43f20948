import WireSchema.Declaration.Json
import WireSchema.Proofs.Objects
import WireSchema.Proofs.Reparse
import WireSchema.Proofs.Vocabulary

/-!
Declarations that are written as JSON and read again. Main statement: they come back as they were if
their types are written as a text would give them.
-/

namespace WireSchema

namespace TypeExpr

/-- Every name is a word, that of a primitive only where a primitive is meant, and no array is one
of bytes. -/
def isPlain : TypeExpr → Bool
  | primitive name => Primitive.words.any (·.1 == name)
  | named name => isWord name.toList && !Word.reserved.contains name && !Primitive.isName name
  | sequence element | boundedSequence element _ | option element => element.isPlain
  | map key value | boundedMap key value _ => key.isPlain && value.isPlain
  | array element _ => element.isPlain && element != primitive "u8"
  | bytes _ | boundedString _ => true

/-- The names are as a text gives them, and the text is nested no deeper than may be read. -/
def Writable (e : TypeExpr) : Prop :=
  e.isPlain ∧ nesting e.render.toList ≤ nestingLimit

instance (e : TypeExpr) : Decidable e.Writable :=
  inferInstanceAs (Decidable (_ ∧ _))

theorem isPlain_named {name : String} (h : (named name).isPlain) :
    isWord name.toList ∧ name ∉ Word.reserved ∧ ¬Primitive.isName name := by
  simpa [isPlain, and_assoc] using h

theorem spelled_of_isPlain {e : TypeExpr} (h : e.isPlain) : Nonempty (Spelling e) := by
  induction e with
  | primitive name =>
    obtain ⟨entry, hmem, heq⟩ := List.any_eq_true.mp h
    obtain rfl : entry.1 = name := by simpa using heq
    obtain ⟨hword, hfree, hname⟩ := Primitive.word_of_mem_words hmem
    refine ⟨.name (.name (.plain ⟨entry.1, hword⟩ hfree)) ?_⟩
    exact (if_pos hname).symm
  | named name =>
    obtain ⟨hword, hfree, hname⟩ := isPlain_named h
    refine ⟨.name (.name (.plain ⟨name, hword⟩ hfree)) ?_⟩
    exact (if_neg hname).symm
  | sequence element ih => exact (ih h).map .sequence
  | boundedSequence element bound ih =>
    exact (ih h).map fun spelling => .boundedSequence spelling bound
  | option inner ih => exact (ih h).map .option
  | map key value ihk ihv =>
    obtain ⟨hkey, hvalue⟩ := Bool.and_eq_true_iff.mp h
    exact (ihk hkey).map2 .map (ihv hvalue)
  | boundedMap key value bound ihk ihv =>
    obtain ⟨hkey, hvalue⟩ := Bool.and_eq_true_iff.mp h
    exact (ihk hkey).map2 (fun first second => .boundedMap first second bound) (ihv hvalue)
  | array element length ih =>
    obtain ⟨helement, hother⟩ := Bool.and_eq_true_iff.mp h
    have hbytes : element ≠ primitive "u8" := by simpa using hother
    exact (ih helement).map fun spelling => .array spelling length hbytes
  | bytes width => exact ⟨.bytes width⟩
  | boundedString bound => exact ⟨.boundedString bound⟩

theorem not_reserved_of_isPlain {e : TypeExpr} (h : e.isPlain) :
    ∀ name ∈ e.references, name ∉ Word.reserved := by
  induction e with
  | named name =>
    obtain ⟨-, hfree, -⟩ := isPlain_named h
    simpa [references] using hfree
  | sequence element ih | boundedSequence element bound ih | option element ih => exact ih h
  | map key value ihk ihv | boundedMap key value bound ihk ihv =>
    obtain ⟨hkey, hvalue⟩ := Bool.and_eq_true_iff.mp h
    exact List.forall_mem_append.mpr ⟨ihk hkey, ihv hvalue⟩
  | array element length ih => exact ih (Bool.and_eq_true_iff.mp h).1
  | primitive | bytes | boundedString => simp [references]

theorem Writable.parse_eq {e : TypeExpr} (h : e.Writable) : parse e.render = .ok e := by
  obtain ⟨hplain, hnesting⟩ := h
  obtain ⟨spelling⟩ := spelled_of_isPlain hplain
  have htry : "try" ∉ e.references :=
    fun hmem => not_reserved_of_isPlain hplain "try" hmem (by decide)
  rw [parse_render spelling, if_neg (by omega), if_neg htry]

end TypeExpr

namespace Json

/-- The value is read as `a`, also when the keys of its objects have been sorted. -/
def Restores {α : Type} (read : Json → Except JsonFault α) (json : Json) (a : α) : Prop :=
  read json = .ok a ∧ read json.normalize = .ok a

section Restores
variable {α β : Type} {read : Json → Except JsonFault α} {write : α → Json} {items : List α}

/-- An object of one entry, whose key tells what the value in it is. -/
theorem Restores.tagged {json : Json} {a : α} (h : Restores read json a)
    {outer : Json → Except JsonFault β} {key : String} {wrap : α → β}
    (houter : ∀ json, outer (.object [(key, json)]) = do return wrap (← read json)) :
    Restores outer (.object [(key, json)]) (wrap a) := by
  obtain ⟨hread, hsorted⟩ := h
  constructor
  · rw [houter, hread, ok_bind, pure_eq_ok]
  · have hnormal : (object [(key, json)]).normalize = object [(key, json.normalize)] := rfl
    rw [hnormal, houter, hsorted, ok_bind, pure_eq_ok]

theorem mapM_map (h : ∀ a ∈ items, read (write a) = .ok a) :
    (items.map write).mapM read = .ok items := by
  induction items with
  | nil => rfl
  | cons a items ih =>
    obtain ⟨ha, hitems⟩ := List.forall_mem_cons.mp h
    rw [List.map_cons, List.mapM_cons, ha, ih hitems]
    rfl

theorem restores_list (h : ∀ a ∈ items, Restores read (write a) a) :
    Restores (asList read) (.array (items.map write)) items := by
  constructor
  · exact mapM_map fun a ha => (h a ha).1
  · rw [normalize, normalizeItems_eq, List.map_map]
    exact mapM_map fun a ha => (h a ha).2

end Restores
end Json

open Json (Restores restores_list)

theorem TypeExpr.Writable.restores {e : TypeExpr} (h : e.Writable) :
    Restores TypeExpr.ofJson e.toJson e := by
  have hread : TypeExpr.ofJson e.toJson = .ok e := by
    simp [TypeExpr.ofJson, TypeExpr.toJson, Json.asText, h.parse_eq, ok_bind, pure_eq_ok]
  exact ⟨hread, hread⟩

theorem TagWidth.restores (tag : TagWidth) : Restores TagWidth.ofJson (.int tag.size) tag := by
  cases tag <;> exact ⟨rfl, rfl⟩

namespace Declaration

theorem Field.restores {field : Field} (h : field.type.Writable) :
    Restores Field.ofJson field.toJson field := by
  have htype := h.restores.1
  have hsorted : field.toJson.normalize = .object [("name", .string field.name),
    ("skip", .bool field.skip), ("ty", field.type.toJson)] := rfl
  rw [Restores, hsorted]
  simp [Field.toJson, Field.ofJson, Json.required, Json.optional, Json.entry?, Json.asText,
    Json.asBool, htype, ok_bind, pure_eq_ok]

/-- The types in a payload. -/
def Payload.written : Payload → List TypeExpr
  | .unit => []
  | .named fields => fields.map (·.type)
  | .unnamed members => members

/-- The types that a declaration writes, also those of skipped fields. -/
def Body.written : Body → List TypeExpr
  | .struct fields => fields.map (·.type)
  | .tuple members => members
  | .enum variants _ => variants.flatMap (·.payload.written)
  | .alias target => [target]

theorem restores_fields {fields : List Field} (h : ∀ field ∈ fields, field.type.Writable) :
    Restores (Json.asList Field.ofJson) (.array (fields.map Field.toJson)) fields :=
  restores_list fun field hfield => Field.restores (h field hfield)

theorem restores_members {members : List TypeExpr} (h : ∀ type ∈ members, type.Writable) :
    Restores (Json.asList TypeExpr.ofJson) (.array (members.map TypeExpr.toJson)) members :=
  restores_list fun type htype => (h type htype).restores

theorem Payload.restores {payload : Payload} (h : ∀ type ∈ payload.written, type.Writable) :
    Restores Payload.ofJson payload.toJson payload := by
  cases payload with
  | unit => exact ⟨rfl, rfl⟩
  | named fields => exact (restores_fields (List.forall_mem_map.mp h)).tagged fun _ => rfl
  | unnamed members => exact (restores_members h).tagged fun _ => rfl

theorem Variant.restores {variant : Variant} (h : ∀ type ∈ variant.payload.written, type.Writable) :
    Restores Variant.ofJson variant.toJson variant := by
  obtain ⟨hread, hread'⟩ := Payload.restores h
  have hsorted : variant.toJson.normalize = .object [("fields", variant.payload.toJson.normalize),
    ("name", .string variant.name)] := rfl
  rw [Restores, hsorted]
  simp [Variant.toJson, Variant.ofJson, Json.required, Json.optional, Json.entry?, Json.asText,
    hread, hread', ok_bind, pure_eq_ok]

theorem restores_enum {variants : List Variant} (tag : TagWidth)
    (h : ∀ variant ∈ variants, Restores Variant.ofJson variant.toJson variant) :
    Restores enumOfJson (.object [("variants", .array (variants.map Variant.toJson)),
      ("tag_width", .int tag.size)]) (.enum variants tag) := by
  obtain ⟨hread, hread'⟩ := restores_list h
  have htag := tag.restores.1
  have hsorted (json : Json) : (Json.object [("variants", json),
    ("tag_width", .int tag.size)]).normalize =
      .object [("tag_width", .int tag.size), ("variants", json.normalize)] := rfl
  rw [Restores, hsorted]
  simp [enumOfJson, Json.required, Json.optional, Json.entry?, hread, hread', htag, ok_bind,
    pure_eq_ok]

theorem Body.restores {body : Body} (h : ∀ type ∈ body.written, type.Writable) :
    Restores Body.ofJson body.toJson body := by
  cases body with
  | struct fields => exact (restores_fields (List.forall_mem_map.mp h)).tagged fun _ => rfl
  | tuple members => exact (restores_members h).tagged fun _ => rfl
  | enum variants tag =>
    have hvariants : ∀ variant ∈ variants, Restores Variant.ofJson variant.toJson variant := by
      intro variant hvariant
      apply Variant.restores
      intro type htype
      exact h type (List.mem_flatMap.mpr ⟨variant, hvariant, htype⟩)
    have hbody : ∀ json, Body.ofJson (.object [("enum", json)]) =
        do return id (← enumOfJson json) :=
      fun json => (bind_pure (enumOfJson json)).symm
    exact (restores_enum tag hvariants).tagged hbody
  | «alias» target =>
    exact (h target (List.mem_singleton_self target)).restores.tagged fun _ => rfl

theorem restores {d : Declaration} (h : ∀ type ∈ d.body.written, type.Writable) :
    Restores ofJson d.toJson d := by
  obtain ⟨hread, hread'⟩ := Body.restores h
  have hsorted : d.toJson.normalize = .object [("kind", d.body.toJson.normalize),
    ("name", .string d.name)] := rfl
  rw [Restores, hsorted]
  simp [toJson, ofJson, Json.required, Json.optional, Json.entry?, Json.asText, hread, hread',
    ok_bind, pure_eq_ok]

/-- Declarations come back from their JSON as they were, also when its keys have been sorted. -/
theorem listOfJson_listToJson {ds : List Declaration}
    (h : ∀ d ∈ ds, ∀ type ∈ d.body.written, type.Writable) :
    listOfJson (listToJson ds) = .ok ds ∧ listOfJson (listToJson ds).normalize = .ok ds :=
  restores_list fun d hd => restores (h d hd)

/-- A ledger with a skipped field, a wide tag and the longest array. -/
def ledger : List Declaration :=
  [⟨"Ledger", .struct [⟨"rows", .array (.option (.named "Row")) 18446744073709551615, false⟩,
      ⟨"names", .boundedMap (.boundedString 8) (.primitive "String") 3, true⟩]⟩,
    ⟨"Row", .enum [⟨"Open", .unit⟩, ⟨"Held", .unnamed [.bytes 32, .primitive "Pubkey"]⟩,
      ⟨"Split", .named [⟨"shares", .boundedSequence (.named "Amount") 4, true⟩]⟩] .four⟩,
    ⟨"Amount", .alias (.primitive "u64")⟩]

theorem listOfJson_ledger : (∀ d ∈ ledger, ∀ type ∈ d.body.written, type.Writable) ∧
    listOfJson (listToJson ledger) = .ok ledger := by
  have h : ∀ d ∈ ledger, ∀ type ∈ d.body.written, type.Writable := by decide +kernel
  exact ⟨h, (listOfJson_listToJson h).1⟩

end Declaration
end WireSchema
