import WireSchema.Proofs.Wire

/-!
Values without content in the shape that their layout prescribes. Main statements: reshaping keeps
the bytes, and it keeps the value itself exactly when no part of it stands for the other shape.
-/

namespace WireSchema.Layout

mutual

/-- An empty tuple that stands for an empty struct becomes one, and the other way round. All else
is kept. -/
def reshape : Layout → Value → Value
  | .array _ element _, .array elements => .array (elements.map (reshape element))
  | .sequence _ element _, .sequence elements => .sequence (elements.map (reshape element))
  | .map _ key content _, .map entries =>
    .map (entries.map fun entry => (reshape key entry.1, reshape content entry.2))
  | .option _ inner, .present value => .present (reshape inner value)
  | .struct _ [], .tuple [] => .struct []
  | .struct _ fields, .struct values => .struct (reshapeFields fields values)
  | .tuple _ [], .struct [] => .tuple []
  | .tuple _ members, .tuple values => .tuple (reshapeMembers members values)
  | .enum _ variants _, .enum index payload =>
    .enum index (reshapePayload variants index.toNat payload)
  | _, value => value

def reshapeFields : List (String × Layout) → List (String × Value) → List (String × Value)
  | (_, layout) :: fields, (name, value) :: values =>
    (name, reshape layout value) :: reshapeFields fields values
  | _, values => values

def reshapeMembers : List Layout → List Value → List Value
  | layout :: members, value :: values => reshape layout value :: reshapeMembers members values
  | _, values => values

def reshapePayload : List (String × Layout) → Nat → Value → Value
  | [], _, value => value
  | (_, payload) :: _, 0, value => reshape payload value
  | _ :: rest, position + 1, value => reshapePayload rest position value

end

/-- What reshaping keeps, and that it has nothing left to do the second time. -/
structure Reshapes (layout : Layout) (value : Value) : Prop where
  wire : layout.wire (layout.reshape value) = layout.wire value
  nest : layout.nest (layout.reshape value) = layout.nest value
  admits : layout.Admits (layout.reshape value) ↔ layout.Admits value
  again : layout.reshape (layout.reshape value) = layout.reshape value

theorem reshapeFields_keeps {fields : List (String × Layout)}
    (h : ∀ field ∈ fields, ∀ value, field.2.Reshapes value) (values : List (String × Value)) :
    wireFields fields (reshapeFields fields values) = wireFields fields values ∧
      nestFields fields (reshapeFields fields values) = nestFields fields values ∧
      (AdmitsFields fields (reshapeFields fields values) ↔ AdmitsFields fields values) ∧
      reshapeFields fields (reshapeFields fields values) = reshapeFields fields values := by
  induction fields generalizing values with
  | nil => simp [reshapeFields]
  | cons field fields ih =>
    obtain ⟨name, layout⟩ := field
    cases values with
    | nil => simp [reshapeFields]
    | cons entry values =>
      obtain ⟨name', value⟩ := entry
      have hv : layout.Reshapes value := h _ List.mem_cons_self value
      obtain ⟨hw, hn, ha, hr⟩ := ih (fun f hf => h f (List.mem_cons_of_mem _ hf)) values
      simp [reshapeFields, wireFields, nestFields, AdmitsFields, hv.wire, hv.nest, hv.admits,
        hv.again, hw, hn, ha, hr]

theorem reshapeMembers_keeps {members : List Layout}
    (h : ∀ member ∈ members, ∀ value, member.Reshapes value) (values : List Value) :
    wireMembers members (reshapeMembers members values) = wireMembers members values ∧
      nestMembers members (reshapeMembers members values) = nestMembers members values ∧
      (AdmitsMembers members (reshapeMembers members values) ↔ AdmitsMembers members values) ∧
      reshapeMembers members (reshapeMembers members values) = reshapeMembers members values := by
  induction members generalizing values with
  | nil => simp [reshapeMembers]
  | cons layout members ih =>
    cases values with
    | nil => simp [reshapeMembers]
    | cons value values =>
      have hv : layout.Reshapes value := h _ List.mem_cons_self value
      obtain ⟨hw, hn, ha, hr⟩ := ih (fun m hm => h m (List.mem_cons_of_mem _ hm)) values
      simp [reshapeMembers, wireMembers, nestMembers, AdmitsMembers, hv.wire, hv.nest, hv.admits,
        hv.again, hw, hn, ha, hr]

theorem reshapePayload_keeps {variants : List (String × Layout)}
    (h : ∀ variant ∈ variants, ∀ value, variant.2.Reshapes value) (position : Nat)
    (value : Value) :
    wirePayload variants position (reshapePayload variants position value) =
        wirePayload variants position value ∧
      nestPayload variants position (reshapePayload variants position value) =
        nestPayload variants position value ∧
      (AdmitsPayload variants position (reshapePayload variants position value) ↔
        AdmitsPayload variants position value) ∧
      reshapePayload variants position (reshapePayload variants position value) =
        reshapePayload variants position value := by
  induction variants generalizing position with
  | nil => simp [reshapePayload]
  | cons variant variants ih =>
    cases position with
    | zero =>
      have hv : variant.2.Reshapes value := h _ List.mem_cons_self value
      exact ⟨hv.wire, hv.nest, hv.admits, hv.again⟩
    | succ position => exact ih (fun v hv => h v (List.mem_cons_of_mem _ hv)) position

theorem reshapes (layout : Layout) (value : Value) : layout.Reshapes value := by
  induction layout generalizing value with
  | primitive name kind => constructor <;> simp [reshape]
  | array name element length ih =>
    cases value with
    | array elements =>
      constructor
      · simp [reshape, wire, List.flatMap_map, (ih _).wire]
      · simp [reshape, nest, deepest_map, (ih _).nest]
      · simp [reshape, Admits, (ih _).admits]
      · simp [reshape, (ih _).again]
    | _ => constructor <;> simp [reshape]
  | sequence name element bound ih =>
    cases value with
    | sequence elements =>
      constructor
      · simp [reshape, wire, List.flatMap_map, (ih _).wire]
      · simp [reshape, nest, deepest_map, (ih _).nest]
      · simp [reshape, Admits, (ih _).admits]
      · simp [reshape, (ih _).again]
    | _ => constructor <;> simp [reshape]
  | map name key content bound ihk ihc =>
    cases value with
    | map entries =>
      constructor
      · simp [reshape, wire, List.flatMap_map, (ihk _).wire, (ihc _).wire]
      · simp [reshape, nest, deepest_map, (ihk _).nest, (ihc _).nest]
      · simp only [reshape, Admits, List.length_map, List.map_map, Function.comp_def,
          List.forall_mem_map, (ihk _).wire, (ihk _).admits, (ihc _).admits]
      · simp [reshape, (ihk _).again, (ihc _).again]
    | _ => constructor <;> simp [reshape]
  | option name inner ih =>
    cases value with
    | present value =>
      constructor
      · simp [reshape, wire, (ih _).wire]
      · simp [reshape, nest, (ih _).nest]
      · simp [reshape, Admits, (ih _).admits]
      · simp [reshape, (ih _).again]
    | _ => constructor <;> simp [reshape]
  | struct name fields ih =>
    cases value with
    | struct values =>
      obtain ⟨hw, hn, ha, hr⟩ := reshapeFields_keeps ih values
      constructor <;> simp [reshape, wire, nest, Admits, hw, hn, ha, hr]
    | tuple values =>
      cases fields <;> cases values <;> constructor <;>
        simp [reshape, reshapeFields, wire, wireFields, nest, nestFields, Admits, AdmitsFields]
    | _ => constructor <;> simp [reshape]
  | tuple name members ih =>
    cases value with
    | tuple values =>
      obtain ⟨hw, hn, ha, hr⟩ := reshapeMembers_keeps ih values
      constructor <;> simp [reshape, wire, nest, Admits, hw, hn, ha, hr]
    | struct values =>
      cases members <;> cases values <;> constructor <;>
        simp [reshape, reshapeMembers, wire, wireMembers, nest, nestMembers, Admits, AdmitsMembers]
    | _ => constructor <;> simp [reshape]
  | enum name variants tag ih =>
    cases value with
    | enum index payload =>
      obtain ⟨hw, hn, ha, hr⟩ := reshapePayload_keeps ih index.toNat payload
      constructor <;> simp [reshape, wire, nest, Admits, hw, hn, ha, hr]
    | _ => constructor <;> simp [reshape]

/-- A struct without fields given as an empty tuple, or a tuple without members given as an empty
struct. -/
def Interchanged : Layout → Value → Prop
  | .struct _ [], .tuple [] => True
  | .tuple _ [], .struct [] => True
  | _, _ => False

/-- The parts of a value, itself among them, each with the layout that it is read and written by. -/
inductive Part : Layout → Value → Layout → Value → Prop
  | whole : Part layout value layout value
  | arrayElement : value ∈ elements → Part element value layout part →
      Part (.array typeName element length) (.array elements) layout part
  | sequenceElement : value ∈ elements → Part element value layout part →
      Part (.sequence typeName element bound) (.sequence elements) layout part
  | key : entry ∈ entries → Part keyLayout entry.1 layout part →
      Part (.map typeName keyLayout content bound) (.map entries) layout part
  | content : entry ∈ entries → Part contentLayout entry.2 layout part →
      Part (.map typeName key contentLayout bound) (.map entries) layout part
  | inner : Part innerLayout value layout part →
      Part (.option typeName innerLayout) (.present value) layout part
  | field : (field, entry) ∈ fields.zip values → Part field.2 entry.2 layout part →
      Part (.struct typeName fields) (.struct values) layout part
  | member : (member, value) ∈ members.zip values → Part member value layout part →
      Part (.tuple typeName members) (.tuple values) layout part
  | payload : variants[index.toNat]? = some variant → Part variant.2 value layout part →
      Part (.enum typeName variants tag) (.enum index value) layout part

/-- No part of the value has the other shape. -/
def Shaped (layout : Layout) (value : Value) : Prop :=
  ∀ part piece, Part layout value part piece → ¬Interchanged part piece

theorem map_eq_self_iff {α : Type} {f : α → α} {xs : List α} :
    xs.map f = xs ↔ ∀ x ∈ xs, f x = x := by
  simpa using @List.map_inj_left _ _ xs f id

theorem reshapeFields_eq_self_iff {fields : List (String × Layout)}
    {values : List (String × Value)} :
    reshapeFields fields values = values ↔
      ∀ pair ∈ fields.zip values, pair.1.2.reshape pair.2.2 = pair.2.2 := by
  induction fields generalizing values with
  | nil => simp [reshapeFields]
  | cons field fields ih =>
    cases values with
    | nil => simp [reshapeFields]
    | cons value values =>
      simp only [reshapeFields, List.cons.injEq, Prod.ext_iff, true_and, ih, List.zip_cons_cons,
        List.forall_mem_cons]

theorem reshapeMembers_eq_self_iff {members : List Layout} {values : List Value} :
    reshapeMembers members values = values ↔
      ∀ pair ∈ members.zip values, pair.1.reshape pair.2 = pair.2 := by
  induction members generalizing values with
  | nil => simp [reshapeMembers]
  | cons member members ih =>
    cases values with
    | nil => simp [reshapeMembers]
    | cons value values => simp [reshapeMembers, ih]

theorem reshapePayload_eq_self_iff {variants : List (String × Layout)} {position : Nat}
    {value : Value} :
    reshapePayload variants position value = value ↔
      ∀ variant, variants[position]? = some variant → variant.2.reshape value = value := by
  induction variants generalizing position with
  | nil => simp [reshapePayload]
  | cons variant variants ih =>
    cases position with
    | zero => simp [reshapePayload]
    | succ position => simpa [reshapePayload] using ih

/-- What reshaping leaves alone as a whole it leaves alone in every part. -/
theorem Part.reshape_eq_self {layout part : Layout} {value piece : Value}
    (h : Part layout value part piece) (hv : layout.reshape value = value) :
    part.reshape piece = piece := by
  induction h with
  | whole => exact hv
  | arrayElement hm _ ih => exact ih (map_eq_self_iff.mp (Value.array.inj hv) _ hm)
  | sequenceElement hm _ ih => exact ih (map_eq_self_iff.mp (Value.sequence.inj hv) _ hm)
  | key hm _ ih =>
    exact ih (congrArg Prod.fst (map_eq_self_iff.mp (Value.map.inj hv) _ hm))
  | content hm _ ih =>
    exact ih (congrArg Prod.snd (map_eq_self_iff.mp (Value.map.inj hv) _ hm))
  | inner _ ih => exact ih (Value.present.inj hv)
  | field hm _ ih => exact ih (reshapeFields_eq_self_iff.mp (by simpa [reshape] using hv) _ hm)
  | member hm _ ih => exact ih (reshapeMembers_eq_self_iff.mp (by simpa [reshape] using hv) _ hm)
  | payload hv' _ ih => exact ih (reshapePayload_eq_self_iff.mp (by simpa [reshape] using hv) _ hv')

theorem Interchanged.reshape_ne_self {layout : Layout} {value : Value}
    (h : Interchanged layout value) : layout.reshape value ≠ value := by
  unfold Interchanged at h
  split at h
  · simp [reshape]
  · simp [reshape]
  · exact h.elim

theorem Shaped.of_part {layout part : Layout} {value piece : Value} (h : Shaped layout value)
    (hstep : ∀ deeper rest, Part part piece deeper rest → Part layout value deeper rest) :
    Shaped part piece :=
  fun deeper rest hp => h deeper rest (hstep deeper rest hp)

theorem Shaped.reshape_eq_self {layout : Layout} {value : Value} (h : layout.Shaped value) :
    layout.reshape value = value := by
  induction layout generalizing value with
  | primitive name kind => simp [reshape]
  | array name element length ih =>
    cases value with
    | array elements =>
      simp only [reshape, Value.array.injEq, map_eq_self_iff]
      exact fun x hx => ih (h.of_part fun _ _ => .arrayElement hx)
    | _ => simp [reshape]
  | sequence name element bound ih =>
    cases value with
    | sequence elements =>
      simp only [reshape, Value.sequence.injEq, map_eq_self_iff]
      exact fun x hx => ih (h.of_part fun _ _ => .sequenceElement hx)
    | _ => simp [reshape]
  | map name key content bound ihk ihc =>
    cases value with
    | map entries =>
      simp only [reshape, Value.map.injEq, map_eq_self_iff]
      exact fun e he => Prod.ext (ihk (h.of_part fun _ _ => .key he))
        (ihc (h.of_part fun _ _ => .content he))
    | _ => simp [reshape]
  | option name inner ih =>
    cases value with
    | present value =>
      simp only [reshape, Value.present.injEq]
      exact ih (h.of_part fun _ _ => .inner)
    | _ => simp [reshape]
  | struct name fields ih =>
    cases value with
    | struct values =>
      simp only [reshape, Value.struct.injEq, reshapeFields_eq_self_iff]
      exact fun pair hp => ih _ (List.of_mem_zip hp).1 (h.of_part fun _ _ => .field hp)
    | tuple values =>
      cases fields with
      | nil =>
        cases values with
        | nil => exact (h _ _ .whole trivial).elim
        | cons value values => simp [reshape]
      | cons field fields => simp [reshape]
    | _ => simp [reshape]
  | tuple name members ih =>
    cases value with
    | tuple values =>
      simp only [reshape, Value.tuple.injEq, reshapeMembers_eq_self_iff]
      exact fun pair hp => ih _ (List.of_mem_zip hp).1 (h.of_part fun _ _ => .member hp)
    | struct values =>
      cases members with
      | nil =>
        cases values with
        | nil => exact (h _ _ .whole trivial).elim
        | cons value values => simp [reshape]
      | cons member members => simp [reshape]
    | _ => simp [reshape]
  | enum name variants tag ih =>
    cases value with
    | enum index payload =>
      simp only [reshape, Value.enum.injEq, true_and, reshapePayload_eq_self_iff]
      exact fun variant hv => ih _ (List.mem_of_getElem? hv) (h.of_part fun _ _ => .payload hv)
    | _ => simp [reshape]

theorem reshape_eq_self_iff {layout : Layout} {value : Value} :
    layout.reshape value = value ↔ layout.Shaped value :=
  ⟨fun h _ _ hp hi => hi.reshape_ne_self (hp.reshape_eq_self h), Shaped.reshape_eq_self⟩

end WireSchema.Layout
