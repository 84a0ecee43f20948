import WireSchema.Proofs.Decoding
import WireSchema.Proofs.Parts

/-!
What both directions refuse. Main statement: where a value has the shape of its layout, encoding it
and decoding its wire form come to the same error, except for elements without bytes that are more
than their bound admits. Encoding tells of the elements there, and decoding of the bound.
-/

namespace WireSchema

/-- Errors that a value of the right shape can cause. -/
def CodecError.IsRefusal : CodecError → Prop
  | .boundExceeded _ _ _ | .zeroSizedElements _ _ | .duplicateKey _ | .depthLimitExceeded _ => True
  | _ => False

/-- A text of any length that can be written. The others have no bounds. -/
def Primitive.Matches : Primitive → Value → Prop
  | .string _, .string s => (Bytes.ofText s).length < UInt32.size
  | .string _, _ => False
  | kind, value => kind.Admits value

theorem ensure_of {p : Prop} [Decidable p] (h : p) (e : CodecError) : ensure p e = .ok () :=
  if_pos h

theorem ensure_of_not {p : Prop} [Decidable p] (h : ¬p) (e : CodecError) :
    ensure p e = .error e :=
  if_neg h

/-- Writing and reading come to the bytes and to the result, or to errors that go together. The
length and the bound of elements that both refuse are as told. -/
inductive Mirrors {α : Type} (Both : Nat → Nat → Prop) (ws : Bytes) (result : α × Cursor) :
    Except CodecError Bytes → Except CodecError (α × Cursor) → Prop
  | done : Mirrors Both ws result (.ok ws) (.ok result)
  | refused {e} : e.IsRefusal → Mirrors Both ws result (.error e) (.error e)
  | outranked {offset length max} : Both length max → Mirrors Both ws result
      (.error (.zeroSizedElements offset length)) (.error (.boundExceeded offset length max))

section Mirrors
variable {α β : Type} {Both : Nat → Nat → Prop} {ws ws' : Bytes} {result : α × Cursor}
  {result' : β × Cursor} {written : Except CodecError Bytes} {read : Except CodecError (α × Cursor)}

theorem Mirrors.bind (h : Mirrors Both ws result written read)
    {write : Bytes → Except CodecError Bytes}
    {readOn : α × Cursor → Except CodecError (β × Cursor)}
    (hnext : Mirrors Both ws' result' (write ws) (readOn result)) :
    Mirrors Both ws' result' (written >>= write) (read >>= readOn) := by
  cases h with
  | done => exact hnext
  | refused he => exact .refused he
  | outranked hmax => exact .outranked hmax

theorem Mirrors.agree (h : Mirrors Both ws result written read) :
    (∀ e, written = .error e → e.IsRefusal) ∧
    ((∀ e, written = .error e ↔ read = .error e) ∨
      ∃ offset length max, written = .error (.zeroSizedElements offset length) ∧
        read = .error (.boundExceeded offset length max) ∧ Both length max) := by
  cases h with
  | done => exact ⟨nofun, .inl fun e => ⟨nofun, nofun⟩⟩
  | refused he =>
    refine ⟨?_, .inl fun e => ?_⟩
    · rintro _ ⟨⟩
      exact he
    · rw [Except.error.injEq, Except.error.injEq]
  | @outranked offset length max hmax =>
    refine ⟨?_, .inr ⟨offset, length, max, rfl, rfl, hmax⟩⟩
    rintro _ ⟨⟩
    trivial

theorem Mirrors.map {a : α} {d : Cursor} (h : Mirrors Both ws (a, d) written read) (f : α → β) :
    Mirrors Both ws (f a, d) written (read >>= fun (a, c) => pure (f a, c)) := by
  cases h with
  | done => exact .done
  | refused he => exact .refused he
  | outranked hmax => exact .outranked hmax

theorem Mirrors.ensure {p : Prop} [Decidable p] {e : CodecError} (he : e.IsRefusal)
    (h : p → Mirrors Both ws result written read) :
    Mirrors Both ws result (ensure p e >>= fun _ => written) (ensure p e >>= fun _ => read) := by
  by_cases hp : p
  · rw [ensure_of hp]
    exact h hp
  · rw [ensure_of_not hp]
    exact .refused he

theorem Mirrors.descend (limit room : Nat) {write : Nat → Except CodecError Bytes}
    {readAt : Nat → Except CodecError (α × Cursor)}
    (h : ∀ room, Mirrors Both ws result (write room) (readAt room)) :
    Mirrors Both ws result (descend limit room >>= write) (descend limit room >>= readAt) := by
  cases room with
  | zero => exact .refused trivial
  | succ room => exact h room

end Mirrors

section Steps
variable {Both : Nat → Nat → Prop} {c d : Cursor}

/-- Where a length stands, only its bound can refuse it. -/
theorem decodeLength_of_advance {length : Nat} (hlength : length < UInt32.size)
    (h : c.Advance (lengthBytes length) d) (bound : Option UInt64) :
    decodeLength bound c = checkBound c.offset length bound >>= fun _ => .ok (length, d) := by
  have hread : c.readNat lengthWidth = .ok (length, d) :=
    Cursor.readNat_eq_ok_iff.mpr ⟨hlength, h⟩
  rw [decodeLength, hread, ok_bind]
  rfl

theorem mirrors_length {length : Nat} (hlength : length < UInt32.size)
    (h : c.Advance (lengthBytes length) d) (bound : Option UInt64) :
    Mirrors Both (lengthBytes length) (length, d) (encodeLength c.offset length bound)
      (decodeLength bound c) := by
  rw [encodeLength, ensure_of hlength, decodeLength_of_advance hlength h]
  cases bound with
  | none => exact .done
  | some max => exact .ensure trivial fun _ => .done

theorem mirrors_many {encodeOne : Nat → Value → Except CodecError Bytes}
    {decodeOne : Cursor → Except CodecError (Value × Cursor)} {wire : Value → Bytes}
    {reshape : Value → Value} {values : List Value}
    (h : ∀ value ∈ values, ∀ c d, c.Advance (wire value) d →
      Mirrors Both (wire value) (reshape value, d) (encodeOne c.offset value) (decodeOne c))
    (hadv : c.Advance (values.flatMap wire) d) :
    Mirrors Both (values.flatMap wire) (values.map reshape, d)
      (encodeMany encodeOne c.offset values) (decodeMany decodeOne values.length c) := by
  induction values generalizing c with
  | nil =>
    obtain rfl := Cursor.advance_nil.mp hadv
    exact .done
  | cons value values ih =>
    obtain ⟨hvalue, hvalues⟩ := List.forall_mem_cons.mp h
    obtain ⟨m, hm, hd⟩ := Cursor.advance_append.mp hadv
    refine (hvalue c m hm).bind ?_
    rw [← hm.offset]
    exact (ih hvalues hd).bind .done

/-- A key is compared by the same bytes in both directions. -/
theorem mirrors_entries {encodeKey encodeValue : Nat → Value → Except CodecError Bytes}
    {decodeKey decodeValue : Cursor → Except CodecError (Value × Cursor)}
    {wireKey wire : Value → Bytes} {reshapeKey reshape : Value → Value}
    {entries : List (Value × Value)}
    (hkeys : ∀ entry ∈ entries, ∀ c d, c.Advance (wireKey entry.1) d →
      Mirrors Both (wireKey entry.1) (reshapeKey entry.1, d) (encodeKey c.offset entry.1)
        (decodeKey c))
    (hvalues : ∀ entry ∈ entries, ∀ c d, c.Advance (wire entry.2) d →
      Mirrors Both (wire entry.2) (reshape entry.2, d) (encodeValue c.offset entry.2)
        (decodeValue c))
    (seen : List Bytes)
    (hadv : c.Advance (entries.flatMap fun entry => wireKey entry.1 ++ wire entry.2) d) :
    Mirrors Both (entries.flatMap fun entry => wireKey entry.1 ++ wire entry.2)
      (entries.map fun entry => (reshapeKey entry.1, reshape entry.2), d)
      (encodeEntries encodeKey encodeValue seen c.offset entries)
      (decodeEntries decodeKey decodeValue seen entries.length c) := by
  induction entries generalizing c seen with
  | nil =>
    obtain rfl := Cursor.advance_nil.mp hadv
    exact .done
  | cons entry entries ih =>
    obtain ⟨hkey, hkeys⟩ := List.forall_mem_cons.mp hkeys
    obtain ⟨hvalue, hvalues⟩ := List.forall_mem_cons.mp hvalues
    obtain ⟨n, hn, hd⟩ := Cursor.advance_append.mp hadv
    obtain ⟨m, hm, hn⟩ := Cursor.advance_append.mp hn
    refine (hkey c m hm).bind ?_
    dsimp only
    rw [hm.since, ← hm.offset]
    refine .ensure trivial fun _ => (hvalue m n hn).bind ?_
    rw [← hn.offset]
    exact (ih hkeys hvalues _ hd).bind .done

theorem mirrors_admitted (layout : Layout) {kind : Primitive} {value : Value}
    (h : kind.Admits value) (hadv : c.Advance (kind.wire value) d) :
    Mirrors Both (kind.wire value) (value, d) (encodePrimitive c.offset layout kind value)
      (decodePrimitive kind c) := by
  rw [encodePrimitive_eq_ok_iff.mpr ⟨h, rfl⟩, decodePrimitive_eq_ok_iff.mpr ⟨h, hadv⟩]
  exact .done

theorem mirrors_primitive (layout : Layout) {kind : Primitive} {value : Value}
    (h : kind.Matches value) (hadv : c.Advance (kind.wire value) d) :
    Mirrors Both (kind.wire value) (value, d) (encodePrimitive c.offset layout kind value)
      (decodePrimitive kind c) := by
  cases kind with
  | string bound =>
    cases value with
    | string s =>
      obtain ⟨start, hstart, hbytes⟩ := Cursor.advance_append.mp hadv
      have hread : start.readBytes (Bytes.ofText s).length = .ok (Bytes.ofText s, d) :=
        Cursor.readBytes_eq_ok_iff.mpr ⟨rfl, hbytes⟩
      refine (mirrors_length h hstart bound).bind ?_
      simp only [hread, ok_bind, Bytes.toText?_ofText]
      exact .done
    | _ => exact h.elim
  | bool | int | fixedBytes | publicKey => exact mirrors_admitted layout h hadv

end Steps

namespace Layout

mutual

/-- The values that have the shape of a layout, whatever its bounds say. Their lengths are such as
can be written. -/
def Matches : Layout → Value → Prop
  | .primitive _ kind, value => kind.Matches value
  | .array _ element length, .array elements =>
    elements.length = length.toNat ∧ ∀ value ∈ elements, Matches element value
  | .sequence _ element _, .sequence elements =>
    elements.length < UInt32.size ∧ ∀ value ∈ elements, Matches element value
  | .map _ key content _, .map entries =>
    entries.length < UInt32.size ∧
      ∀ entry ∈ entries, Matches key entry.1 ∧ Matches content entry.2
  | .option _ _, .absent => True
  | .option _ inner, .present value => Matches inner value
  | .struct _ fields, .struct values => MatchesFields fields values
  | .struct _ fields, .tuple values => fields = [] ∧ values = []
  | .tuple _ members, .tuple values => MatchesMembers members values
  | .tuple _ members, .struct values => members = [] ∧ values = []
  | .enum _ variants tag, .enum index payload =>
    index.toNat ≤ tag.maxDiscriminant ∧ MatchesPayload variants index.toNat payload
  | _, _ => False

def MatchesFields : List (String × Layout) → List (String × Value) → Prop
  | [], [] => True
  | (name, layout) :: fields, (name', value) :: values =>
    name = name' ∧ Matches layout value ∧ MatchesFields fields values
  | _, _ => False

def MatchesMembers : List Layout → List Value → Prop
  | [], [] => True
  | layout :: members, value :: values => Matches layout value ∧ MatchesMembers members values
  | _, _ => False

def MatchesPayload : List (String × Layout) → Nat → Value → Prop
  | [], _, _ => False
  | (_, payload) :: _, 0, value => Matches payload value
  | _ :: rest, position + 1, value => MatchesPayload rest position value

end

/-- So many elements are refused for two reasons where they may stand in a sequence of the layout:
they take no bytes, and the bound admits fewer. -/
def TwiceRefused (layout : Layout) (length max : Nat) : Prop :=
  ∃ name element bound, (sequence name element (some bound)).Occurs layout ∧
    element.isZeroSized ∧ bound.toNat = max ∧ max < length

/-- Writing the values of `layout` mirrors reading them, in whatever `whole` it occurs. -/
def MirroredIn (layout whole : Layout) : Prop :=
  ∀ limit room value, layout.Matches value → ∀ c d : Cursor, c.Advance (layout.wire value) d →
    Mirrors whole.TwiceRefused (layout.wire value) (layout.reshape value, d)
      (layout.encodeAt limit room c.offset value) (layout.decodeAt limit room c)

theorem MatchesFields.length_eq {fields : List (String × Layout)}
    {values : List (String × Value)} (h : MatchesFields fields values) :
    fields.length = values.length := by
  induction fields generalizing values with
  | nil =>
    cases values with
    | nil => rfl
    | cons => exact h.elim
  | cons field fields ih =>
    cases values with
    | nil => exact h.elim
    | cons value values => exact congrArg Nat.succ (ih h.2.2)

theorem MatchesMembers.length_eq {members : List Layout} {values : List Value}
    (h : MatchesMembers members values) : members.length = values.length := by
  induction members generalizing values with
  | nil =>
    cases values with
    | nil => rfl
    | cons => exact h.elim
  | cons member members ih =>
    cases values with
    | nil => exact h.elim
    | cons value values => exact congrArg Nat.succ (ih h.2)

section Parts
variable {whole : Layout} {limit room : Nat} {c d : Cursor}

theorem mirrors_fields {fields : List (String × Layout)}
    (h : ∀ field ∈ fields, field.2.MirroredIn whole) {values : List (String × Value)}
    (hmatches : MatchesFields fields values) (hadv : c.Advance (wireFields fields values) d) :
    Mirrors whole.TwiceRefused (wireFields fields values) (reshapeFields fields values, d)
      (encodeFields limit room c.offset fields values) (decodeFields limit room fields c) := by
  induction fields generalizing values c with
  | nil =>
    cases values with
    | nil =>
      obtain rfl := Cursor.advance_nil.mp hadv
      exact .done
    | cons => exact hmatches.elim
  | cons field fields ih =>
    obtain ⟨hfield, hfields⟩ := List.forall_mem_cons.mp h
    cases values with
    | nil => exact hmatches.elim
    | cons value values =>
      obtain ⟨name, layout⟩ := field
      obtain ⟨name', value⟩ := value
      obtain ⟨rfl, hvalue, hvalues⟩ := hmatches
      obtain ⟨m, hm, hd⟩ := Cursor.advance_append.mp hadv
      rw [encodeFields, decodeFields_cons, ensure_of rfl]
      refine (hfield limit room value hvalue c m hm).bind ?_
      rw [← hm.offset]
      exact (ih hfields hvalues hd).bind .done

theorem mirrors_members {members : List Layout}
    (h : ∀ member ∈ members, member.MirroredIn whole) {values : List Value}
    (hmatches : MatchesMembers members values) (hadv : c.Advance (wireMembers members values) d) :
    Mirrors whole.TwiceRefused (wireMembers members values) (reshapeMembers members values, d)
      (encodeMembers limit room c.offset members values) (decodeMembers limit room members c) := by
  induction members generalizing values c with
  | nil =>
    cases values with
    | nil =>
      obtain rfl := Cursor.advance_nil.mp hadv
      exact .done
    | cons => exact hmatches.elim
  | cons member members ih =>
    obtain ⟨hmember, hmembers⟩ := List.forall_mem_cons.mp h
    cases values with
    | nil => exact hmatches.elim
    | cons value values =>
      obtain ⟨hvalue, hvalues⟩ := hmatches
      obtain ⟨m, hm, hd⟩ := Cursor.advance_append.mp hadv
      rw [encodeMembers, decodeMembers_cons]
      refine (hmember limit room value hvalue c m hm).bind ?_
      rw [← hm.offset]
      exact (ih hmembers hvalues hd).bind .done

theorem mirrors_payload {variants : List (String × Layout)}
    (h : ∀ variant ∈ variants, variant.2.MirroredIn whole) {position : Nat} {value : Value}
    (hmatches : MatchesPayload variants position value) (outOfRange unknown : CodecError)
    (hadv : c.Advance (wirePayload variants position value) d) :
    Mirrors whole.TwiceRefused (wirePayload variants position value)
      (reshapePayload variants position value, d)
      (encodePayload limit room c.offset outOfRange value variants position)
      (decodePayload limit room unknown variants position c) := by
  induction variants generalizing position with
  | nil => exact hmatches.elim
  | cons variant variants ih =>
    obtain ⟨hvariant, hvariants⟩ := List.forall_mem_cons.mp h
    cases position with
    | zero => exact .descend limit room fun room => hvariant limit room value hmatches c d hadv
    | succ position => exact ih hvariants hmatches hadv

end Parts

section Shapes
variable {whole : Layout}

theorem mirroredIn_array (name : String) {element : Layout} (length : UInt64)
    (helement : element.MirroredIn whole) : (array name element length).MirroredIn whole := by
  intro limit room value hmatches c d hadv
  cases value with
  | array elements =>
    obtain ⟨hlength, hall⟩ := hmatches
    refine .descend limit room fun room => ?_
    dsimp only
    rw [ensure_of hlength, ← hlength]
    refine Mirrors.map (mirrors_many ?_ hadv) Value.array
    exact fun v hv => helement limit room v (hall v hv)
  | _ => exact hmatches.elim

/-- Elements that are refused when they are written are refused when they are read, unless their
number has been refused before. -/
theorem mirrors_refused {name : String} {element : Layout} {bound : Option UInt64}
    (h : (sequence name element bound).Occurs whole) {length : Nat} (hlength : length < UInt32.size)
    (hrefused : ¬(length = 0 ∨ ¬element.isZeroSized)) {c d : Cursor}
    (hadv : c.Advance (lengthBytes length) d) {ws : Bytes} {result : Value × Cursor}
    (readOn : Nat × Cursor → Except CodecError (Value × Cursor)) :
    Mirrors whole.TwiceRefused ws result (.error (.zeroSizedElements c.offset length))
      (decodeLength bound c >>= fun read =>
        ensure (read.1 = 0 ∨ ¬element.isZeroSized) (.zeroSizedElements c.offset read.1) >>=
          fun _ => readOn read) := by
  have hzero : element.isZeroSized := Classical.not_not.mp fun hzero => hrefused (.inr hzero)
  have hafter := ensure_of_not hrefused (.zeroSizedElements c.offset length)
  rw [decodeLength_of_advance hlength hadv]
  cases bound with
  | none =>
    rw [checkBound, ok_bind, ok_bind, hafter]
    exact .refused trivial
  | some max =>
    by_cases hwithin : length ≤ max.toNat
    · rw [checkBound, ensure_of hwithin, ok_bind, ok_bind, hafter]
      exact .refused trivial
    · rw [checkBound, ensure_of_not hwithin, error_bind]
      exact .outranked ⟨name, element, max, h, hzero, rfl, Nat.lt_of_not_le hwithin⟩

/-- The elements are looked at before the bound when they are written, and after it when they are
read. -/
theorem mirroredIn_sequence {name : String} {element : Layout} {bound : Option UInt64}
    (h : (sequence name element bound).Occurs whole) (helement : element.MirroredIn whole) :
    (sequence name element bound).MirroredIn whole := by
  intro limit room value hmatches c d hadv
  cases value with
  | sequence elements =>
    obtain ⟨hlength, hall⟩ := hmatches
    obtain ⟨m, hm, hd⟩ := Cursor.advance_append.mp hadv
    have hcounted : (elements.isEmpty ∨ ¬element.isZeroSized) ↔
        (elements.length = 0 ∨ ¬element.isZeroSized) :=
      or_congr_left List.isEmpty_iff_length_eq_zero
    rw [decodeAt_sequence]
    refine .descend limit room fun room => ?_
    dsimp only
    by_cases hread : elements.length = 0 ∨ ¬element.isZeroSized
    · rw [ensure_of (hcounted.mpr hread)]
      refine (mirrors_length hlength hm bound).bind ?_
      dsimp only
      rw [ensure_of hread, ok_bind, ← hm.offset]
      refine (mirrors_many ?_ hd).bind .done
      exact fun v hv => helement limit room v (hall v hv)
    · rw [ensure_of_not (mt hcounted.mp hread), error_bind]
      exact mirrors_refused h hlength hread hm _
  | _ => exact hmatches.elim

theorem mirroredIn_map (name : String) {key content : Layout} (bound : Option UInt64)
    (hkey : key.MirroredIn whole) (hcontent : content.MirroredIn whole) :
    (map name key content bound).MirroredIn whole := by
  intro limit room value hmatches c d hadv
  cases value with
  | map entries =>
    obtain ⟨hlength, hall⟩ := hmatches
    obtain ⟨m, hm, hd⟩ := Cursor.advance_append.mp hadv
    refine .descend limit room fun room => (mirrors_length hlength hm bound).bind ?_
    dsimp only
    rw [← hm.offset]
    refine (mirrors_entries ?_ ?_ [] hd).bind .done
    · exact fun entry hentry => hkey limit room entry.1 (hall entry hentry).1
    · exact fun entry hentry => hcontent limit room entry.2 (hall entry hentry).2
  | _ => exact hmatches.elim

theorem mirroredIn_option (name : String) {inner : Layout} (hinner : inner.MirroredIn whole) :
    (option name inner).MirroredIn whole := by
  intro limit room value hmatches c d hadv
  cases value with
  | absent =>
    have hread : c.readByte = .ok (0, d) := Cursor.readByte_eq_ok_iff.mpr hadv
    refine .descend limit room fun room => ?_
    rw [hread]
    exact .done
  | present value =>
    obtain ⟨m, hm, hd⟩ := Cursor.advance_cons.mp hadv
    have hread : c.readByte = .ok (1, m) := Cursor.readByte_eq_ok_iff.mpr hm
    rw [decodeAt_option]
    refine .descend limit room fun room => ?_
    have hoffset : c.offset + optionTagWidth = m.offset := hm.offset.symm
    rw [hread, ok_bind, hoffset]
    exact (hinner limit room value hmatches m d hd).bind .done
  | _ => exact hmatches.elim

theorem mirroredIn_struct (name : String) {fields : List (String × Layout)}
    (hfields : ∀ field ∈ fields, field.2.MirroredIn whole) :
    (struct name fields).MirroredIn whole := by
  intro limit room value hmatches c d hadv
  cases value with
  | struct values =>
    rw [reshape]
    refine .descend limit room fun room => ?_
    dsimp only
    rw [ensure_of (MatchesFields.length_eq hmatches)]
    exact (mirrors_fields hfields hmatches hadv).map Value.struct
  | tuple values =>
    obtain ⟨rfl, rfl⟩ := hmatches
    obtain rfl := Cursor.advance_nil.mp hadv
    exact .descend limit room fun room => .done
  | _ => exact hmatches.elim

theorem mirroredIn_tuple (name : String) {members : List Layout}
    (hmembers : ∀ member ∈ members, member.MirroredIn whole) :
    (tuple name members).MirroredIn whole := by
  intro limit room value hmatches c d hadv
  cases value with
  | tuple values =>
    rw [reshape]
    refine .descend limit room fun room => ?_
    dsimp only
    rw [ensure_of (MatchesMembers.length_eq hmatches)]
    exact (mirrors_members hmembers hmatches hadv).map Value.tuple
  | struct values =>
    obtain ⟨rfl, rfl⟩ := hmatches
    obtain rfl := Cursor.advance_nil.mp hadv
    exact .descend limit room fun room => .done
  | _ => exact hmatches.elim

theorem mirroredIn_enum (name : String) {variants : List (String × Layout)} (tag : TagWidth)
    (hvariants : ∀ variant ∈ variants, variant.2.MirroredIn whole) :
    (enum name variants tag).MirroredIn whole := by
  intro limit room value hmatches c d hadv
  cases value with
  | enum index payload =>
    obtain ⟨hfits, hpayload⟩ := hmatches
    obtain ⟨m, hm, hd⟩ := Cursor.advance_append.mp hadv
    have hread : c.readNat tag.size = .ok (index.toNat, m) :=
      Cursor.readNat_eq_ok_iff.mpr ⟨tag.lt_pow_iff.mpr hfits, hm⟩
    have hoffset : c.offset + tag.size = m.offset := by
      rw [hm.offset, Bytes.length_ofNatLE]
    refine .descend limit room fun room => ?_
    dsimp only
    rw [encodeTagged, ensure_of hfits, ok_bind, hoffset, decodeTagged, liftM_eq, hread, ok_bind]
    dsimp only
    rw [UInt32.ofNat_toNat]
    exact (mirrors_payload hvariants hpayload _ _ hd).bind .done
  | _ => exact hmatches.elim

end Shapes

theorem mirroredIn {layout whole : Layout} (h : layout.Occurs whole) :
    layout.MirroredIn whole := by
  induction layout with have hparts := h.parts
  | primitive name kind =>
    exact fun limit room value hmatches c d hadv => mirrors_primitive _ hmatches hadv
  | array name element length ih =>
    exact mirroredIn_array name length (ih (hparts element List.mem_cons_self))
  | sequence name element bound ih =>
    exact mirroredIn_sequence h (ih (hparts element List.mem_cons_self))
  | map name key content bound ihk ihc =>
    exact mirroredIn_map name bound (ihk (hparts key List.mem_cons_self))
      (ihc (hparts content (List.mem_cons_of_mem _ List.mem_cons_self)))
  | option name inner ih => exact mirroredIn_option name (ih (hparts inner List.mem_cons_self))
  | struct name fields ih =>
    refine mirroredIn_struct name fun field hfield => ?_
    exact ih field hfield (hparts field.2 (List.mem_map_of_mem hfield))
  | tuple name members ih =>
    exact mirroredIn_tuple name fun member hmember => ih member hmember (hparts member hmember)
  | enum name variants tag ih =>
    refine mirroredIn_enum name tag fun variant hvariant => ?_
    exact ih variant hvariant (hparts variant.2 (List.mem_map_of_mem hvariant))

/-- Both directions refuse a value for the same reason, or the one for its elements without bytes
and the other for the bound of the same elements. -/
theorem refusals_agree {layout : Layout} {value : Value} (h : layout.Matches value)
    (limits : Limits) :
    let written := layout.encode limits value
    let read := layout.decode limits (layout.wire value)
    (∀ e, written = .error e → e.IsRefusal) ∧
    ((∀ e, written = .error e ↔ read = .error e) ∨
      ∃ offset length max, written = .error (.zeroSizedElements offset length) ∧
        read = .error (.boundExceeded offset length max) ∧ layout.TwiceRefused length max) := by
  have hadv : (Cursor.start (layout.wire value)).Advance (layout.wire value)
      ⟨(layout.wire value).reverse, []⟩ := ⟨(List.append_nil _).symm, (List.append_nil _).symm⟩
  have hmirrors : Mirrors layout.TwiceRefused (layout.wire value) _
      (layout.encode limits value) (layout.decodeAt limits.maxDepth limits.maxDepth _) :=
    mirroredIn .self limits.maxDepth limits.maxDepth value h _ _ hadv
  simp only [decode_eq_error_iff]
  exact hmirrors.agree

/-- The second entry repeats the key of the first one. -/
theorem refusals_agree_flags :
    let flags := map "Flags" (primitive "" (.int .u8)) (primitive "" .bool) none
    let value := Value.map [(.int .u8 7, .bool true), (.int .u8 7, .bool false)]
    flags.Matches value ∧
      flags.encode {} value = .error (.duplicateKey 6) ∧
      flags.decode {} (flags.wire value) = .error (.duplicateKey 6) := by
  intro flags value
  have hmatches : flags.Matches value := by
    simp [flags, value, Matches, Primitive.Matches, Primitive.Admits, UInt32.size]
  have hwritten : flags.encode {} value = .error (.duplicateKey 6) := rfl
  refine ⟨hmatches, hwritten, ?_⟩
  rcases (refusals_agree hmatches {}).2 with hsame | ⟨_, _, _, hzero, -⟩
  · exact (hsame _).mp hwritten
  · rw [hwritten] at hzero
    cases hzero

/-- Two units where one is admitted. -/
theorem refusals_differ :
    let units := sequence "" (struct "Unit" []) (some 1)
    let value := Value.sequence [.struct [], .struct []]
    units.Matches value ∧
      units.encode {} value = .error (.zeroSizedElements 0 2) ∧
      units.decode {} (units.wire value) = .error (.boundExceeded 0 2 1) := by
  intro units value
  have hmatches : units.Matches value := by
    simp [units, value, Matches, MatchesFields, UInt32.size]
  exact ⟨hmatches, rfl, rfl⟩

end Layout
end WireSchema
