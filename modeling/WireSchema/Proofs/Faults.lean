import WireSchema.Proofs.Decoding
import WireSchema.Proofs.Parts

/-!
What the errors of decoding say about the input. Main statement: every error is true of the bytes it
points at. The offset lies in the input, a number that is reported stands there in little-endian
form, and no error blames a value.
-/

namespace WireSchema

namespace Bytes

/-- So many bytes from an offset on, if the input has them. -/
def slice? (input : Bytes) (offset length : Nat) : Option Bytes :=
  if offset + length ≤ input.length then some ((input.drop offset).take length) else none

/-- The number that is written in so many bytes from an offset on. -/
def numberAt? (input : Bytes) (offset width : Nat) : Option Nat :=
  (input.slice? offset width).map toNatLE

theorem slice?_append (before bs rest : Bytes) :
    slice? (before ++ (bs ++ rest)) before.length bs.length = some bs := by
  have hle : before.length + bs.length ≤ (before ++ (bs ++ rest)).length := by
    simp only [List.length_append]
    omega
  rw [slice?, if_pos hle, List.drop_left, List.take_left]

theorem le_of_slice? {input bs : Bytes} {offset length : Nat}
    (h : input.slice? offset length = some bs) : offset + length ≤ input.length := by
  unfold slice? at h
  split at h
  · assumption
  · cases h

theorem le_of_numberAt? {input : Bytes} {offset width n : Nat}
    (h : input.numberAt? offset width = some n) : offset + width ≤ input.length := by
  obtain ⟨bs, hslice, -⟩ := Option.map_eq_some_iff.mp h
  exact le_of_slice? hslice

end Bytes

namespace CodecError

/-- Where in the encoding the error was found. -/
def offset? : CodecError → Option Nat
  | .invalidDiscriminant offset _ | .unknownVariant _ offset _ _ | .truncatedInput offset _ _
  | .lengthMismatch offset _ _ | .duplicateKey offset | .boundExceeded offset _ _
  | .zeroSizedElements offset _ | .invalidBool offset _ | .invalidUtf8 offset => some offset
  | .variantIndexOutOfRange _ _ _ | .valueMismatch _ | .depthLimitExceeded _ => none

/-- What an error says about the input that was read under a limit, where `Holds` says which
layouts occur in the one that was read. -/
def Describes (input : Bytes) (limit : Nat) (Holds : Layout → Prop) : CodecError → Prop
  | .invalidBool offset byte | .invalidDiscriminant offset byte =>
    input[offset]? = some byte ∧ 2 ≤ byte.toNat
  | .boundExceeded offset length max =>
    max < length ∧ input.numberAt? offset lengthWidth = some length
  | .zeroSizedElements offset length =>
    0 < length ∧ input.numberAt? offset lengthWidth = some length
  | .unknownVariant typeName offset discriminant variantCount =>
    variantCount ≤ discriminant ∧ ∃ variants tag, Holds (.enum typeName variants tag) ∧
      variants.length = variantCount ∧ input.numberAt? offset tag.size = some discriminant
  | .invalidUtf8 offset => lengthWidth ≤ offset ∧ ∃ length bs,
    input.numberAt? (offset - lengthWidth) lengthWidth = some length ∧
      input.slice? offset length = some bs ∧ ∀ text, Bytes.ofText text ≠ bs
  | .truncatedInput offset needed remaining =>
    offset + remaining = input.length ∧ remaining < needed
  | .duplicateKey offset => offset ≤ input.length
  | .depthLimitExceeded exceeded => exceeded = limit
  | .lengthMismatch _ _ _ | .valueMismatch _ | .variantIndexOutOfRange _ _ _ => False

theorem Describes.offset_le {input : Bytes} {limit : Nat} {Holds : Layout → Prop} {e : CodecError}
    (h : e.Describes input limit Holds) {offset : Nat} (hoffset : e.offset? = some offset) :
    offset ≤ input.length := by
  cases e with
  | invalidBool found byte | invalidDiscriminant found byte =>
    cases hoffset
    obtain ⟨hlt, -⟩ := List.getElem?_eq_some_iff.mp h.1
    exact Nat.le_of_lt hlt
  | boundExceeded found length max | zeroSizedElements found length =>
    cases hoffset
    exact Nat.le_of_add_right_le (Bytes.le_of_numberAt? h.2)
  | unknownVariant typeName found discriminant variantCount =>
    cases hoffset
    obtain ⟨-, variants, tag, -, -, hnumber⟩ := h
    exact Nat.le_of_add_right_le (Bytes.le_of_numberAt? hnumber)
  | invalidUtf8 found =>
    cases hoffset
    obtain ⟨-, length, bs, -, hslice, -⟩ := h
    exact Nat.le_of_add_right_le (Bytes.le_of_slice? hslice)
  | truncatedInput found needed remaining =>
    cases hoffset
    exact Nat.le.intro h.1
  | duplicateKey found =>
    cases hoffset
    exact h
  | depthLimitExceeded exceeded => cases hoffset
  | _ => exact h.elim

end CodecError

namespace Cursor

/-- A position in the input. -/
def IsIn (input : Bytes) (c : Cursor) : Prop :=
  c.read.reverse ++ c.ahead = input

variable {input bs : Bytes} {c d : Cursor}

theorem isIn_start (input : Bytes) : (start input).IsIn input :=
  rfl

theorem IsIn.advance (h : c.IsIn input) (hadv : c.Advance bs d) : d.IsIn input := by
  obtain ⟨hahead, hread⟩ := hadv
  rw [← h, IsIn, hahead, hread, List.reverse_append, List.reverse_reverse, List.append_assoc]

/-- What is read from a position on stands there. -/
theorem IsIn.slice? (h : c.IsIn input) (hadv : c.Advance bs d) :
    input.slice? c.offset bs.length = some bs := by
  have hslice := Bytes.slice?_append c.read.reverse bs d.ahead
  rwa [List.length_reverse, ← hadv.1, h] at hslice

theorem IsIn.offset_add_remaining (h : c.IsIn input) : c.offset + c.remaining = input.length := by
  rw [← h, List.length_append, List.length_reverse]
  rfl

theorem IsIn.getElem? {b : UInt8} (h : c.IsIn input) (hadv : c.Advance [b] d) :
    input[c.offset]? = some b := by
  rw [← h, hadv.1, Cursor.offset, ← List.length_reverse]
  simp

theorem IsIn.numberAt? {width n : Nat} (h : c.IsIn input) (hread : c.readNat width = .ok (n, d)) :
    d.IsIn input ∧ d.offset = c.offset + width ∧ input.numberAt? c.offset width = some n := by
  obtain ⟨hlt, hadv⟩ := readNat_eq_ok_iff.mp hread
  have hslice := h.slice? hadv
  have hoffset := hadv.offset
  rw [Bytes.length_ofNatLE] at hslice hoffset
  refine ⟨h.advance hadv, hoffset, ?_⟩
  rw [Bytes.numberAt?, hslice, Option.map_some, Bytes.toNatLE_ofNatLE, Nat.mod_eq_of_lt hlt]

end Cursor

/-- What came of a read in the input: a later position in it, or an error that describes it. -/
def Explained {α : Type} (input : Bytes) (limit : Nat) (Holds : Layout → Prop) :
    Except CodecError (α × Cursor) → Prop
  | .ok (_, d) => d.IsIn input
  | .error e => e.Describes input limit Holds

section Reads
variable {α β : Type} {input : Bytes} {limit : Nat} {Holds : Layout → Prop} {c : Cursor}

theorem Explained.bind {step : Except CodecError (α × Cursor)}
    {next : α × Cursor → Except CodecError (β × Cursor)} (h : Explained input limit Holds step)
    (hnext : ∀ a d, step = .ok (a, d) → d.IsIn input → Explained input limit Holds (next (a, d))) :
    Explained input limit Holds (step >>= next) := by
  cases step with
  | error e => exact h
  | ok result => exact hnext result.1 result.2 rfl h

theorem Explained.map {step : Except CodecError (α × Cursor)} (h : Explained input limit Holds step)
    (f : α → β) : Explained input limit Holds (step >>= fun read => .ok (f read.1, read.2)) :=
  h.bind fun _ _ _ hd => hd

theorem explained_ensure {p : Prop} [Decidable p] {e : CodecError}
    {next : Unit → Except CodecError (α × Cursor)} (he : ¬p → e.Describes input limit Holds)
    (hnext : Explained input limit Holds (next ())) :
    Explained input limit Holds (ensure p e >>= next) := by
  unfold ensure
  split
  · exact hnext
  · rename_i hp
    exact he hp

theorem Explained.descend {room : Nat} {run : Nat → Except CodecError (α × Cursor)}
    (h : ∀ room, Explained input limit Holds (run room)) :
    Explained input limit Holds (descend limit room >>= run) := by
  cases room with
  | zero => exact (rfl : limit = limit)
  | succ room => exact h room

theorem explained_readBytes (hc : c.IsIn input) (count : Nat) :
    Explained input limit Holds (c.readBytes count) := by
  cases hread : c.readBytes count with
  | ok result => exact hc.advance (Cursor.readBytes_eq_ok_iff.mp hread).2
  | error e =>
    obtain ⟨hlt, rfl⟩ := Cursor.readBytes_eq_error_iff.mp hread
    exact ⟨hc.offset_add_remaining, hlt⟩

theorem explained_readByte (hc : c.IsIn input) : Explained input limit Holds c.readByte := by
  cases hread : c.readByte with
  | ok result => exact hc.advance (Cursor.readByte_eq_ok_iff.mp hread)
  | error e =>
    obtain ⟨read, ahead⟩ := c
    cases ahead with
    | nil =>
      cases hread
      exact ⟨hc.offset_add_remaining, Nat.zero_lt_one⟩
    | cons b ahead => cases hread

theorem explained_readNat (hc : c.IsIn input) (width : Nat) :
    Explained input limit Holds (c.readNat width) :=
  (explained_readBytes hc width).map Bytes.toNatLE

theorem explained_readInt (hc : c.IsIn input) (kind : IntKind) :
    Explained input limit Holds (c.readInt kind) := by
  rw [Cursor.readInt_eq]
  exact (explained_readBytes hc kind.size).map kind.ofBytes

theorem explained_decodeLength (hc : c.IsIn input) (bound : Option UInt64) :
    Explained input limit Holds (decodeLength bound c) := by
  refine (explained_readNat hc lengthWidth).bind fun length d hread hd => ?_
  cases bound with
  | none => exact hd
  | some max =>
    exact explained_ensure (fun hlt => ⟨Nat.lt_of_not_le hlt, (hc.numberAt? hread).2.2⟩) hd

theorem numberAt?_of_decodeLength {bound : Option UInt64} {length : Nat} {d : Cursor}
    (hc : c.IsIn input) (h : decodeLength bound c = .ok (length, d)) :
    d.offset = c.offset + lengthWidth ∧ input.numberAt? c.offset lengthWidth = some length := by
  obtain ⟨⟨length', next⟩, hread, hcheck⟩ := bind_eq_ok_iff.mp h
  obtain ⟨-, -, hok⟩ := bind_eq_ok_iff.mp hcheck
  cases hok
  exact (hc.numberAt? hread).2

theorem two_le_toNat {b : UInt8} (h0 : b ≠ 0) (h1 : b ≠ 1) : 2 ≤ b.toNat := by
  have hn0 : b.toNat ≠ 0 := fun h => h0 (UInt8.toNat_inj.mp h)
  have hn1 : b.toNat ≠ 1 := fun h => h1 (UInt8.toNat_inj.mp h)
  omega

theorem explained_decodePrimitive (hc : c.IsIn input) (kind : Primitive) :
    Explained input limit Holds (decodePrimitive kind c) := by
  cases kind with
  | bool =>
    refine (explained_readByte hc).bind fun byte d hread hd => ?_
    have hbyte := hc.getElem? (Cursor.readByte_eq_ok_iff.mp hread)
    dsimp only
    split
    · exact hd
    · exact hd
    · rename_i h0 h1
      exact ⟨hbyte, two_le_toNat h0 h1⟩
  | int kind => exact (explained_readInt hc kind).map (Value.int kind)
  | string bound =>
    refine (explained_decodeLength hc bound).bind fun length start hlength hstart => ?_
    obtain ⟨hoffset, hnumber⟩ := numberAt?_of_decodeLength hc hlength
    refine (explained_readBytes hstart length).bind fun bs d hread hd => ?_
    obtain ⟨rfl, hadv⟩ := Cursor.readBytes_eq_ok_iff.mp hread
    dsimp only
    split
    · exact hd
    -- The bytes are there, and no text has them for its encoding.
    · rename_i hnone
      have htext : ∀ text, Bytes.ofText text ≠ bs := by
        rintro text rfl
        rw [Bytes.toText?_ofText] at hnone
        cases hnone
      refine ⟨hoffset ▸ Nat.le_add_left _ _, bs.length, bs, ?_, hstart.slice? hadv, htext⟩
      rwa [hoffset, Nat.add_sub_cancel]
  | fixedBytes width => exact (explained_readBytes hc width.toNat).map Value.bytes
  | publicKey => exact (explained_readBytes hc _).map Value.bytes

theorem explained_decodeMany {decodeOne : Cursor → Except CodecError (Value × Cursor)}
    (h : ∀ c, c.IsIn input → Explained input limit Holds (decodeOne c)) (hc : c.IsIn input)
    (count : Nat) : Explained input limit Holds (decodeMany decodeOne count c) := by
  induction count generalizing c with
  | zero => exact hc
  | succ count ih => exact (h c hc).bind fun value _ _ hd => (ih hd).map (value :: ·)

theorem explained_decodeEntries
    {decodeKey decodeValue : Cursor → Except CodecError (Value × Cursor)}
    (hk : ∀ c, c.IsIn input → Explained input limit Holds (decodeKey c))
    (hv : ∀ c, c.IsIn input → Explained input limit Holds (decodeValue c)) (hc : c.IsIn input)
    (seen : List Bytes) (count : Nat) :
    Explained input limit Holds (decodeEntries decodeKey decodeValue seen count c) := by
  induction count generalizing c seen with
  | zero => exact hc
  | succ count ih =>
    refine (hk c hc).bind fun key afterKey _ hkey => ?_
    refine explained_ensure (fun _ => Nat.le.intro hc.offset_add_remaining) ?_
    exact (hv afterKey hkey).bind fun value _ _ hvalue => (ih hvalue _).map ((key, value) :: ·)

end Reads

namespace Layout
variable {input : Bytes} {limit room : Nat} {Holds : Layout → Prop} {c : Cursor}

/-- Every read of the layout in the input succeeds, or fails with an error that describes it. -/
def DecodesExplained (input : Bytes) (limit : Nat) (Holds : Layout → Prop) (layout : Layout) :
    Prop :=
  ∀ room c, c.IsIn input → Explained input limit Holds (layout.decodeAt limit room c)

theorem explained_decodeFields {fields : List (String × Layout)}
    (h : ∀ field ∈ fields, field.2.DecodesExplained input limit Holds) (hc : c.IsIn input) :
    Explained input limit Holds (decodeFields limit room fields c) := by
  induction fields generalizing c with
  | nil => exact hc
  | cons field fields ih =>
    obtain ⟨hfield, hfields⟩ := List.forall_mem_cons.mp h
    exact (hfield room c hc).bind fun value _ _ hd => (ih hfields hd).map ((field.1, value) :: ·)

theorem explained_decodeMembers {members : List Layout}
    (h : ∀ member ∈ members, member.DecodesExplained input limit Holds) (hc : c.IsIn input) :
    Explained input limit Holds (decodeMembers limit room members c) := by
  induction members generalizing c with
  | nil => exact hc
  | cons member members ih =>
    obtain ⟨hmember, hmembers⟩ := List.forall_mem_cons.mp h
    exact (hmember room c hc).bind fun value _ _ hd => (ih hmembers hd).map (value :: ·)

theorem explained_decodePayload {variants : List (String × Layout)} {position : Nat}
    {unknown : CodecError}
    (h : ∀ variant ∈ variants, variant.2.DecodesExplained input limit Holds)
    (hunknown : variants.length ≤ position → unknown.Describes input limit Holds)
    (hc : c.IsIn input) :
    Explained input limit Holds (decodePayload limit room unknown variants position c) := by
  induction variants generalizing position with
  | nil => exact hunknown (Nat.zero_le position)
  | cons variant variants ih =>
    obtain ⟨hvariant, hvariants⟩ := List.forall_mem_cons.mp h
    cases position with
    | zero => exact .descend fun room => hvariant room c hc
    | succ position => exact ih hvariants fun hle => hunknown (Nat.succ_le_succ hle)

/-- The discriminant stands where the read began, and the error counts the variants of the enum. -/
theorem explained_decodeTagged {typeName : String} {variants : List (String × Layout)}
    {tag : TagWidth} (h : ∀ variant ∈ variants, variant.2.DecodesExplained input limit Holds)
    (hholds : Holds (.enum typeName variants tag)) (hc : c.IsIn input) :
    Explained input limit Holds (decodeTagged typeName variants.length tag
      (fun unknown discriminant => decodePayload limit room unknown variants discriminant) c) := by
  refine (explained_readNat hc tag.size).bind fun discriminant d hread hd => ?_
  refine (explained_decodePayload h (fun hle => ?_) hd).map
    (Value.enum (UInt32.ofNat discriminant))
  exact ⟨hle, variants, tag, hholds, rfl, (hc.numberAt? hread).2.2⟩

theorem explained_decodeAt (layout : Layout) (hholds : ∀ part, Occurs part layout → Holds part) :
    layout.DecodesExplained input limit Holds := by
  induction layout with obtain ⟨hself, hinside⟩ := forall_occurs.mp hholds
  | primitive name kind => exact fun room c hc => explained_decodePrimitive hc kind
  | array name element length ih =>
    intro room c hc
    have helement := ih (hinside element List.mem_cons_self)
    exact .descend fun room => (explained_decodeMany (helement room) hc _).map Value.array
  | sequence name element bound ih =>
    intro room c hc
    have helement := ih (hinside element List.mem_cons_self)
    refine .descend fun room => ?_
    refine (explained_decodeLength hc bound).bind fun count d hread hd => ?_
    have hnumber := (numberAt?_of_decodeLength hc hread).2
    refine explained_ensure (fun hzero => ⟨?_, hnumber⟩) ?_
    · exact Nat.pos_of_ne_zero fun h => hzero (.inl h)
    · exact (explained_decodeMany (helement room) hd count).map Value.sequence
  | map name key content bound ihk ihc =>
    intro room c hc
    have hkey := ihk (hinside key List.mem_cons_self)
    have hcontent := ihc (hinside content (List.mem_cons_of_mem _ List.mem_cons_self))
    refine .descend fun room => ?_
    refine (explained_decodeLength hc bound).bind fun count d _ hd => ?_
    exact (explained_decodeEntries (hkey room) (hcontent room) hd [] count).map Value.map
  | option name inner ih =>
    intro room c hc
    have hinner := ih (hinside inner List.mem_cons_self)
    refine .descend fun room => ?_
    refine (explained_readByte hc).bind fun tag d hread hd => ?_
    have htag := hc.getElem? (Cursor.readByte_eq_ok_iff.mp hread)
    dsimp only
    split
    · exact hd
    · exact (hinner room d hd).map Value.present
    · rename_i h0 h1
      exact ⟨htag, two_le_toNat h0 h1⟩
  | struct name fields ih =>
    intro room c hc
    have hfields : ∀ field ∈ fields, field.2.DecodesExplained input limit Holds :=
      fun field hfield => ih field hfield (hinside field.2 (List.mem_map_of_mem hfield))
    exact .descend fun room => (explained_decodeFields hfields hc).map Value.struct
  | tuple name members ih =>
    intro room c hc
    have hmembers : ∀ member ∈ members, member.DecodesExplained input limit Holds :=
      fun member hmember => ih member hmember (hinside member hmember)
    exact .descend fun room => (explained_decodeMembers hmembers hc).map Value.tuple
  | enum name variants tag ih =>
    intro room c hc
    have hvariants : ∀ variant ∈ variants, variant.2.DecodesExplained input limit Holds :=
      fun variant hvariant => ih variant hvariant (hinside variant.2 (List.mem_map_of_mem hvariant))
    exact .descend fun room => explained_decodeTagged hvariants hself hc

theorem describes_of_decode {layout : Layout} {limits : Limits} {e : CodecError}
    (h : layout.decode limits input = .error e) :
    e.Describes input limits.maxDepth (Occurs · layout) := by
  have hexplained : Explained input limits.maxDepth (Occurs · layout)
      (layout.decodeAt limits.maxDepth limits.maxDepth (.start input)) :=
    explained_decodeAt layout (fun _ hpart => hpart) _ _ (Cursor.isIn_start input)
  rwa [decode_eq_error_iff.mp h] at hexplained

/-- An error of decoding is true of the input, and points into it. -/
theorem decode_error_describes {layout : Layout} {limits : Limits} {e : CodecError}
    (h : layout.decode limits input = .error e) :
    e.Describes input limits.maxDepth (Occurs · layout) ∧
      ∀ offset, e.offset? = some offset → offset ≤ input.length :=
  ⟨describes_of_decode h, fun _ => (describes_of_decode h).offset_le⟩

/-- A lock that may be open or shut, and a flag before it. -/
def flaggedLock : Layout :=
  .struct "Door" [("painted", .ofPrimitive .bool),
    ("lock", .enum "Lock" [("Free", .struct "LockFree" []), ("Held", .struct "LockHeld" [])] .two)]

theorem decode_error_describes_lock :
    flaggedLock.decode {} [1, 7, 1] = .error (.unknownVariant "Lock" 1 263 2) ∧
      (CodecError.unknownVariant "Lock" 1 263 2).Describes [1, 7, 1] 64 (Occurs · flaggedLock) ∧
      ∀ offset, (CodecError.unknownVariant "Lock" 1 263 2).offset? = some offset → offset ≤ 3 := by
  have h : flaggedLock.decode {} [1, 7, 1] = .error (.unknownVariant "Lock" 1 263 2) := by rfl
  exact ⟨h, decode_error_describes h⟩

end Layout
end WireSchema
