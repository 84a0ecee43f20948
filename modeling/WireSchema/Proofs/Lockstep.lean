import WireSchema.Proofs.Parts
import WireSchema.Proofs.Shallow

/-!
Two decoders step by step. They may report to different monads, make room in different ways and have
another number of levels. Main statement: a relation that every step keeps holds of what they come
to.
-/

namespace WireSchema

section Lockstep
variable {m n : Type → Type} [Monad m] [Monad n] [MonadLiftT (Except CodecError) m]
  [MonadLiftT (Except CodecError) n]

/-- The steps of two decoders, the second one with another limit to tell and with so many levels
more, keep a relation. Of the number of elements that is read before room is made for them it is
known that four bytes can hold it. -/
structure Lockstep (Rel : ∀ α : Type, m α → n α → Prop) (reserve : Nat → Nat → m Unit)
    (reserve' : Nat → Nat → n Unit) (limit limit' more : Nat) : Prop where
  ret : ∀ {α : Type} (a : α), Rel α (pure a) (pure a)
  bind : ∀ {α β : Type} {step : m α} {step' : n α} {next : α → m β} {next' : α → n β},
    Rel α step step' → (∀ a, Rel β (next a) (next' a)) → Rel β (step >>= next) (step' >>= next')
  lift : ∀ {α : Type} {step : Except CodecError α}, Shallow step → Rel α (liftM step) (liftM step)
  after : ∀ {α β : Type} {step : Except CodecError α} {next : α → m β} {next' : α → n β},
    Shallow step → (∀ a, step = .ok a → Rel β (next a) (next' a)) →
      Rel β (liftM step >>= next) (liftM step >>= next')
  descend : ∀ {α : Type} {step : Nat → m α} {step' : Nat → n α},
    (∀ room, Rel α (step room) (step' (room + more))) → ∀ room,
      Rel α (liftM (descend limit room) >>= step) (liftM (descend limit' (room + more)) >>= step')
  reserve : ∀ width count, width ≤ entryWidth → count < UInt32.size →
    Rel Unit (reserve width count) (reserve' width count)

variable {Rel : ∀ α : Type, m α → n α → Prop} {reserve : Nat → Nat → m Unit}
  {reserve' : Nat → Nat → n Unit} {limit limit' more : Nat}

namespace Lockstep

theorem map {α β : Type} (h : Lockstep Rel reserve reserve' limit limit' more) {step : m α}
    {step' : n α} (hstep : Rel α step step') (f : α → β) :
    Rel β (step >>= fun a => pure (f a)) (step' >>= fun a => pure (f a)) :=
  h.bind hstep fun a => h.ret (f a)

theorem refuse {α : Type} (h : Lockstep Rel reserve reserve' limit limit' more) {e : CodecError}
    (he : ¬e.isTooDeep) : Rel α (liftM (.error e : Except CodecError α))
      (liftM (.error e : Except CodecError α)) :=
  h.lift (shallow_error he)

theorem many (h : Lockstep Rel reserve reserve' limit limit' more)
    {decodeOne : Cursor → m (Value × Cursor)} {decodeOne' : Cursor → n (Value × Cursor)}
    (hone : ∀ c, Rel _ (decodeOne c) (decodeOne' c)) (count : Nat) (c : Cursor) :
    Rel _ (decodeMany decodeOne count c) (decodeMany decodeOne' count c) := by
  induction count generalizing c with
  | zero => exact h.ret _
  | succ count ih =>
    refine h.bind (hone c) fun read => ?_
    exact h.map (ih read.2) fun rest => (read.1 :: rest.1, rest.2)

theorem entries (h : Lockstep Rel reserve reserve' limit limit' more)
    {decodeKey decodeValue : Cursor → m (Value × Cursor)}
    {decodeKey' decodeValue' : Cursor → n (Value × Cursor)}
    (hk : ∀ c, Rel _ (decodeKey c) (decodeKey' c))
    (hv : ∀ c, Rel _ (decodeValue c) (decodeValue' c)) (seen : List Bytes) (count : Nat)
    (c : Cursor) :
    Rel _ (decodeEntries decodeKey decodeValue seen count c)
      (decodeEntries decodeKey' decodeValue' seen count c) := by
  induction count generalizing seen c with
  | zero => exact h.ret _
  | succ count ih =>
    refine h.bind (hk c) fun key => ?_
    refine h.after (shallow_ensure Bool.false_ne_true) fun _ _ => ?_
    refine h.bind (hv key.2) fun value => ?_
    exact h.map (ih _ value.2) fun rest => ((key.1, value.1) :: rest.1, rest.2)

end Lockstep

theorem lt_of_decodeLength {bound : Option UInt64} {count : Nat} {c d : Cursor}
    (h : decodeLength bound c = .ok (count, d)) : count < UInt32.size := by
  simp only [decodeLength, bind_eq_ok_iff, Prod.exists, Cursor.readNat_eq_ok_iff, pure_eq_ok,
    Except.ok.injEq, Prod.mk.injEq] at h
  obtain ⟨_, _, ⟨hlt, -⟩, _, -, rfl, -⟩ := h
  exact hlt

namespace Layout

/-- Room for the elements of an array, if the layout is one, is made in step. -/
def RoomInStep (Rel : ∀ α : Type, m α → n α → Prop) (reserve : Nat → Nat → m Unit)
    (reserve' : Nat → Nat → n Unit) : Layout → Prop
  | .array _ _ length =>
    Rel Unit (reserve valueWidth length.toNat) (reserve' valueWidth length.toNat)
  | _ => True

/-- Decoding the layout keeps the relation. -/
def DecodesInStep (Rel : ∀ α : Type, m α → n α → Prop) (reserve : Nat → Nat → m Unit)
    (reserve' : Nat → Nat → n Unit) (limit limit' more : Nat) (layout : Layout) : Prop :=
  ∀ room c, Rel (Value × Cursor) (layout.decodeAtWith reserve limit room c)
    (layout.decodeAtWith reserve' limit' (room + more) c)

end Layout

namespace Lockstep
open Layout

section Shapes
variable (h : Lockstep Rel reserve reserve' limit limit' more)
include h

theorem fields {fields : List (String × Layout)}
    (hfields : ∀ field ∈ fields,
      field.2.DecodesInStep Rel reserve reserve' limit limit' more) (room : Nat) (c : Cursor) :
    Rel _ (decodeFieldsWith reserve limit room fields c)
      (decodeFieldsWith reserve' limit' (room + more) fields c) := by
  induction fields generalizing c with
  | nil => exact h.ret _
  | cons field fields ih =>
    obtain ⟨hfield, hmore⟩ := List.forall_mem_cons.mp hfields
    refine h.bind (hfield room c) fun value => ?_
    exact h.map (ih hmore value.2) fun rest => ((field.1, value.1) :: rest.1, rest.2)

theorem members {members : List Layout}
    (hmembers : ∀ member ∈ members,
      member.DecodesInStep Rel reserve reserve' limit limit' more) (room : Nat) (c : Cursor) :
    Rel _ (decodeMembersWith reserve limit room members c)
      (decodeMembersWith reserve' limit' (room + more) members c) := by
  induction members generalizing c with
  | nil => exact h.ret _
  | cons member members ih =>
    obtain ⟨hmember, hmore⟩ := List.forall_mem_cons.mp hmembers
    refine h.bind (hmember room c) fun value => ?_
    exact h.map (ih hmore value.2) fun rest => (value.1 :: rest.1, rest.2)

theorem payload {variants : List (String × Layout)}
    (hvariants : ∀ variant ∈ variants,
      variant.2.DecodesInStep Rel reserve reserve' limit limit' more) (room : Nat)
    {unknown : CodecError} (hunknown : ¬unknown.isTooDeep) (position : Nat) (c : Cursor) :
    Rel _ (decodePayloadWith reserve limit room unknown variants position c)
      (decodePayloadWith reserve' limit' (room + more) unknown variants position c) := by
  induction variants generalizing position with
  | nil => exact h.refuse hunknown
  | cons variant variants ih =>
    obtain ⟨hvariant, hmore⟩ := List.forall_mem_cons.mp hvariants
    cases position with
    | zero => exact h.descend (fun room => hvariant room c) room
    | succ position => exact ih hmore position

theorem tagged {variants : List (String × Layout)}
    (hvariants : ∀ variant ∈ variants,
      variant.2.DecodesInStep Rel reserve reserve' limit limit' more) (room : Nat)
    (typeName : String) (tag : TagWidth) (c : Cursor) :
    Rel _
      (decodeTagged typeName variants.length tag (fun unknown discriminant =>
        decodePayloadWith reserve limit room unknown variants discriminant) c)
      (decodeTagged typeName variants.length tag (fun unknown discriminant =>
        decodePayloadWith reserve' limit' (room + more) unknown variants discriminant) c) := by
  refine h.after (shallow_readNat c tag.size) fun discriminant _ => ?_
  have hunknown : ¬(CodecError.unknownVariant typeName c.offset discriminant.1
      variants.length).isTooDeep :=
    Bool.false_ne_true
  exact h.map (h.payload hvariants room hunknown _ discriminant.2)
    fun payload => (Value.enum (UInt32.ofNat discriminant.1) payload.1, payload.2)

theorem decodeAtWith (layout : Layout)
    (hroom : ∀ part, Occurs part layout → part.RoomInStep Rel reserve reserve') :
    layout.DecodesInStep Rel reserve reserve' limit limit' more := by
  induction layout with obtain ⟨hself, hinside⟩ := forall_occurs.mp hroom
  | primitive name kind => exact fun room c => h.lift (shallow_decodePrimitive kind c)
  | array name element length ih =>
    intro room c
    have helement := ih (hinside element List.mem_cons_self)
    refine h.descend (fun room => ?_) room
    refine h.bind hself fun _ => ?_
    exact h.map (h.many (helement room) length.toNat c)
      fun elements => (Value.array elements.1, elements.2)
  | sequence name element bound ih =>
    intro room c
    have helement := ih (hinside element List.mem_cons_self)
    refine h.descend (fun room => ?_) room
    refine h.after (shallow_decodeLength bound c) fun count hcount => ?_
    refine h.after (shallow_ensure Bool.false_ne_true) fun _ _ => ?_
    refine h.bind (h.reserve _ _ (by decide) (lt_of_decodeLength hcount)) fun _ => ?_
    exact h.map (h.many (helement room) count.1 count.2)
      fun elements => (Value.sequence elements.1, elements.2)
  | map name key content bound ihk ihc =>
    intro room c
    have hkey := ihk (hinside key List.mem_cons_self)
    have hcontent := ihc (hinside content (List.mem_cons_of_mem _ List.mem_cons_self))
    refine h.descend (fun room => ?_) room
    refine h.after (shallow_decodeLength bound c) fun count hcount => ?_
    refine h.bind (h.reserve _ _ (by decide) (lt_of_decodeLength hcount)) fun _ => ?_
    refine h.bind (h.reserve _ _ (by decide) (lt_of_decodeLength hcount)) fun _ => ?_
    exact h.map (h.entries (hkey room) (hcontent room) [] count.1 count.2)
      fun entries => (Value.map entries.1, entries.2)
  | option name inner ih =>
    intro room c
    have hinner := ih (hinside inner List.mem_cons_self)
    refine h.descend (fun room => ?_) room
    refine h.after (shallow_readByte c) fun tag _ => ?_
    dsimp only
    split
    · exact h.ret _
    · exact h.map (hinner room tag.2) fun value => (Value.present value.1, value.2)
    · exact h.refuse Bool.false_ne_true
  | struct name fields ih =>
    intro room c
    have hfields : ∀ field ∈ fields,
        field.2.DecodesInStep Rel reserve reserve' limit limit' more :=
      fun field hfield => ih field hfield (hinside field.2 (List.mem_map_of_mem hfield))
    refine h.descend (fun room => ?_) room
    exact h.map (h.fields hfields room c) fun values => (Value.struct values.1, values.2)
  | tuple name members ih =>
    intro room c
    have hmembers : ∀ member ∈ members,
        member.DecodesInStep Rel reserve reserve' limit limit' more :=
      fun member hmember => ih member hmember (hinside member hmember)
    refine h.descend (fun room => ?_) room
    exact h.map (h.members hmembers room c) fun values => (Value.tuple values.1, values.2)
  | enum name variants tag ih =>
    intro room c
    have hvariants : ∀ variant ∈ variants,
        variant.2.DecodesInStep Rel reserve reserve' limit limit' more :=
      fun variant hvariant => ih variant hvariant (hinside variant.2 (List.mem_map_of_mem hvariant))
    exact h.descend (fun room => h.tagged hvariants room name tag c) room

end Shapes

section Operations
variable {limits limits' : Limits}
  (h : Lockstep Rel reserve reserve' limits.maxDepth limits'.maxDepth more)
  (hdepth : limits'.maxDepth = limits.maxDepth + more)
include h hdepth

theorem decodeWith (layout : Layout)
    (hroom : ∀ part, Occurs part layout → part.RoomInStep Rel reserve reserve') (input : Bytes) :
    Rel _ (layout.decodeWith reserve limits input) (layout.decodeWith reserve' limits' input) := by
  have hdecode := h.decodeAtWith layout hroom limits.maxDepth (.start input)
  rw [← hdepth] at hdecode
  exact h.map hdecode fun read => (read.1, read.2.offset)

theorem decodeExactWith (layout : Layout)
    (hroom : ∀ part, Occurs part layout → part.RoomInStep Rel reserve reserve') (input : Bytes) :
    Rel _ (layout.decodeExactWith reserve limits input)
      (layout.decodeExactWith reserve' limits' input) := by
  refine h.bind (h.decodeWith hdepth layout hroom input) fun read => ?_
  exact h.after (shallow_ensure Bool.false_ne_true) fun _ _ => h.ret read.1

theorem decodeVariantWith (variants : List (String × Layout))
    (hroom : ∀ variant ∈ variants, ∀ part, Occurs part variant.2 →
      part.RoomInStep Rel reserve reserve') (tag : TagWidth) (input : Bytes) :
    Rel _ (decodeVariantWith reserve variants tag limits input)
      (decodeVariantWith reserve' variants tag limits' input) := by
  have htagged := h.tagged (fun variant hvariant =>
    h.decodeAtWith variant.2 (hroom variant hvariant)) limits.maxDepth anonymousEnum tag
    (.start input)
  rw [← hdepth] at htagged
  refine h.bind htagged fun read => ?_
  obtain ⟨value, c⟩ := read
  cases value with
  | enum index payload => exact h.ret _
  | _ => exact h.refuse Bool.false_ne_true

end Operations

end Lockstep

end Lockstep
end WireSchema
