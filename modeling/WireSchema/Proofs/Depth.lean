import WireSchema.Proofs.Lockstep

/-!
How the number of levels shows in what a codec comes to. Main statement: a run with more levels, or
with another limit to tell, comes to the same, unless the levels of the first run were exceeded.
-/

namespace WireSchema

/-- What came of two runs, the second one with another limit to tell and with so many levels more:
the same, or the first one ran out of levels, and the second too if it had no more of them. -/
inductive Deepened {α : Type} (limit limit' more : Nat) :
    Except CodecError α → Except CodecError α → Prop
  | same {result} : Shallow result → Deepened limit limit' more result result
  | exceeded {result} : (more = 0 → result = .error (.depthLimitExceeded limit')) →
      Deepened limit limit' more (.error (.depthLimitExceeded limit)) result

section Steps
variable {α β : Type} {limit limit' more : Nat}

theorem Deepened.bind {step step' : Except CodecError α} {next next' : α → Except CodecError β}
    (h : Deepened limit limit' more step step')
    (hnext : ∀ a, Deepened limit limit' more (next a) (next' a)) :
    Deepened limit limit' more (step >>= next) (step' >>= next') := by
  cases h with
  | same hshallow =>
    cases step with
    | error e => exact .same (shallow_error (hshallow e rfl))
    | ok a => exact hnext a
  | exceeded hnone =>
    refine .exceeded fun hmore => ?_
    rw [hnone hmore, error_bind]

/-- The first step knows of no levels. -/
theorem Deepened.after {step : Except CodecError α} {next next' : α → Except CodecError β}
    (h : Shallow step) (hnext : ∀ a, Deepened limit limit' more (next a) (next' a)) :
    Deepened limit limit' more (step >>= next) (step >>= next') :=
  (Deepened.same h).bind hnext

theorem Deepened.map {step step' : Except CodecError α} (h : Deepened limit limit' more step step')
    (f : α → β) :
    Deepened limit limit' more (step >>= fun a => .ok (f a)) (step' >>= fun a => .ok (f a)) :=
  h.bind fun a => .same (shallow_ok (f a))

/-- Only where no level is left is the number of levels seen. -/
theorem Deepened.descend {step step' : Nat → Except CodecError α}
    (h : ∀ room, Deepened limit limit' more (step room) (step' (room + more))) (room : Nat) :
    Deepened limit limit' more (descend limit room >>= step)
      (descend limit' (room + more) >>= step') := by
  cases room with
  | succ room =>
    rw [Nat.add_right_comm, descend_succ, descend_succ]
    exact h room
  | zero =>
    refine .exceeded fun hmore => ?_
    rw [hmore, descend_zero, error_bind]

theorem deepened_encodeMany {encodeOne encodeOne' : Nat → Value → Except CodecError Bytes}
    (h : ∀ offset value,
      Deepened limit limit' more (encodeOne offset value) (encodeOne' offset value))
    (offset : Nat) (values : List Value) :
    Deepened limit limit' more (encodeMany encodeOne offset values)
      (encodeMany encodeOne' offset values) := by
  induction values generalizing offset with
  | nil => exact .same (shallow_ok [])
  | cons value values ih => exact (h offset value).bind fun bs => (ih _).map (bs ++ ·)

theorem deepened_encodeEntries
    {encodeKey encodeKey' encodeValue encodeValue' : Nat → Value → Except CodecError Bytes}
    (hk : ∀ offset value,
      Deepened limit limit' more (encodeKey offset value) (encodeKey' offset value))
    (hv : ∀ offset value,
      Deepened limit limit' more (encodeValue offset value) (encodeValue' offset value))
    (seen : List Bytes) (offset : Nat) (entries : List (Value × Value)) :
    Deepened limit limit' more (encodeEntries encodeKey encodeValue seen offset entries)
      (encodeEntries encodeKey' encodeValue' seen offset entries) := by
  induction entries generalizing seen offset with
  | nil => exact .same (shallow_ok [])
  | cons entry entries ih =>
    refine (hk offset entry.1).bind fun ks => ?_
    refine .after (shallow_ensure Bool.false_ne_true) fun _ => ?_
    exact (hv _ entry.2).bind fun vs => (ih _ _).map (ks ++ vs ++ ·)

/-- Two decoders that differ in their levels keep in step. -/
theorem lockstep_deepened :
    Lockstep (m := Except CodecError) (n := Except CodecError)
      (fun _ => Deepened limit limit' more) reserveNothing reserveNothing limit limit' more where
  ret a := .same (shallow_ok a)
  bind := .bind
  lift := .same
  after {_ _ step _ _} hshallow hnext := by
    cases step with
    | error e => exact .same (shallow_error (hshallow e rfl))
    | ok a => exact hnext a rfl
  descend := .descend
  reserve _ _ _ _ := .same (shallow_ok ())

end Steps

namespace Layout
variable {limit limit' more : Nat}

/-- Encoding against the layout, with another limit to tell and so many levels more. -/
def EncodesDeepened (limit limit' more : Nat) (layout : Layout) : Prop :=
  ∀ room offset value, Deepened limit limit' more (layout.encodeAt limit room offset value)
    (layout.encodeAt limit' (room + more) offset value)

def DecodesDeepened (limit limit' more : Nat) (layout : Layout) : Prop :=
  ∀ room c, Deepened limit limit' more (layout.decodeAt limit room c)
    (layout.decodeAt limit' (room + more) c)

theorem deepened_encodeFields {fields : List (String × Layout)}
    (h : ∀ field ∈ fields, field.2.EncodesDeepened limit limit' more) (room offset : Nat)
    (values : List (String × Value)) :
    Deepened limit limit' more (encodeFields limit room offset fields values)
      (encodeFields limit' (room + more) offset fields values) := by
  induction fields generalizing offset values with
  | nil => exact .same (shallow_ok [])
  | cons field fields ih =>
    obtain ⟨hfield, hfields⟩ := List.forall_mem_cons.mp h
    cases values with
    | nil => exact .same (shallow_ok [])
    | cons value values =>
      refine .after (shallow_ensure Bool.false_ne_true) fun _ => ?_
      exact (hfield room offset value.2).bind fun bs => (ih hfields _ values).map (bs ++ ·)

theorem deepened_encodeMembers {members : List Layout}
    (h : ∀ member ∈ members, member.EncodesDeepened limit limit' more) (room offset : Nat)
    (values : List Value) :
    Deepened limit limit' more (encodeMembers limit room offset members values)
      (encodeMembers limit' (room + more) offset members values) := by
  induction members generalizing offset values with
  | nil => exact .same (shallow_ok [])
  | cons member members ih =>
    obtain ⟨hmember, hmembers⟩ := List.forall_mem_cons.mp h
    cases values with
    | nil => exact .same (shallow_ok [])
    | cons value values =>
      exact (hmember room offset value).bind fun bs => (ih hmembers _ values).map (bs ++ ·)

theorem deepened_encodePayload {variants : List (String × Layout)}
    (h : ∀ variant ∈ variants, variant.2.EncodesDeepened limit limit' more) (room offset : Nat)
    {outOfRange : CodecError} (hout : ¬outOfRange.isTooDeep) (value : Value) (position : Nat) :
    Deepened limit limit' more
      (encodePayload limit room offset outOfRange value variants position)
      (encodePayload limit' (room + more) offset outOfRange value variants position) := by
  induction variants generalizing position with
  | nil => exact .same (shallow_error hout)
  | cons variant variants ih =>
    obtain ⟨hvariant, hvariants⟩ := List.forall_mem_cons.mp h
    cases position with
    | zero => exact .descend (fun room => hvariant room offset value) room
    | succ position => exact ih hvariants position

theorem deepened_encodeTagged {variants : List (String × Layout)}
    (h : ∀ variant ∈ variants, variant.2.EncodesDeepened limit limit' more) (room offset : Nat)
    (typeName : String) (tag : TagWidth) (index : UInt32) (payload : Value) :
    Deepened limit limit' more
      (encodeTagged typeName variants.length tag index fun outOfRange =>
        encodePayload limit room offset outOfRange payload variants index.toNat)
      (encodeTagged typeName variants.length tag index fun outOfRange =>
        encodePayload limit' (room + more) offset outOfRange payload variants index.toNat) := by
  have hout : ¬(CodecError.variantIndexOutOfRange typeName index variants.length).isTooDeep :=
    Bool.false_ne_true
  refine .after (shallow_ensure hout) fun _ => ?_
  exact (deepened_encodePayload h room offset hout payload _).map (_ ++ ·)

section Shapes
variable {name : String} {bound : Option UInt64} {element key content inner : Layout}
  {fields variants : List (String × Layout)} {members : List Layout}

theorem EncodesDeepened.array (h : element.EncodesDeepened limit limit' more) (length : UInt64) :
    (array name element length).EncodesDeepened limit limit' more := by
  intro room offset value
  refine .descend (fun room => ?_) room
  cases value with
  | array elements =>
    refine .after (shallow_ensure Bool.false_ne_true) fun _ => ?_
    exact deepened_encodeMany (h room) offset elements
  | _ => exact .same (shallow_kindMismatch _ _)

theorem EncodesDeepened.sequence (h : element.EncodesDeepened limit limit' more) :
    (sequence name element bound).EncodesDeepened limit limit' more := by
  intro room offset value
  refine .descend (fun room => ?_) room
  cases value with
  | sequence elements =>
    refine .after (shallow_ensure Bool.false_ne_true) fun _ => ?_
    refine .after (shallow_encodeLength _ _ _) fun count => ?_
    exact (deepened_encodeMany (h room) _ elements).map (count ++ ·)
  | _ => exact .same (shallow_kindMismatch _ _)

theorem EncodesDeepened.map (hkey : key.EncodesDeepened limit limit' more)
    (hcontent : content.EncodesDeepened limit limit' more) :
    (map name key content bound).EncodesDeepened limit limit' more := by
  intro room offset value
  refine .descend (fun room => ?_) room
  cases value with
  | map entries =>
    refine .after (shallow_encodeLength _ _ _) fun count => ?_
    exact (deepened_encodeEntries (hkey room) (hcontent room) [] _ entries).map (count ++ ·)
  | _ => exact .same (shallow_kindMismatch _ _)

theorem EncodesDeepened.option (h : inner.EncodesDeepened limit limit' more) :
    (option name inner).EncodesDeepened limit limit' more := by
  intro room offset value
  refine .descend (fun room => ?_) room
  cases value with
  | absent => exact .same (shallow_ok [0])
  | present v => exact (h room _ v).map (1 :: ·)
  | _ => exact .same (shallow_kindMismatch _ _)

theorem EncodesDeepened.struct
    (h : ∀ field ∈ fields, field.2.EncodesDeepened limit limit' more) :
    (struct name fields).EncodesDeepened limit limit' more := by
  intro room offset value
  refine .descend (fun room => ?_) room
  cases value with
  | struct values =>
    refine .after (shallow_ensure Bool.false_ne_true) fun _ => ?_
    exact deepened_encodeFields h room offset values
  | tuple values =>
    cases values with
    | nil => exact .same (.ite (shallow_ok []) (shallow_kindMismatch _ _))
    | cons value values => exact .same (shallow_kindMismatch _ _)
  | _ => exact .same (shallow_kindMismatch _ _)

theorem EncodesDeepened.tuple
    (h : ∀ member ∈ members, member.EncodesDeepened limit limit' more) :
    (tuple name members).EncodesDeepened limit limit' more := by
  intro room offset value
  refine .descend (fun room => ?_) room
  cases value with
  | tuple values =>
    refine .after (shallow_ensure Bool.false_ne_true) fun _ => ?_
    exact deepened_encodeMembers h room offset values
  | struct values =>
    cases values with
    | nil => exact .same (.ite (shallow_ok []) (shallow_kindMismatch _ _))
    | cons value values => exact .same (shallow_kindMismatch _ _)
  | _ => exact .same (shallow_kindMismatch _ _)

theorem EncodesDeepened.enum
    (h : ∀ variant ∈ variants, variant.2.EncodesDeepened limit limit' more) (tag : TagWidth) :
    (enum name variants tag).EncodesDeepened limit limit' more := by
  intro room offset value
  refine .descend (fun room => ?_) room
  cases value with
  | enum index payload => exact deepened_encodeTagged h room _ name tag index payload
  | _ => exact .same (shallow_kindMismatch _ _)

end Shapes

theorem deepened_encodeAt (layout : Layout) : layout.EncodesDeepened limit limit' more := by
  induction layout with
  | primitive name kind =>
    exact fun room offset value => .same (shallow_encodePrimitive offset _ kind value)
  | array name element length ih => exact ih.array length
  | sequence name element bound ih => exact ih.sequence
  | map name key content bound ihk ihc => exact ihk.map ihc
  | option name inner ih => exact ih.option
  | struct name fields ih => exact .struct ih
  | tuple name members ih => exact .tuple ih
  | enum name variants tag ih => exact .enum ih tag

theorem deepened_decodeAt (layout : Layout) : layout.DecodesDeepened limit limit' more :=
  lockstep_deepened.decodeAtWith layout fun part _ => by
    cases part with
    | array name element length => exact .same (shallow_ok ())
    | _ => trivial

end Layout
end WireSchema
