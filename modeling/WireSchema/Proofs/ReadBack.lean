import Mathlib.Algebra.Ring.Int.Defs
import WireSchema.Codec.Writer
import WireSchema.Proofs.Advance
import WireSchema.Proofs.Conformance

/-!
Reading back what was written. Main statement: after any writes, the reads of the same kinds give
what was written, from and to the same offsets, and a read of more than is left changes nothing.
-/

namespace WireSchema

/-- The numbers of a kind. -/
def IntKind.InRange (kind : IntKind) (n : Int) : Prop :=
  if kind.signed then -(2 ^ (8 * kind.size - 1)) ≤ n ∧ n < 2 ^ (8 * kind.size - 1)
  else 0 ≤ n ∧ n < 2 ^ (8 * kind.size)

/-- The words of a kind stand for its numbers and no others. -/
theorem IntKind.inRange_iff (kind : IntKind) (n : Int) :
    kind.InRange n ↔ ∃ word : kind.Word, kind.toInt word = n := by
  cases hsigned : kind.signed with
  | true =>
    have hpos : 0 < 8 * kind.size := by cases kind <;> decide
    simp only [InRange, toInt, hsigned, if_true]
    constructor
    · rintro ⟨hlow, hhigh⟩
      exact ⟨BitVec.ofInt _ n, BitVec.toInt_ofInt_eq_self hpos hlow hhigh⟩
    · rintro ⟨word, rfl⟩
      exact ⟨BitVec.le_toInt word, BitVec.toInt_lt⟩
  | false =>
    simp only [InRange, toInt, hsigned, Bool.false_eq_true, if_false]
    constructor
    · rintro ⟨hlow, hhigh⟩
      obtain ⟨m, rfl⟩ := Int.eq_ofNat_of_zero_le hlow
      have hlt : m < 2 ^ (8 * kind.size) := by exact_mod_cast hhigh
      exact ⟨BitVec.ofNat _ m, by rw [BitVec.toNat_ofNat, Nat.mod_eq_of_lt hlt]⟩
    · rintro ⟨word, rfl⟩
      have hlt := word.isLt
      exact ⟨Int.natCast_nonneg _, by exact_mod_cast hlt⟩

/-- What is written at one go. -/
inductive Item
  | int (kind : IntKind) (word : kind.Word)
  | bytes (bs : Bytes)

/-- What is asked for at one go. -/
inductive Request
  | int (kind : IntKind)
  | bytes (count : Nat)

def Request.size : Request → Nat
  | int kind => kind.size
  | bytes count => count

namespace Item

/-- The read that corresponds to the write. -/
def request : Item → Request
  | int kind _ => .int kind
  | bytes bs => .bytes bs.length

def content : Item → Bytes
  | int kind word => kind.toBytes word
  | bytes bs => bs

end Item

namespace Writer

def write (w : Writer) : Item → Writer
  | .int kind word => w.writeInt kind word
  | .bytes bs => w.writeBytes bs

def writeAll (w : Writer) (items : List Item) : Writer :=
  items.foldl write w

theorem buffer_write (w : Writer) (item : Item) :
    (w.write item).buffer = w.buffer ++ item.content := by
  cases item <;> rfl

theorem buffer_writeAll (w : Writer) (items : List Item) :
    (w.writeAll items).buffer = w.buffer ++ items.flatMap Item.content := by
  induction items generalizing w with
  | nil => simp [writeAll]
  | cons item items ih =>
    have hrest := ih (w.write item)
    rw [buffer_write, List.append_assoc] at hrest
    rw [List.flatMap_cons, ← hrest]
    rfl

end Writer

namespace Cursor

/-- What a read comes to, and the cursor after it. -/
def attempt (c : Cursor) : Request → Except CodecError Item × Cursor
  | .int kind =>
    let (word, d) := c.takeInt kind
    (word.map (.int kind), d)
  | .bytes count =>
    let (bs, d) := c.take count
    (bs.map .bytes, d)

/-- Reads one after the other, whether they succeed or not. -/
def attemptAll (c : Cursor) : List Request → List (Except CodecError Item) × Cursor
  | [] => ([], c)
  | request :: requests =>
    let (result, d) := c.attempt request
    let (results, last) := d.attemptAll requests
    (result :: results, last)

/-- A read takes back one write. -/
theorem attempt_request {c d : Cursor} {item : Item} (h : c.Advance item.content d) :
    c.attempt item.request = (.ok item, d) := by
  cases item with
  | int kind word =>
    have htake := take_of_advance h
    rw [Item.content, kind.length_toBytes] at htake
    simp only [Item.request, attempt, takeInt, htake, Except.map, kind.ofBytes_toBytes]
  | bytes bs =>
    have htake : c.take bs.length = (.ok bs, d) := take_of_advance h
    simp only [Item.request, attempt, htake, Except.map]

theorem attemptAll_requests {c d : Cursor} {items : List Item}
    (h : c.Advance (items.flatMap Item.content) d) :
    c.attemptAll (items.map Item.request) = (items.map .ok, d) := by
  induction items generalizing c with
  | nil =>
    obtain rfl := advance_nil.mp h
    rfl
  | cons item items ih =>
    rw [List.flatMap_cons] at h
    obtain ⟨m, hitem, hrest⟩ := advance_append.mp h
    simp only [List.map_cons, attemptAll, attempt_request hitem, ih hrest]

theorem attempt_of_remaining_lt {c : Cursor} {request : Request}
    (h : c.remaining < request.size) :
    c.attempt request = (.error (.truncatedInput c.offset request.size c.remaining), c) := by
  have htake := take_of_remaining_lt h
  cases request with
  | int kind =>
    rw [Request.size] at htake
    simp only [attempt, takeInt, htake, Except.map, Request.size]
  | bytes count =>
    rw [Request.size] at htake
    simp only [attempt, htake, Except.map, Request.size]

theorem since_eq_drop (c : Cursor) (start : Nat) : c.since start = c.read.reverse.drop start := by
  rw [since, offset, List.drop_reverse]

end Cursor

/-- At every place between two writes: the reads up to there give what was written up to there,
and end where the writes ended. -/
theorem Cursor.reads_back :
    (∀ (before after rest : List Item) (tail : Bytes),
      let all := Writer.writeAll {} (before ++ after ++ rest)
      let w := Writer.writeAll {} (before ++ after)
      ∃ c, (Cursor.start (all.buffer ++ tail)).attemptAll ((before ++ after).map Item.request) =
          ((before ++ after).map .ok, c) ∧
        c.offset = w.offset ∧ c.offset + c.remaining = all.offset + tail.length ∧
        (∀ start, c.since start = w.since start) ∧
        c.since (Writer.writeAll {} before).offset = after.flatMap Item.content) ∧
    (∀ (c : Cursor) (request : Request), c.remaining < request.size →
      c.attempt request = (.error (.truncatedInput c.offset request.size c.remaining), c)) ∧
    (∀ (kind : IntKind) (n : Int), kind.InRange n ↔ ∃ word : kind.Word, kind.toInt word = n) ∧
    ∀ (kind : IntKind) (word : kind.Word),
      (Item.int kind word).content = Bytes.ofInt kind.size (kind.toInt word) := by
  refine ⟨?_, fun _ _ => attempt_of_remaining_lt, IntKind.inRange_iff, IntKind.toBytes_eq_ofInt⟩
  intro before after rest tail all w
  have hbuffer (items : List Item) :
      (Writer.writeAll {} items).buffer = items.flatMap Item.content := by
    simp [Writer.buffer_writeAll]
  let done := (before ++ after).flatMap Item.content
  let c : Cursor := ⟨done.reverse, rest.flatMap Item.content ++ tail⟩
  have hall : all.buffer = done ++ rest.flatMap Item.content := by
    rw [hbuffer, List.flatMap_append]
  have hmoved : (Cursor.start (all.buffer ++ tail)).Advance done c :=
    ⟨by rw [hall, List.append_assoc]; rfl, (List.append_nil _).symm⟩
  have hsince (start : Nat) : c.since start = w.since start := by
    rw [since_eq_drop, List.reverse_reverse, Writer.since, hbuffer]
  refine ⟨c, attemptAll_requests hmoved, ?_, ?_, hsince, ?_⟩
  · rw [offset, List.length_reverse, Writer.offset, hbuffer]
  · rw [offset, remaining, Writer.offset, hall]
    simp only [c, List.length_reverse, List.length_append]
    omega
  · rw [hsince, Writer.since, Writer.offset, hbuffer, hbuffer, List.flatMap_append, List.drop_left]

theorem Cursor.reads_back_mixed :
    let w := Writer.writeAll {} [.int .i16 0xfffe, .bytes [7]]
    ∃ c, (Cursor.start w.buffer).attemptAll [.int .i16] = ([.ok (.int .i16 0xfffe)], c) ∧
      c.offset = 2 ∧ c.attempt (.int .u64) = (.error (.truncatedInput 2 8 1), c) := by
  intro w
  obtain ⟨c, hread, hoffset, hleft, -⟩ :=
    reads_back.1 [] [.int .i16 0xfffe] [.bytes [7]] []
  have htwo : c.offset = 2 := hoffset
  have hone : c.remaining = 1 := by
    have hthree : c.offset + c.remaining = 3 := hleft
    omega
  have hshort := reads_back.2.1 c (.int .u64) (by rw [hone]; decide)
  rw [htwo, hone] at hshort
  exact ⟨c, hread, htwo, hshort⟩

end WireSchema
