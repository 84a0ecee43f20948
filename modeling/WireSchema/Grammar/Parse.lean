import WireSchema.Grammar.Ahead

/-!
Readers of tokens: they take some tokens off the front, or refuse.
-/

namespace WireSchema

abbrev Parse := StateT (List Token) Option

namespace Parse
variable {α : Type}

@[simp]
theorem run_discard (p : Parse α) (ts : List Token) :
    (discard p).run ts = (p.run ts).map fun result => ((), result.2) := by
  have hdiscard : discard p = StateT.map (fun _ => ()) p := rfl
  cases h : p.run ts <;> simp_all [StateT.map, StateT.run]

def ahead (test : List Token → Bool) : Parse Bool :=
  return test (← get)

@[simp]
theorem run_ahead (test : List Token → Bool) (ts : List Token) :
    (ahead test).run ts = some (test ts, ts) :=
  rfl

def next : Parse Token := fun
  | token :: rest => some (token, rest)
  | [] => none

@[simp]
theorem run_next (token : Token) (ts : List Token) : next.run (token :: ts) = some (token, ts) :=
  rfl

def require (b : Bool) : Parse Unit :=
  if b then return else failure

@[simp]
theorem run_require (b : Bool) (ts : List Token) :
    (require b).run ts = if b then some ((), ts) else none := by
  cases b <;> rfl

/-- Takes the next token, which has to pass the test. -/
def expect (test : List Token → Bool) : Parse Unit := do
  require (← ahead test)
  discard next

@[simp]
theorem run_expect (test : List Token → Bool) (token : Token) (ts : List Token) :
    (expect test).run (token :: ts) = if test (token :: ts) then some ((), ts) else none := by
  cases h : test (token :: ts) <;> simp [expect, h]

def mark (c : Char) : Parse Unit :=
  expect (Ahead.mark c)

@[simp]
theorem run_mark (c : Char) (joint : Bool) (ts : List Token) :
    (mark c).run (.mark c joint :: ts) = some ((), ts) := by
  simp [mark, Ahead.mark]

def marks (cs : List Char) : Parse Unit := do
  require (← ahead (Ahead.marks cs))
  modify (·.drop cs.length)

def keyword (text : String) : Parse Unit :=
  expect (Ahead.keyword text)

def name : Parse Unit :=
  expect Ahead.name

def lifetime : Parse Unit :=
  expect Ahead.lifetime

def opening (delimiter : Delimiter) : Parse Unit :=
  expect (Ahead.opening delimiter)

def closing (delimiter : Delimiter) : Parse Unit :=
  expect (Ahead.closing delimiter)

/-- Takes the next token if it passes the test. -/
def accept (test : List Token → Bool) : Parse Bool := do
  if ← ahead test then
    discard next
    return true
  else return false

theorem run_accept_of_not (test : List Token → Bool) (ts : List Token) (h : test ts = false) :
    (accept test).run ts = some (false, ts) := by
  simp [accept, h]

def acceptMarks (cs : List Char) : Parse Bool := do
  if ← ahead (Ahead.marks cs) then
    marks cs
    return true
  else return false

theorem run_acceptMarks_of_not {cs : List Char} {ts : List Token}
    (h : Ahead.marks cs ts = false) : (acceptMarks cs).run ts = some (false, ts) := by
  simp [acceptMarks, h]

/-- Items with commas between them and maybe after the last. Each takes at least one token. -/
def listWithin (item : Parse α) (atEnd : List Token → Bool) : Nat → Parse (List α)
  | 0 => failure
  | steps + 1 => do
    if ← ahead atEnd then return []
    let first ← item
    if ← ahead atEnd then return [first]
    mark ','
    return first :: (← listWithin item atEnd steps)

def list (item : Parse α) (atEnd : List Token → Bool) : Parse (List α) := do
  listWithin item atEnd ((← get).length + 1)

theorem run_list (item : Parse α) (atEnd : List Token → Bool) (ts : List Token) :
    (list item atEnd).run ts = (listWithin item atEnd (ts.length + 1)).run ts :=
  rfl

/-- Items with a mark between them and maybe after the last. They are over where `atEnd` holds and
where the mark is missing. Each takes at least one token. -/
def seriesWithin (item : Parse α) (separator : Char) (atEnd : List Token → Bool) :
    Nat → Parse Unit
  | 0 => return
  | steps + 1 => do
    if ← ahead atEnd then return
    discard item
    if ← accept (Ahead.mark separator) then seriesWithin item separator atEnd steps

def series (item : Parse α) (separator : Char) (atEnd : List Token → Bool) :
    Parse Unit := do
  seriesWithin item separator atEnd ((← get).length + 1)

/-- Takes `item` as long as `test` holds. Each takes at least one token. -/
def whileWithin (test : List Token → Bool) (item : α → Parse α) : Nat → α → Parse α
  | 0, a => return a
  | steps + 1, a => do
    if ← ahead test then whileWithin test item steps (← item a) else return a

def whileAhead (test : List Token → Bool) (item : α → Parse α) (a : α) : Parse α := do
  whileWithin test item (← get).length a

theorem run_whileAhead_of_not {test : List Token → Bool} {ts : List Token} (h : test ts = false)
    (item : α → Parse α) (a : α) : (whileAhead test item a).run ts = some (a, ts) := by
  cases hlength : ts.length <;> simp [whileAhead, hlength, whileWithin, h]

/-- Items up to the end of the group. -/
def toEnd (item : Parse Unit) : Parse Unit :=
  whileAhead (fun ts => !Ahead.finished ts) (fun _ => item) ()

/-- What stands between delimiters. -/
def between (delimiter : Delimiter) (content : Parse α) : Parse α := do
  opening delimiter
  let a ← content
  closing delimiter
  return a

/-- Any tokens between delimiters. -/
def group : Parse Unit := fun ts => do
  return ((), ← Ahead.groupEnd? 0 ts)

/-- A word of a path that has no arguments. -/
def pathWord : Parse Unit :=
  expect fun ts => Ahead.name ts || Ahead.pathWord ts

/-- A path without arguments. -/
def plainPath : Parse Unit := do
  discard (acceptMarks [':', ':'])
  pathWord
  whileAhead Ahead.colons (fun _ => do marks [':', ':']; pathWord) ()

def builtin : Parse Unit := do
  name
  mark '#'
  name
  require (← ahead (Ahead.opening .paren))
  group

end Parse
end WireSchema
