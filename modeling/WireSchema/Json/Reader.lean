import WireSchema.Bytes
import WireSchema.Json.Number

/-!
JSON text to values. `parse?` knows the grammar only. `parseStrict?` also refuses strings that are
no text and numbers that overflow.
-/

namespace WireSchema.Json

def isSpace (c : Char) : Bool :=
  c == ' ' || c == '\t' || c == '\n' || c == '\r'

def skipSpace (s : List Char) : List Char :=
  s.dropWhile isSpace

def hexUnit? (ds : List Char) : Option Nat :=
  ds.foldlM (fun n c => return 16 * n + (← Bytes.hexValue? c)) 0

def escaped? : Char → Option Char
  | '"' => some '"'
  | '\\' => some '\\'
  | '/' => some '/'
  | 'b' => some '\x08'
  | 'f' => some '\x0c'
  | 'n' => some '\n'
  | 'r' => some '\r'
  | 't' => some '\t'
  | _ => none

/-- The character of a pair of surrogate units. -/
def pairedChar (high low : Nat) : Char :=
  Char.ofNat (0x10000 + 0x400 * (high - 0xd800) + (low - 0xdc00))

def isSurrogate (unit : Nat) : Bool :=
  0xd800 ≤ unit && unit < 0xe000

def isHigh (unit : Nat) : Bool :=
  0xd800 ≤ unit && unit < 0xdc00

def pushUnit (acc : Option (List Char)) (unit : Nat) : Option (List Char) :=
  if isSurrogate unit then none else acc.map (Char.ofNat unit :: ·)

/-- Reads up to the closing quote. `acc` holds the characters before, latest first. Half a
surrogate pair is no character, and what holds one is no text. -/
def readText? (acc : Option (List Char)) : List Char → Option (Option String × List Char)
  | '"' :: rest => some (acc.map fun cs => String.ofList cs.reverse, rest)
  | '\\' :: 'u' :: a :: b :: c :: d :: '\\' :: 'u' :: e :: f :: g :: h :: rest => do
    let unit ← hexUnit? [a, b, c, d]
    let next ← hexUnit? [e, f, g, h]
    if isHigh unit && isSurrogate next && !isHigh next then
      readText? (acc.map (pairedChar unit next :: ·)) rest
    else readText? (pushUnit acc unit) ('\\' :: 'u' :: e :: f :: g :: h :: rest)
  | '\\' :: 'u' :: a :: b :: c :: d :: rest => do
    let unit ← hexUnit? [a, b, c, d]
    readText? (pushUnit acc unit) rest
  | '\\' :: c :: rest => do
    let c ← escaped? c
    readText? (acc.map (c :: ·)) rest
  | c :: rest => if c.toNat < 0x20 then none else readText? (acc.map (c :: ·)) rest
  | [] => none

def literal? (s : List Char) : Option (Json × List Char) :=
  match s with
  | 'n' :: 'u' :: 'l' :: 'l' :: rest => some (.null, rest)
  | 't' :: 'r' :: 'u' :: 'e' :: rest => some (.bool true, rest)
  | 'f' :: 'a' :: 'l' :: 's' :: 'e' :: rest => some (.bool false, rest)
  | _ => none

/-- The object of some entries, if all the keys are texts. -/
def ofEntries (entries : List (Option String × Json)) : Json :=
  match entries.mapM fun (key, value) => key.map (·, value) with
  | some entries => object entries
  | none => broken

mutual

/-- Each level of nesting and each item uses up one of the steps, so as many as there are
characters are enough. -/
def readValue? : Nat → List Char → Option (Json × List Char)
  | 0, _ => none
  | steps + 1, s =>
    match skipSpace s with
    | '"' :: rest => do
      let (text, rest) ← readText? (some []) rest
      return ((text.map string).getD broken, rest)
    | '[' :: rest =>
      match skipSpace rest with
      | ']' :: rest => some (.array [], rest)
      | rest => do
        let (items, rest) ← readItems? steps rest
        return (.array items, rest)
    | '{' :: rest =>
      match skipSpace rest with
      | '}' :: rest => some (.object [], rest)
      | rest => do
        let (entries, rest) ← readEntries? steps rest
        return (ofEntries entries, rest)
    | s => (literal? s).or (readNumber? s)

def readItems? : Nat → List Char → Option (List Json × List Char)
  | 0, _ => none
  | steps + 1, s => do
    let (item, rest) ← readValue? steps s
    match skipSpace rest with
    | ',' :: rest => do
      let (items, rest) ← readItems? steps rest
      return (item :: items, rest)
    | ']' :: rest => return ([item], rest)
    | _ => none

def readEntries? : Nat → List Char → Option (List (Option String × Json) × List Char)
  | 0, _ => none
  | steps + 1, s =>
    match skipSpace s with
    | '"' :: rest => do
      let (key, rest) ← readText? (some []) rest
      match skipSpace rest with
      | ':' :: rest => do
        let (value, rest) ← readValue? steps rest
        match skipSpace rest with
        | ',' :: rest => do
          let (entries, rest) ← readEntries? steps rest
          return ((key, value) :: entries, rest)
        | '}' :: rest => return ([(key, value)], rest)
        | _ => none
      | _ => none
    | _ => none

end

/-- A text that is one value, with nothing but white space around it. -/
def parse? (s : String) : Option Json := do
  let cs := s.toList
  let (value, rest) ← readValue? (cs.length + 1) cs
  if (skipSpace rest).isEmpty then some value else none

mutual

/-- All strings are texts and no number overflows. -/
def isStrict : Json → Bool
  | real digits => (readNumeral? digits.toList).any (!·.1.overflows)
  | array items => areStrict items
  | object entries => entriesStrict entries
  | broken => false
  | _ => true

def areStrict : List Json → Bool
  | [] => true
  | item :: rest => isStrict item && areStrict rest

def entriesStrict : List (String × Json) → Bool
  | [] => true
  | (_, value) :: rest => isStrict value && entriesStrict rest

end

def parseStrict? (s : String) : Option Json := do
  let value ← parse? s
  if value.isStrict then some value else none

end WireSchema.Json
