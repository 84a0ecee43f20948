import WireSchema.Token.Number

/-!
Quoted literals: characters, bytes, strings, byte strings and zero-terminated strings, the strings
also in raw form. Nothing is kept of them but where they end.
-/

namespace WireSchema.Token

inductive QuoteKind
  | text
  | bytes
  | terminated
  deriving DecidableEq

/-- The characters that may stand in a literal of a kind. -/
def QuoteKind.admits : QuoteKind → Char → Bool
  | .text, _ => true
  | .bytes, c => c.toNat < 0x80
  | .terminated, c => c.toNat != 0

/-- The two digits after `\x`. -/
def QuoteKind.admitsHex : QuoteKind → Nat → Nat → Bool
  | .text, high, _ => high < 8
  | .bytes, _, _ => true
  | .terminated, high, low => high != 0 || low != 0

/-- The number between the braces of `\u`, and what follows. -/
def unicodeEscape? (count value : Nat) : List Char → Option (Nat × List Char)
  | [] => none
  | c :: rest =>
    if c == '\x7d' then
      if count != 0 && (value < 0xd800 || (0xdfff < value && value < 0x110000)) then
        some (value, rest)
      else none
    else if c == '_' then if count != 0 then unicodeEscape? count value rest else none
    else match Bytes.hexValue? c with
    | some digit =>
      if count < 6 then unicodeEscape? (count + 1) (16 * value + digit) rest else none
    | none => none

/-- What follows an escape, whose characters after the backslash are given. -/
def escapeRest? (kind : QuoteKind) : List Char → Option (List Char)
  | 'x' :: high :: low :: rest => do
    if kind.admitsHex (← Bytes.hexValue? high) (← Bytes.hexValue? low) then some rest else none
  | 'u' :: '\x7b' :: rest => do
    let (value, rest) ← unicodeEscape? 0 0 rest
    match kind with
    | .text => some rest
    | .bytes => none
    | .terminated => if value != 0 then some rest else none
  | '0' :: rest => if kind = .terminated then none else some rest
  | c :: rest => if c ∈ ['n', 'r', 't', '\\', '\x27', '"'] then some rest else none
  | [] => none

/-- A backslash at the end of a line skips the blanks up to the next character. -/
def continuedRest? : List Char → Option (List Char)
  | '\r' :: '\n' :: rest => continuedRest? rest
  | '\r' :: _ => none
  | c :: rest =>
    if c == ' ' || c == '\t' || c == '\n' then continuedRest? rest else some (c :: rest)
  | [] => none

/-- What follows the closing quote. Each step takes at least one character. -/
def stringRest? (kind : QuoteKind) : Nat → List Char → Option (List Char)
  | 0, _ => none
  | steps + 1, s =>
    match s with
    | '"' :: rest => some rest
    | '\r' :: '\n' :: rest => stringRest? kind steps rest
    | '\r' :: _ => none
    | '\\' :: c :: rest => do
      let rest ←
        if c == '\n' || c == '\r' then continuedRest? (c :: rest)
        else escapeRest? kind (c :: rest)
      stringRest? kind steps rest
    | c :: rest => if kind.admits c then stringRest? kind steps rest else none
    | [] => none

/-- A raw literal ends at a quote that as many hashes follow as were written before it. -/
def rawRest? (kind : QuoteKind) (hashes : Nat) : List Char → Option (List Char)
  | [] => none
  | '\r' :: '\n' :: rest => rawRest? kind hashes rest
  | '\r' :: _ => none
  | c :: rest =>
    if c == '"' && (rest.take hashes).length == hashes && (rest.take hashes).all (· == '#') then
      some (rest.drop hashes)
    else if kind.admits c then rawRest? kind hashes rest
    else none

def openRaw? (kind : QuoteKind) (s : List Char) : Option (List Char) :=
  let hashes := (s.takeWhile (· == '#')).length
  match s.drop hashes with
  | '"' :: rest => if hashes ≤ 255 then rawRest? kind hashes rest else none
  | _ => none

def charRest? (kind : QuoteKind) (s : List Char) : Option (List Char) := do
  let rest ← match s with
    | '\\' :: rest => escapeRest? kind rest
    | c :: rest => if kind.admits c then some rest else none
    | [] => none
  match rest with
  | '\x27' :: rest => some rest
  | _ => none

def plainRest? : List Char → Option (List Char)
  | '"' :: rest => stringRest? .text (rest.length + 1) rest
  | 'r' :: rest => openRaw? .text rest
  | _ => none

def quotedRest? : List Char → Option (List Char)
  | 'b' :: '"' :: rest => stringRest? .bytes (rest.length + 1) rest
  | 'c' :: '"' :: rest => stringRest? .terminated (rest.length + 1) rest
  | 'b' :: 'r' :: rest => openRaw? .bytes rest
  | 'c' :: 'r' :: rest => openRaw? .terminated rest
  | 'b' :: '\x27' :: rest => charRest? .bytes rest
  | '\x27' :: rest => charRest? .text rest
  | _ => none

/-- A word may follow the closing quote at once. -/
def quoted? (s : List Char) : Option (Token × List Char) :=
  match plainRest? s with
  | some rest => some (.string, dropWord rest)
  | none => (quotedRest? s).map fun rest => (.quoted, dropWord rest)

end WireSchema.Token
