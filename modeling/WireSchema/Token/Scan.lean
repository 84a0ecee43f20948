import WireSchema.Text.Blank
import WireSchema.Token.Comment
import WireSchema.Token.Quoted

/-!
Text to tokens.
-/

namespace WireSchema.Token
open Text

/-- The characters that separate tokens. Directional marks do, though they are no blanks. -/
def isGap (c : Char) : Bool :=
  isBlank c || c == '\u200e' || c == '\u200f'

def marks : List Char :=
  "~!@#$%^&*-=+|;:,<.>/?'".toList

def isComment : List Char → Bool
  | '/' :: '/' :: _ | '/' :: '*' :: _ => true
  | _ => false

/-- A mark begins here, which the slash of a comment is not. -/
def atMark (s : List Char) : Bool :=
  s.head?.any (· ∈ marks) && !isComment s

/-- A raw word is never reserved. -/
def word? : List Char → Option (Token × List Char)
  | 'r' :: '#' :: rest => do
    let (word, rest) ← Word.split? rest
    if free : word.text ∉ Word.neverRaw then some (.name (.raw word free), rest) else none
  | s => do
    let (word, rest) ← Word.split? s
    return (ofWord word, rest)

/-- Words that would run into a quote. -/
def isBrokenQuote : List Char → Bool
  | 'r' :: '"' :: _ | 'r' :: '#' :: '"' :: _ | 'r' :: '#' :: '#' :: _ => true
  | 'b' :: '"' :: _ | 'b' :: '\x27' :: _ | 'b' :: 'r' :: '"' :: _ | 'b' :: 'r' :: '#' :: _ => true
  | 'c' :: '"' :: _ | 'c' :: 'r' :: '"' :: _ | 'c' :: 'r' :: '#' :: _ => true
  | _ => false

/-- What follows a quote: the word of a lifetime, or a literal that begins like a word. A quote
after the word would make it a character. -/
def lifetime? (s : List Char) : Option (Token × List Char) := do
  let (_, rest) ← word? s
  if rest.head? == some '\x27' then none
  else if rest.head? == some '#' && !List.isPrefixOf ['r', '#'] s then none
  else if isBrokenQuote s then some (.mark '\x27' true, s)
  else some (.lifetime, rest)

def mark? (s : List Char) : Option (Token × List Char) :=
  match s with
  | '\x27' :: rest => lifetime? rest
  | c :: rest => if atMark s then some (.mark c (atMark rest), rest) else none
  | [] => none

/-- What is written for a literal that got lost. It is a literal too. -/
def lostLiteral : List Char :=
  "(/*ERROR*/)".toList

def token? (s : List Char) : Option (Token × List Char) :=
  match s with
  | [] => none
  | c :: rest =>
    if lostLiteral.isPrefixOf s then some (.quoted, s.drop lostLiteral.length)
    else match ofDelimiter? c with
    | some delimiter => some (delimiter, rest)
    | none =>
      (quoted? s).or ((decimal? s).or ((integer? s).or ((mark? s).or
        (if isBrokenQuote s then none else word? s))))

/-- Each step takes at least one character. -/
def scanWith? : Nat → List Char → Option (List Token)
  | _, [] => some []
  | 0, _ :: _ => none
  | steps + 1, c :: rest =>
    if isGap c then scanWith? steps rest
    else match comment? (c :: rest) with
    | some (tokens, rest) => do return tokens ++ (← scanWith? steps rest)
    | none => do
      let (token, rest) ← token? (c :: rest)
      return token :: (← scanWith? steps rest)

/-- A byte order mark at the start is skipped. -/
def scan? (s : List Char) : Option (List Token) :=
  let text := match s with
    | '\ufeff' :: rest => rest
    | _ => s
  scanWith? text.length text

end WireSchema.Token
