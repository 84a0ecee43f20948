import WireSchema.Text.Identifier

/-!
Words, and the names among them. Both carry that they are spelled as such, so what is made of names
can be written and read again.
-/

namespace WireSchema
open Text

/-- A character that begins a word, and then those that continue it. -/
def isWord : List Char → Bool
  | c :: rest => isIdentStart c && rest.all isIdentContinue
  | [] => false

structure Word where
  text : String
  spelled : isWord text.toList
  deriving Repr, DecidableEq

namespace Word

/-- Words that are reserved, and the lone underscore. -/
def reserved : List String :=
  ["_", "abstract", "as", "async", "await", "become", "box", "break", "const", "continue",
    "crate", "do", "dyn", "else", "enum", "extern", "false", "final", "fn", "for", "if", "impl",
    "in", "let", "loop", "macro", "match", "mod", "move", "mut", "override", "priv", "pub", "ref",
    "return", "Self", "self", "static", "struct", "super", "trait", "true", "try", "type",
    "typeof", "unsafe", "unsized", "use", "virtual", "where", "while", "yield"]

/-- Words that are reserved even where they are raw. -/
def neverRaw : List String :=
  ["_", "super", "self", "Self", "crate"]

/-- The word at the start of a text, and what follows it. -/
def split? : List Char → Option (Word × List Char)
  | [] => none
  | c :: rest =>
    if h : isIdentStart c then
      have spelled := by simp [isWord, h]
      some (⟨String.ofList (c :: rest.takeWhile isIdentContinue), spelled⟩,
        rest.dropWhile isIdentContinue)
    else none

end Word

/-- A word that is not reserved, or a raw one, which has two characters in front of it. -/
inductive Name
  | plain (word : Word) (free : word.text ∉ Word.reserved)
  | raw (word : Word) (free : word.text ∉ Word.neverRaw)
  deriving Repr, DecidableEq

def Name.text : Name → String
  | plain word _ => word.text
  | raw word _ => "r#" ++ word.text

end WireSchema
