import WireSchema.Bytes
import WireSchema.Json

/-!
JSON values to text, without white space.
-/

namespace WireSchema.Json

/-- Only what must be escaped is. -/
def escapeChar (c : Char) : List Char :=
  if c == '"' then ['\\', '"']
  else if c == '\\' then ['\\', '\\']
  else if c.toNat < 0x20 then
    ['\\', 'u', '0', '0', Bytes.hexDigit (c.toNat / 16), Bytes.hexDigit (c.toNat % 16)]
  else [c]

def quoted (s : String) : String :=
  String.ofList ('"' :: s.toList.flatMap escapeChar ++ ['"'])

mutual

def render : Json → String
  | null | broken => "null"
  | bool b => if b then "true" else "false"
  | int n => toString n
  | real digits => digits
  | string s => quoted s
  | array items => "[" ++ String.intercalate "," (renderItems items) ++ "]"
  | object entries => "\x7b" ++ String.intercalate "," (renderEntries entries) ++ "\x7d"

def renderItems : List Json → List String
  | [] => []
  | item :: rest => render item :: renderItems rest

def renderEntries : List (String × Json) → List String
  | [] => []
  | (key, value) :: rest => (quoted key ++ ":" ++ render value) :: renderEntries rest

end

end WireSchema.Json
