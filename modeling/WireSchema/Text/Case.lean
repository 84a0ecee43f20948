import WireSchema.Text.Property.Alphanumeric
import WireSchema.Text.Property.Lowercase
import WireSchema.Text.Property.Uppercase
import WireSchema.Text.Property.CaseMapping

/-!
Letter case. The mappings are the full ones, so one character may become several.
-/

namespace WireSchema.Text

def isAlphanumeric (c : Char) : Bool :=
  if c.toNat < 0x80 then c.isAlphanum else Property.alphanumeric.contains c

def isLower (c : Char) : Bool :=
  if c.toNat < 0x80 then c.isLower else Property.lowercase.contains c

def isUpper (c : Char) : Bool :=
  if c.toNat < 0x80 then c.isUpper else Property.uppercase.contains c

def mapCase (runs : List Property.CaseRun) (expansions : List (Nat × List Nat)) (c : Char) :
    List Char :=
  match expansions.lookup c.toNat with
  | some ns => ns.map Char.ofNat
  | none => [((runs.findSome? (·.map? c.toNat)).map Char.ofNat).getD c]

def toLower (c : Char) : List Char :=
  if c.toNat < 0x80 then [c.toLower]
  else mapCase Property.lowerRuns Property.lowerExpansions c

def toUpper (c : Char) : List Char :=
  if c.toNat < 0x80 then [c.toUpper]
  else mapCase Property.upperRuns Property.upperExpansions c

end WireSchema.Text
