import WireSchema.Text.Property.IdentifierStart
import WireSchema.Text.Property.IdentifierContinue

/-!
The characters of identifiers: a letter or an underscore first, then letters, digits, marks and
underscores, as the Unicode properties XID_Start and XID_Continue say.
-/

namespace WireSchema.Text

def isIdentStart (c : Char) : Bool :=
  if c.toNat < 0x80 then c.isAlpha || c == '_' else Property.identifierStart.contains c

def isIdentContinue (c : Char) : Bool :=
  if c.toNat < 0x80 then c.isAlphanum || c == '_' else Property.identifierContinue.contains c

end WireSchema.Text
