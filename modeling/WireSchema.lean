import WireSchema.Bytes
import WireSchema.Codec.Cursor
import WireSchema.Codec.Decode
import WireSchema.Codec.Encode
import WireSchema.Codec.Error
import WireSchema.Codec.Limits
import WireSchema.Codec.Limits.Json
import WireSchema.Codec.Reserve
import WireSchema.Codec.Variant
import WireSchema.Codec.Writer
import WireSchema.Declaration
import WireSchema.Declaration.Json
import WireSchema.Digest.Md5
import WireSchema.Grammar.Ahead
import WireSchema.Grammar.Attribute
import WireSchema.Grammar.Basic
import WireSchema.Grammar.Expression
import WireSchema.Grammar.Form
import WireSchema.Grammar.Function
import WireSchema.Grammar.Generic
import WireSchema.Grammar.Item
import WireSchema.Grammar.Item.Field
import WireSchema.Grammar.Item.Import
import WireSchema.Grammar.Item.Member
import WireSchema.Grammar.Operator
import WireSchema.Grammar.Parse
import WireSchema.Grammar.Path
import WireSchema.Grammar.Pattern
import WireSchema.Grammar.Rules
import WireSchema.Grammar.Statement
import WireSchema.Grammar.Type
import WireSchema.Integer
import WireSchema.Json
import WireSchema.Json.Number
import WireSchema.Json.Printer
import WireSchema.Json.Reader
import WireSchema.Json.Record
import WireSchema.Layout
import WireSchema.Layout.Checked
import WireSchema.Layout.Equality
import WireSchema.Layout.Size
import WireSchema.Primitive
import WireSchema.Proofs.Advance
import WireSchema.Proofs.Agreement
import WireSchema.Proofs.Alone
import WireSchema.Proofs.Brackets
import WireSchema.Proofs.CamelCase
import WireSchema.Proofs.ClassMembers
import WireSchema.Proofs.ClassNames
import WireSchema.Proofs.ClientBytes
import WireSchema.Proofs.ClientText
import WireSchema.Proofs.ClientTypes
import WireSchema.Proofs.Conformance
import WireSchema.Proofs.Correspondence
import WireSchema.Proofs.Counts
import WireSchema.Proofs.Decoding
import WireSchema.Proofs.Depth
import WireSchema.Proofs.Diagnosis
import WireSchema.Proofs.Emission
import WireSchema.Proofs.Encoding
import WireSchema.Proofs.Export
import WireSchema.Proofs.Faults
import WireSchema.Proofs.Forms
import WireSchema.Proofs.FullSize
import WireSchema.Proofs.Guard
import WireSchema.Proofs.Identity
import WireSchema.Proofs.Inlining
import WireSchema.Proofs.Keys
import WireSchema.Proofs.Lexemes
import WireSchema.Proofs.Limits
import WireSchema.Proofs.Locality
import WireSchema.Proofs.Lockstep
import WireSchema.Proofs.LongestEncoding
import WireSchema.Proofs.MemberNames
import WireSchema.Proofs.Memo
import WireSchema.Proofs.Objects
import WireSchema.Proofs.Outcome
import WireSchema.Proofs.Parts
import WireSchema.Proofs.Persistence
import WireSchema.Proofs.Prefix
import WireSchema.Proofs.ReadBack
import WireSchema.Proofs.Reading
import WireSchema.Proofs.References
import WireSchema.Proofs.Refusals
import WireSchema.Proofs.Reparse
import WireSchema.Proofs.Reservation
import WireSchema.Proofs.RoundTrip
import WireSchema.Proofs.Scanning
import WireSchema.Proofs.SchemaTypes
import WireSchema.Proofs.Shallow
import WireSchema.Proofs.Shape
import WireSchema.Proofs.Sharing
import WireSchema.Proofs.Size
import WireSchema.Proofs.SizeBound
import WireSchema.Proofs.Spelling
import WireSchema.Proofs.Substitution
import WireSchema.Proofs.Tags
import WireSchema.Proofs.Tokens
import WireSchema.Proofs.Unambiguous
import WireSchema.Proofs.Variants
import WireSchema.Proofs.Vocabulary
import WireSchema.Proofs.Walk
import WireSchema.Proofs.Wire
import WireSchema.Proofs.Words
import WireSchema.SchemaError
import WireSchema.Table
import WireSchema.Table.Canonical
import WireSchema.Table.ClientModule
import WireSchema.Table.Emit
import WireSchema.Table.Json
import WireSchema.Table.Resolve
import WireSchema.Text.Blank
import WireSchema.Text.CamelCase
import WireSchema.Text.Case
import WireSchema.Text.CharSet
import WireSchema.Text.Decimal
import WireSchema.Text.Identifier
import WireSchema.Text.Property.Alphanumeric
import WireSchema.Text.Property.CaseMapping
import WireSchema.Text.Property.IdentifierContinue
import WireSchema.Text.Property.IdentifierStart
import WireSchema.Text.Property.Lowercase
import WireSchema.Text.Property.Uppercase
import WireSchema.Token
import WireSchema.Token.Comment
import WireSchema.Token.Number
import WireSchema.Token.Quoted
import WireSchema.Token.Scan
import WireSchema.Token.Word
import WireSchema.TypeExpr
import WireSchema.TypeExpr.Nesting
import WireSchema.TypeExpr.Parser
import WireSchema.Value
import WireSchema.Value.Equality
