import Mathlib.Data.Bool.AllAny
import WireSchema.Proofs.Scanning
import WireSchema.Table.ClientModule

/-!
The types in a client module as trees. Main statement: where no class has a name that looks like
the notation, a schema text tells the type it was written for, up to signs, truth values and the
bounds of strings, whatever is written after it.
-/

namespace WireSchema
open Text

/-- What a client module says of a layout: a declared type is a reference to its class, and bounds
are gone. -/
inductive ClientType
  | reference (name : String)
  | primitive (kind : Primitive)
  | array (element : ClientType) (length : UInt64)
  | sequence (element : ClientType)
  | map (key value : ClientType)
  | option (inner : ClientType)
  deriving DecidableEq

namespace ClientType

/-- The classes that are referred to, at any depth. -/
def references : ClientType → List String
  | reference name => [name]
  | primitive _ => []
  | array element _ | sequence element | option element => element.references
  | map key value => key.references ++ value.references

def isOption : ClientType → Bool
  | option _ => true
  | _ => false

/-- The type as the class of a member has it. -/
def classText : ClientType → String
  | reference name => name
  | primitive kind => Layout.classTypeOfPrimitive kind
  | array element _ | sequence element =>
    if element.isOption then s!"({element.classText})[]" else s!"{element.classText}[]"
  | map key value => s!"Map<{key.classText}, {value.classText}>"
  | option inner => s!"{inner.classText} | null"

def mapText (key value : String) : String :=
  s!"\x7b kind: 'map', key: {key}, value: {value} \x7d"

def optionText (inner : String) : String :=
  s!"\x7b kind: 'option', type: {inner} \x7d"

/-- The type as the schema of a member has it. -/
def schemaText : ClientType → String
  | reference name => name
  | primitive kind => Layout.schemaTypeOfPrimitive kind
  | array element length => s!"[{element.schemaText}, {length.toNat}]"
  | sequence element => s!"[{element.schemaText}]"
  | map key value => mapText key.schemaText value.schemaText
  | option inner => optionText inner.schemaText

end ClientType

namespace Layout

theorem classType_named {layout : Layout} (h : layout.isNamed) :
    layout.classType = layout.name := by
  unfold classType
  rw [if_pos h]

theorem schemaType_named {layout : Layout} (h : layout.isNamed) :
    layout.schemaType = layout.name := by
  unfold schemaType
  rw [if_pos h]

theorem schemaType_map (key content : Layout) (bound : Option UInt64) :
    schemaType (.map "" key content bound) =
      ClientType.mapText key.schemaType content.schemaType := by
  have hplain : ¬(map "" key content bound).isNamed := by simp [isNamed, name]
  rw [schemaType.eq_def, if_neg hplain]
  dsimp only [ClientType.mapText]

theorem schemaType_option (inner : Layout) :
    schemaType (.option "" inner) = ClientType.optionText inner.schemaType := by
  have hplain : ¬(option "" inner).isNamed := by simp [isNamed, name]
  rw [schemaType.eq_def, if_neg hplain]
  dsimp only [ClientType.optionText]

/-- A layout that is a declared type, or made of such and of primitives. -/
inductive ShownAs : Layout → ClientType → Prop
  | reference : layout.isNamed → ShownAs layout (.reference layout.name)
  | primitive : ShownAs (.primitive "" kind) (.primitive kind)
  | array : ShownAs element type → ShownAs (.array "" element length) (.array type length)
  | sequence : ShownAs item type → ShownAs (.sequence "" item bound) (.sequence type)
  | map : ShownAs key keyType → ShownAs content contentType →
      ShownAs (.map "" key content bound) (.map keyType contentType)
  | option : ShownAs content type → ShownAs (.option "" content) (.option type)

namespace ShownAs
variable {layout : Layout} {type : ClientType}

theorem isOption_eq (h : layout.ShownAs type) : layout.isAnonymousOption = type.isOption := by
  cases h with
  | @reference layout hnamed =>
    cases layout with
    | option name inner =>
      have hname : name ≠ "" := by simpa [isNamed, Layout.name] using hnamed
      simpa [isAnonymousOption, ClientType.isOption] using hname
    | _ => rfl
  | _ => rfl

theorem classType_eq (h : layout.ShownAs type) : layout.classType = type.classText := by
  induction h with
  | reference hnamed => rw [classType_named hnamed, ClientType.classText]
  | primitive => simp [classType, isNamed, Layout.name, ClientType.classText]
  | array helement ih | sequence helement ih =>
    simp [classType, classArray, isNamed, Layout.name, ClientType.classText, ih,
      helement.isOption_eq]
  | map _ _ ihk ihc =>
    simp [classType, isNamed, Layout.name, ClientType.classText, ihk, ihc]
  | option _ ih => simp [classType, isNamed, Layout.name, ClientType.classText, ih]

theorem schemaType_eq (h : layout.ShownAs type) : layout.schemaType = type.schemaText := by
  induction h with
  | reference hnamed => rw [schemaType_named hnamed, ClientType.schemaText]
  | primitive => simp [schemaType, isNamed, Layout.name, ClientType.schemaText]
  | array _ ih => simp [schemaType, isNamed, Layout.name, ClientType.schemaText, ih]
  | sequence _ ih => simp [schemaType, isNamed, Layout.name, ClientType.schemaText, ih]
  | map _ _ ihk ihc => rw [ClientType.schemaText, ← ihk, ← ihc, schemaType_map]
  | option _ ih => rw [ClientType.schemaText, ← ih, schemaType_option]

end ShownAs
end Layout

/-- The characters that stand around names and numbers in a schema text. -/
def schemaSigns : List Char :=
  ['[', ']', '\x7b', '\x7d', '\'', ',', ' ']

/-- A character of a name, or of a number. -/
def InName (c : Char) : Prop :=
  c ∉ schemaSigns

instance (c : Char) : Decidable (InName c) :=
  inferInstanceAs (Decidable (¬_))

theorem inName_of_inWord {c : Char} (h : InWord c) : InName c := by
  have hall : schemaSigns.Forall fun c => ¬InWord c := by decide
  intro hc
  exact List.forall_iff_forall_mem.mp hall c hc h

/-- A name that nothing else in a schema text can be taken for, as no identifier can: it does not
begin with a digit. -/
def isBareName : List Char → Bool
  | c :: rest => !c.isDigit && (c :: rest).all (InName ·)
  | [] => false

theorem exists_cons_of_isBareName {s : List Char} (h : isBareName s) :
    ∃ c rest, s = c :: rest ∧ ¬c.isDigit ∧ ∀ d ∈ s, InName d := by
  cases s with
  | nil => cases h
  | cons c rest =>
    simp only [isBareName, Bool.and_eq_true, Bool.not_eq_true', List.all_eq_true,
      decide_eq_true_eq] at h
    exact ⟨c, rest, rfl, by simp [h.1], h.2⟩

theorem isBareName_of_isWord {s : List Char} (h : isWord s) : isBareName s := by
  cases s with
  | nil => cases h
  | cons c rest =>
    have hall := inWord_of_isWord h
    simp only [isWord, Bool.and_eq_true] at h
    simp only [isBareName, Token.isDigit_of_isIdentStart h.1, Bool.not_false, Bool.true_and,
      List.all_eq_true, decide_eq_true_eq]
    exact fun d hd => inName_of_inWord (hall d hd)

def IntKind.unsigned : IntKind → IntKind
  | .u8 | .i8 => .u8
  | .u16 | .i16 => .u16
  | .u32 | .i32 => .u32
  | .u64 | .i64 => .u64
  | .u128 | .i128 => .u128

namespace Primitive

/-- What a schema tells of a primitive: no sign, no bound, and a truth value is a byte. -/
def told : Primitive → Primitive
  | .bool => .int .u8
  | .int kind => .int kind.unsigned
  | .string _ => .string none
  | .fixedBytes width => .fixedBytes width
  | .publicKey => .publicKey

def isBytes : Primitive → Bool
  | .fixedBytes _ => true
  | _ => false

/-- The primitives that a schema tells, fixed bytes apart, and the words it has for them. -/
def quotedWords : List (Primitive × String) :=
  [(.int .u8, "u8"), (.int .u16, "u16"), (.int .u32, "u32"), (.int .u64, "u64"),
    (.int .u128, "u128"), (.string none, "string"), (.publicKey, "publicKey")]

theorem quoted_or_bytes (kind : Primitive) :
    (∃ width, kind = .fixedBytes width) ∨
      kind.isBytes = false ∧ ∃ word ∈ quotedWords, kind.told = word.1 ∧
        Layout.schemaTypeOfPrimitive kind = "'" ++ word.2 ++ "'" := by
  cases kind with
  | bool => exact .inr ⟨rfl, (.int .u8, "u8"), by decide, rfl, rfl⟩
  | int kind =>
    right
    cases kind <;> decide
  | string bound => exact .inr ⟨rfl, (.string none, "string"), by decide, rfl, rfl⟩
  | fixedBytes width => exact .inl ⟨width, rfl⟩
  | publicKey => exact .inr ⟨rfl, (.publicKey, "publicKey"), by decide, rfl, rfl⟩

theorem inName_of_mem_quotedWords {word : Primitive × String} (h : word ∈ quotedWords) :
    ∀ c ∈ word.2.toList, InName c := by
  have hall : ∀ word ∈ quotedWords, word.2.toList.all (InName ·) := by decide
  exact List.all_iff_forall_prop.mp (hall word h)

theorem eq_of_mem_quotedWords {word other : Primitive × String} (h : word ∈ quotedWords)
    (h' : other ∈ quotedWords) (htext : word.2 = other.2) : word = other := by
  have hall : ∀ word ∈ quotedWords, ∀ other ∈ quotedWords, word.2 = other.2 → word = other := by
    decide
  exact hall word h other h' htext

end Primitive

/-- A text that does not go on with characters such as these. -/
def Stops (p : Char → Prop) (rest : List Char) : Prop :=
  ∀ c, rest.head? = some c → ¬p c

theorem stops_cons {p : Char → Prop} {c : Char} (rest : List Char) (h : ¬p c) :
    Stops p (c :: rest) := by
  intro d hd
  obtain rfl : c = d := by simpa using hd
  exact h

/-- Two texts begin with the same run of characters if the run stops in both. -/
theorem run_eq_of_append {p : Char → Prop} {a b x y : List Char} (ha : ∀ c ∈ a, p c)
    (hb : ∀ c ∈ b, p c) (hx : Stops p x) (hy : Stops p y) (h : a ++ x = b ++ y) :
    a = b ∧ x = y := by
  rcases List.append_eq_append_iff.mp h with ⟨more, hmore, hrest⟩ | ⟨more, hmore, hrest⟩
  · cases more with
    | nil => simp_all
    | cons c more =>
      have hc : p c := hb c (by simp [hmore])
      exact absurd hc (hx c (by simp [hrest]))
  · cases more with
    | nil => simp_all
    | cons c more =>
      have hc : p c := ha c (by simp [hmore])
      exact absurd hc (hy c (by simp [hrest]))

/-- A number is told by its digits. -/
theorem digits_eq_of_append {n m : UInt64} {x y : List Char} (hx : Stops InName x)
    (hy : Stops InName y) (h : digits n.toNat ++ x = digits m.toNat ++ y) : n = m ∧ x = y := by
  have hin {n : Nat} (c : Char) (hc : c ∈ digits n) : InName c :=
    inName_of_inWord (inWord_of_mem_digits hc)
  obtain ⟨hdigits, hrest⟩ := run_eq_of_append hin hin hx hy h
  exact ⟨UInt64.toNat_inj.mp (eq_of_digits_eq hdigits), hrest⟩

namespace ClientType

/-- What a schema tells of a type. -/
def told : ClientType → ClientType
  | reference name => .reference name
  | primitive kind => .primitive kind.told
  | array element length => .array element.told length
  | sequence element => .sequence element.told
  | map key value => .map key.told value.told
  | option inner => .option inner.told

/-- All classes that are referred to are named by words. -/
def Worded (type : ClientType) : Prop :=
  ∀ name ∈ type.references, isWord name.toList

/-- No class that is referred to has a name like the notation. -/
def Bare (type : ClientType) : Prop :=
  ∀ name ∈ type.references, isBareName name.toList

theorem Worded.bare {type : ClientType} (h : type.Worded) : type.Bare :=
  fun name hname => isBareName_of_isWord (h name hname)

/-- The character that a schema text begins with, unless it is a word. -/
def mark? : ClientType → Option Char
  | reference _ => none
  | primitive (.fixedBytes _) | array _ _ | sequence _ => some '['
  | primitive _ => some '\''
  | map _ _ | option _ => some '\x7b'

theorem mark?_quoted {kind : Primitive} (h : kind.isBytes = false) :
    (primitive kind).mark? = some '\'' := by
  cases kind with
  | fixedBytes width => cases h
  | _ => rfl

section Texts
variable (x : List Char)

theorem quoted_append {kind : Primitive} {word : String}
    (h : Layout.schemaTypeOfPrimitive kind = "'" ++ word ++ "'") :
    (primitive kind).schemaText.toList ++ x = '\'' :: (word.toList ++ '\'' :: x) := by
  simp [schemaText, h]

theorem fixedBytes_append (width : UInt64) :
    (primitive (.fixedBytes width)).schemaText.toList ++ x =
      '[' :: (digits width.toNat ++ ']' :: x) := by
  simp [schemaText, Layout.schemaTypeOfPrimitive, digits, toString]

theorem array_append (element : ClientType) (length : UInt64) :
    (array element length).schemaText.toList ++ x =
      '[' :: (element.schemaText.toList ++ ',' :: ' ' :: (digits length.toNat ++ ']' :: x)) := by
  simp [schemaText, digits, toString]

theorem sequence_append (element : ClientType) :
    (sequence element).schemaText.toList ++ x =
      '[' :: (element.schemaText.toList ++ ']' :: x) := by
  simp [schemaText, toString]

theorem mapText_append (key value : String) :
    (mapText key value).toList ++ x = "\x7b kind: 'map', key: ".toList ++
      (key.toList ++ ',' :: (" value: ".toList ++ (value.toList ++ ' ' :: '\x7d' :: x))) := by
  have hmiddle : ", value: ".toList = ',' :: " value: ".toList := by decide
  have hclose : " \x7d".toList = [' ', '\x7d'] := by decide
  unfold mapText
  simp only [toString, String.toList_append, List.append_assoc, hmiddle, hclose, List.cons_append,
    List.nil_append]

theorem optionText_append (inner : String) :
    (optionText inner).toList ++ x =
      "\x7b kind: 'option', type: ".toList ++ (inner.toList ++ ' ' :: '\x7d' :: x) := by
  have hclose : " \x7d".toList = [' ', '\x7d'] := by decide
  unfold optionText
  simp only [toString, String.toList_append, List.append_assoc, hclose, List.cons_append,
    List.nil_append]

theorem map_ne_option (x y : List Char) :
    "\x7b kind: 'map', key: ".toList ++ x ≠ "\x7b kind: 'option', type: ".toList ++ y := by
  intro h
  have hstart := congrArg (List.take 10) h
  rw [List.take_append_of_le_length (by decide), List.take_append_of_le_length (by decide)]
    at hstart
  exact absurd hstart (by decide)

end Texts

section Heads
variable {type other : ClientType}

/-- No name begins with one of the marks, and no number does. -/
theorem not_inName_of_mark? {c : Char} (h : type.mark? = some c) : ¬InName c := by
  have hmarks : c ∈ ['[', '\'', '\x7b'] := by
    cases type with
    | primitive kind =>
      rcases kind.quoted_or_bytes with ⟨width, rfl⟩ | ⟨hquoted, -⟩
      · cases h
        decide
      · rw [mark?_quoted hquoted] at h
        cases h
        decide
    | reference name => cases h
    | _ =>
      cases h
      decide
  have hall : ∀ c ∈ ['[', '\'', '\x7b'], ¬InName c := List.all_iff_forall_prop.mp (by decide)
  exact hall c hmarks

theorem exists_head (h : type.Bare) : ∃ c rest, type.schemaText.toList = c :: rest ∧
    (type.mark? = some c ∨ type.mark? = none ∧ InName c ∧ ¬c.isDigit) := by
  cases type with
  | reference name =>
    obtain ⟨c, rest, htext, hdigit, hin⟩ :=
      exists_cons_of_isBareName (h name (List.mem_singleton_self name))
    exact ⟨c, rest, htext, .inr ⟨rfl, hin c (by simp [htext]), hdigit⟩⟩
  | primitive kind =>
    rcases kind.quoted_or_bytes with ⟨width, rfl⟩ | ⟨hquoted, word, -, -, htext⟩
    · exact ⟨'[', _, by simpa using fixedBytes_append [] width, .inl rfl⟩
    · exact ⟨'\'', _, by simpa using quoted_append [] htext, .inl (mark?_quoted hquoted)⟩
  | array element length =>
    exact ⟨'[', _, by simpa using array_append [] element length, .inl rfl⟩
  | sequence element => exact ⟨'[', _, by simpa using sequence_append [] element, .inl rfl⟩
  | map key value => exact ⟨'\x7b', _, by simpa [schemaText] using mapText_append [] _ _, .inl rfl⟩
  | option inner => exact ⟨'\x7b', _, by simpa [schemaText] using optionText_append [] _, .inl rfl⟩

theorem mark?_eq_of_append (h : type.Bare) (h' : other.Bare) {x y : List Char}
    (heq : type.schemaText.toList ++ x = other.schemaText.toList ++ y) :
    type.mark? = other.mark? := by
  obtain ⟨c, rest, htext, hc⟩ := exists_head h
  obtain ⟨d, rest', htext', hd⟩ := exists_head h'
  rw [htext, htext'] at heq
  obtain rfl : c = d := (List.cons.inj heq).1
  rcases hc with hc | ⟨hnone, hc, -⟩
  · rcases hd with hd | ⟨-, hd, -⟩
    · rw [hc, hd]
    · exact absurd hd (not_inName_of_mark? hc)
  · rcases hd with hd | ⟨hnone', -, -⟩
    · exact absurd hc (not_inName_of_mark? hd)
    · rw [hnone, hnone']

/-- No type is written like a number. -/
theorem append_ne_digits (h : type.Bare) (n : UInt64) (x y : List Char) :
    type.schemaText.toList ++ x ≠ digits n.toNat ++ y := by
  obtain ⟨c, rest, htext, hc⟩ := exists_head h
  have hdigit : ¬c.isDigit := by
    rcases hc with hmark | ⟨-, -, hdigit⟩
    · exact fun hdigit =>
        not_inName_of_mark? hmark (inName_of_inWord (inWord_of_isDigit hdigit))
    · exact hdigit
  intro heq
  cases hdigits : digits n.toNat with
  | nil => simp [digits, Nat.toDigits_ne_nil] at hdigits
  | cons d body =>
    rw [htext, hdigits] at heq
    obtain rfl : c = d := (List.cons.inj heq).1
    exact hdigit (isDigit_of_mem_digits (n := n.toNat) (by simp [hdigits]))

/-- What a list has in its bracket is no number. -/
theorem bracket_ne_primitive (h : type.Bare) (kind : Primitive) (x y : List Char) :
    '[' :: (type.schemaText.toList ++ x) ≠ (primitive kind).schemaText.toList ++ y := by
  intro heq
  rcases kind.quoted_or_bytes with ⟨width, rfl⟩ | ⟨-, word, -, -, htext⟩
  · rw [fixedBytes_append] at heq
    exact append_ne_digits h width _ _ (List.cons.inj heq).2
  · rw [quoted_append y htext] at heq
    exact absurd (List.cons.inj heq).1 (by decide)

end Heads

section Telling

/-- The texts of others begin with that of the type, and not with more of a name, only if a schema
tells the same of both. -/
def Tells (type : ClientType) : Prop :=
  type.Bare → ∀ other : ClientType, other.Bare → ∀ x y, Stops InName x → Stops InName y →
    type.schemaText.toList ++ x = other.schemaText.toList ++ y → type.told = other.told ∧ x = y

theorem tells_reference (name : String) : (reference name).Tells := by
  intro hnames other hother x y hx hy heq
  have hmark := mark?_eq_of_append hnames hother heq
  cases other with
  | reference name' =>
    obtain ⟨-, -, -, -, hin⟩ :=
      exists_cons_of_isBareName (hnames name (List.mem_singleton_self name))
    obtain ⟨-, -, -, -, hin'⟩ :=
      exists_cons_of_isBareName (hother name' (List.mem_singleton_self name'))
    obtain ⟨hname, hrest⟩ := run_eq_of_append hin hin' hx hy heq
    exact ⟨by rw [String.toList_inj.mp hname], hrest⟩
  | primitive kind => cases kind <;> cases hmark
  | _ => cases hmark

theorem tells_fixedBytes (width : UInt64) : (primitive (.fixedBytes width)).Tells := by
  intro hnames other hother x y hx hy heq
  have hmark := mark?_eq_of_append hnames hother heq
  rw [fixedBytes_append] at heq
  cases other with
  | primitive kind =>
    rcases kind.quoted_or_bytes with ⟨width', rfl⟩ | ⟨hquoted, -⟩
    · rw [fixedBytes_append] at heq
      obtain ⟨rfl, hrest⟩ := digits_eq_of_append (stops_cons _ (by decide))
        (stops_cons _ (by decide)) (List.cons.inj heq).2
      exact ⟨rfl, (List.cons.inj hrest).2⟩
    · rw [mark?_quoted hquoted] at hmark
      cases hmark
  | array element length =>
    rw [array_append] at heq
    have helement : element.Bare := hother
    exact absurd (List.cons.inj heq).2.symm (append_ne_digits helement width _ _)
  | sequence element =>
    rw [sequence_append] at heq
    have helement : element.Bare := hother
    exact absurd (List.cons.inj heq).2.symm (append_ne_digits helement width _ _)
  | _ => cases hmark

theorem tells_quoted {kind : Primitive} (hquoted : kind.isBytes = false) :
    (primitive kind).Tells := by
  intro hnames other hother x y hx hy heq
  have hmark := mark?_eq_of_append hnames hother heq
  rw [mark?_quoted hquoted] at hmark
  cases other with
  | primitive kind' =>
    rcases kind.quoted_or_bytes with ⟨width, rfl⟩ | ⟨-, word, hword, htold, htext⟩
    · cases hquoted
    rcases kind'.quoted_or_bytes with ⟨width, rfl⟩ | ⟨-, word', hword', htold', htext'⟩
    · cases hmark
    rw [quoted_append x htext, quoted_append y htext'] at heq
    obtain ⟨hsame, hrest⟩ := run_eq_of_append (Primitive.inName_of_mem_quotedWords hword)
      (Primitive.inName_of_mem_quotedWords hword') (stops_cons _ (by decide))
      (stops_cons _ (by decide)) (List.cons.inj heq).2
    have hentry := Primitive.eq_of_mem_quotedWords hword hword' (String.toList_inj.mp hsame)
    exact ⟨by rw [told, told, htold, htold', hentry], (List.cons.inj hrest).2⟩
  | _ => cases hmark

theorem tells_array {element : ClientType} (length : UInt64) (h : element.Tells) :
    (array element length).Tells := by
  intro (hnames : element.Bare) other hother x y hx hy heq
  have hmark := @mark?_eq_of_append (array element length) other hnames hother x y heq
  rw [array_append] at heq
  cases other with
  | primitive kind => exact absurd heq (bracket_ne_primitive hnames kind _ _)
  | array element' length' =>
    rw [array_append] at heq
    obtain ⟨helement, hlength⟩ := h hnames element' hother _ _ (stops_cons _ (by decide))
      (stops_cons _ (by decide)) (List.cons.inj heq).2
    obtain ⟨rfl, hrest⟩ := digits_eq_of_append (stops_cons _ (by decide))
      (stops_cons _ (by decide)) (List.cons.inj (List.cons.inj hlength).2).2
    exact ⟨by rw [told, told, helement], (List.cons.inj hrest).2⟩
  | sequence element' =>
    rw [sequence_append] at heq
    obtain ⟨-, hcomma⟩ := h hnames element' hother _ _ (stops_cons _ (by decide))
      (stops_cons _ (by decide)) (List.cons.inj heq).2
    cases hcomma
  | _ => cases hmark

theorem tells_sequence {element : ClientType} (h : element.Tells) : (sequence element).Tells := by
  intro (hnames : element.Bare) other hother x y hx hy heq
  have hmark := @mark?_eq_of_append (sequence element) other hnames hother x y heq
  rw [sequence_append] at heq
  cases other with
  | primitive kind => exact absurd heq (bracket_ne_primitive hnames kind _ _)
  | array element' length' =>
    rw [array_append] at heq
    obtain ⟨-, hcomma⟩ := h hnames element' hother _ _ (stops_cons _ (by decide))
      (stops_cons _ (by decide)) (List.cons.inj heq).2
    cases hcomma
  | sequence element' =>
    rw [sequence_append] at heq
    obtain ⟨helement, hrest⟩ := h hnames element' hother _ _ (stops_cons _ (by decide))
      (stops_cons _ (by decide)) (List.cons.inj heq).2
    exact ⟨by rw [told, told, helement], (List.cons.inj hrest).2⟩
  | _ => cases hmark

theorem tells_map {key value : ClientType} (hk : key.Tells) (hv : value.Tells) :
    (map key value).Tells := by
  intro hnames other hother x y hx hy heq
  have hmark := mark?_eq_of_append hnames hother heq
  rw [schemaText, mapText_append] at heq
  cases other with
  | map key' value' =>
    rw [schemaText, mapText_append] at heq
    obtain ⟨hwk, hwv⟩ := List.forall_mem_append.mp hnames
    obtain ⟨hok, hov⟩ := List.forall_mem_append.mp hother
    obtain ⟨hkey, hmiddle⟩ := hk hwk key' hok _ _ (stops_cons _ (by decide))
      (stops_cons _ (by decide)) (List.append_cancel_left heq)
    obtain ⟨hvalue, hrest⟩ := hv hwv value' hov _ _ (stops_cons _ (by decide))
      (stops_cons _ (by decide)) (List.append_cancel_left (List.cons.inj hmiddle).2)
    exact ⟨by rw [told, told, hkey, hvalue], (List.cons.inj (List.cons.inj hrest).2).2⟩
  | option inner =>
    rw [schemaText, optionText_append] at heq
    exact absurd heq (map_ne_option _ _)
  | primitive kind => cases kind <;> cases hmark
  | _ => cases hmark

theorem tells_option {inner : ClientType} (h : inner.Tells) : (option inner).Tells := by
  intro hnames other hother x y hx hy heq
  have hmark := mark?_eq_of_append hnames hother heq
  rw [schemaText, optionText_append] at heq
  cases other with
  | map key value =>
    rw [schemaText, mapText_append] at heq
    exact absurd heq.symm (map_ne_option _ _)
  | option inner' =>
    rw [schemaText, optionText_append] at heq
    obtain ⟨hinner, hrest⟩ := h hnames inner' hother _ _ (stops_cons _ (by decide))
      (stops_cons _ (by decide)) (List.append_cancel_left heq)
    exact ⟨by rw [told, told, hinner], (List.cons.inj (List.cons.inj hrest).2).2⟩
  | primitive kind => cases kind <;> cases hmark
  | _ => cases hmark

theorem tells (type : ClientType) : type.Tells := by
  induction type with
  | reference name => exact tells_reference name
  | primitive kind =>
    rcases kind.quoted_or_bytes with ⟨width, rfl⟩ | ⟨hquoted, -⟩
    · exact tells_fixedBytes width
    · exact tells_quoted hquoted
  | array element length ih => exact tells_array length ih
  | sequence element ih => exact tells_sequence ih
  | map key value ihk ihv => exact tells_map ihk ihv
  | option inner ih => exact tells_option ih

theorem told_eq_of_schemaText_eq {type other : ClientType} (h : type.Bare) (h' : other.Bare)
    (heq : type.schemaText = other.schemaText) : type.told = other.told := by
  have hstops : Stops InName [] := fun c hc => nomatch hc
  exact (tells type h other h' [] [] hstops hstops (by rw [heq])).1

end Telling

end ClientType
end WireSchema
