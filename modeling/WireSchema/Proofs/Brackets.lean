import Mathlib.Data.List.Forall2
import WireSchema.Proofs.Spelling
import WireSchema.Proofs.Words

/-!
The brackets of printed forms. Main statement: they are nested as deeply as the types in the
expression, or once more where a bounded string lies deepest.
-/

namespace WireSchema.TypeExpr
open Text

/-- How deeply the brackets of the printed form are nested. -/
def brackets : TypeExpr → Nat
  | primitive _ | named _ => 0
  | sequence element | boundedSequence element _ | option element | array element _ =>
    element.brackets + 1
  | map key value | boundedMap key value _ => max key.brackets value.brackets + 1
  | bytes _ | boundedString _ => 1

theorem brackets_ofName (name : String) : (ofName name).brackets = 0 := by
  unfold ofName
  split <;> rfl

/-- Only a bounded string has a bracket around what is no type. -/
theorem levels_le_brackets (e : TypeExpr) :
    e.levels ≤ e.brackets ∧ e.brackets ≤ e.levels + 1 := by
  induction e with
  | primitive | named | bytes | boundedString => simp [levels, brackets]
  | sequence element ih | boundedSequence element bound ih | option element ih
  | array element length ih =>
    simp only [levels, brackets]
    omega
  | map key value ihk ihv | boundedMap key value bound ihk ihv =>
    simp only [levels, brackets]
    omega

/-- Every bracket of the text is closed in it, and `levels` is how deeply they are nested. -/
def Nests (text : List Char) (levels : Nat) : Prop :=
  ∀ depth deepest rest, depth ≤ deepest →
    nestingFrom depth deepest (text ++ rest) = nestingFrom depth (max deepest (depth + levels)) rest

theorem nests_flat {text : List Char} (h : ∀ c ∈ text, opens c = false ∧ closes c = false) :
    Nests text 0 := by
  intro depth deepest rest hdeepest
  have hmax : max deepest (depth + 0) = deepest := by omega
  rw [hmax]
  induction text with
  | nil => rfl
  | cons c text ih =>
    obtain ⟨⟨hopens, hcloses⟩, htext⟩ := List.forall_mem_cons.mp h
    simp [nestingFrom, hopens, hcloses, ih htext]

theorem Nests.append {a b : List Char} {m n : Nat} (ha : Nests a m) (hb : Nests b n) :
    Nests (a ++ b) (max m n) := by
  intro depth deepest rest hdeepest
  have hmax : max (max deepest (depth + m)) (depth + n) = max deepest (depth + max m n) := by omega
  rw [List.append_assoc, ha depth deepest _ hdeepest, hb depth _ rest (by omega), hmax]

theorem Nests.enclose {text : List Char} {levels : Nat} (h : Nests text levels) (first last : Char)
    (hfirst : opens first = true) (hlast : closes last = true) (hnot : opens last = false) :
    Nests (first :: (text ++ [last])) (levels + 1) := by
  intro depth deepest rest hdeepest
  have hmax : max (max deepest (depth + 1)) (depth + 1 + levels) =
      max deepest (depth + (levels + 1)) := by omega
  rw [List.cons_append, nestingFrom, if_pos hfirst, List.append_assoc, h _ _ _ (by omega), hmax]
  simp [nestingFrom, hlast, hnot]

theorem nests_intercalate {texts : List (List Char)} {levels : List Nat}
    (h : List.Forall₂ Nests texts levels) :
    Nests ([',', ' '].intercalate texts) (levels.foldr max 0) := by
  have hseparator : Nests [',', ' '] 0 := nests_flat (by simp [opens, closes])
  induction h with
  | nil => exact nests_flat (by simp)
  | @cons text level texts levels htext htexts ih =>
    cases htexts with
    | nil => simpa [List.intercalate] using htext
    | cons hnext hrest =>
      have hall := (htext.append hseparator).append ih
      simpa [List.intercalate] using hall

theorem nests_enclose {name : String} {arguments : List String} {levels : List Nat}
    (hname : Nests name.toList 0)
    (h : List.Forall₂ (fun argument => Nests argument.toList) arguments levels) :
    Nests (enclose name arguments).toList (levels.foldr max 0 + 1) := by
  have htexts : List.Forall₂ Nests (arguments.map String.toList) levels :=
    List.forall₂_map_left_iff.mpr h
  have hall := hname.append ((nests_intercalate htexts).enclose '<' '>' rfl rfl rfl)
  simpa [toList_enclose] using hall

theorem flat_of_inWord {c : Char} (h : InWord c) : opens c = false ∧ closes c = false := by
  simp [opens, closes, h.ne (d := '<') (by decide), h.ne (d := '[') (by decide),
    h.ne (d := '(') (by decide), h.ne (d := '>') (by decide), h.ne (d := ']') (by decide),
    h.ne (d := ')') (by decide)]

theorem nests_word (word : PathWord) : Nests word.text.toList 0 := by
  apply nests_flat
  intro c hc
  rcases word.inWord c hc with h | rfl
  · exact flat_of_inWord h
  · decide

theorem nests_digits (n : Nat) : Nests (digits n) 0 :=
  nests_flat fun _ hc => flat_of_inWord (inWord_of_mem_digits hc)

theorem nests_bracket {element : String} {levels : Nat} (h : Nests element.toList levels)
    (length : UInt64) : Nests (bracket element length).toList (levels + 1) := by
  have hmiddle : Nests [';', ' '] 0 := nests_flat (by simp [opens, closes])
  have hall := ((h.append hmiddle).append (nests_digits length.toNat)).enclose '[' ']' rfl rfl rfl
  simpa [toList_bracket, digits] using hall

/-- By induction on the spelling: names and numbers have no brackets. -/
theorem Spelling.nests {e : TypeExpr} (spelling : Spelling e) :
    Nests e.render.toList e.brackets := by
  have number (n : UInt64) : Nests (toString n.toNat).toList 0 := by
    rw [toList_toString]
    exact nests_digits n.toNat
  have flat (name : String) (h : isWord name.toList) : Nests name.toList 0 :=
    nests_flat fun c hc => flat_of_inWord (inWord_of_isWord h c hc)
  induction spelling with
  | name word he =>
    subst he
    rw [render_ofName, brackets_ofName]
    exact nests_word word
  | sequence spelling ih =>
    simpa [render, brackets] using nests_enclose (flat "Vec" (by decide)) (.cons ih .nil)
  | boundedSequence spelling bound ih =>
    simpa [render, brackets] using
      nests_enclose (flat "MaxLenVec" (by decide)) (.cons ih (.cons (number bound) .nil))
  | option spelling ih =>
    simpa [render, brackets] using nests_enclose (flat "Option" (by decide)) (.cons ih .nil)
  | map first second ihk ihv =>
    simpa [render, brackets] using
      nests_enclose (flat "BTreeMap" (by decide)) (.cons ihk (.cons ihv .nil))
  | boundedMap first second bound ihk ihv =>
    simpa [render, brackets] using nests_enclose (flat "MaxLenBTreeMap" (by decide))
      (.cons ihk (.cons ihv (.cons (number bound) .nil)))
  | array spelling length hbytes ih => exact nests_bracket ih length
  | bytes width => exact nests_bracket (flat "u8" (by decide)) width
  | boundedString bound =>
    simpa [render, brackets] using
      nests_enclose (flat "MaxLenString" (by decide)) (.cons (number bound) .nil)

theorem nesting_render {e : TypeExpr} (spelling : Spelling e) :
    nesting e.render.toList = e.brackets := by
  have hnests := spelling.nests 0 0 [] (Nat.le_refl 0)
  simpa [nesting, nestingFrom] using hnests

end WireSchema.TypeExpr
