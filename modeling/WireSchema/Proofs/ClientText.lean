import Mathlib.Data.Bool.AllAny
import Mathlib.Data.List.Forall2
import WireSchema.Proofs.MemberNames
import WireSchema.Proofs.References

/-!
Classes read off the text of a client module. Main statement: where classes are named by words, the
text of a module tells its classes, with the names and the schemas of their members.
-/

namespace WireSchema
open Text

/-- No sign of equality: the first one in a module stands where the schemas begin. -/
def Unequal (s : String) : Prop :=
  '=' ∉ s.toList

instance (s : String) : Decidable (Unequal s) :=
  inferInstanceAs (Decidable (_ ∉ _))

theorem unequal_append {s s' : String} : Unequal (s ++ s') ↔ Unequal s ∧ Unequal s' := by
  simp only [Unequal, String.toList_append, List.mem_append, not_or]

theorem unequal_join {texts : List String} (h : ∀ s ∈ texts, Unequal s) :
    Unequal (String.join texts) := by
  intro hc
  rw [String.toList_join] at hc
  obtain ⟨s, hs, hc⟩ := List.mem_flatMap.mp hc
  exact h s hs hc

theorem unequal_of_unmarked {s : String} (h : ∀ c ∈ s.toList, Unmarked c) : Unequal s :=
  fun hc => (h '=' hc).2 rfl

theorem unequal_of_isWord {s : String} (h : isWord s.toList) : Unequal s :=
  unequal_of_unmarked fun c hc => unmarked_of_inWord (inWord_of_isWord h c hc)

theorem unequal_classTypeOfPrimitive (kind : Primitive) :
    Unequal (Layout.classTypeOfPrimitive kind) := by
  cases kind with
  | bool => decide
  | int kind => cases kind <;> decide
  | string bound => exact (by decide : Unequal "string")
  | fixedBytes width =>
    have hdigits : Unequal (toString width.toNat) := by
      apply unequal_of_unmarked
      rw [toList_toString]
      exact fun c hc => unmarked_of_inWord (inWord_of_mem_digits hc)
    simp only [Layout.classTypeOfPrimitive, toString, unequal_append] at hdigits ⊢
    exact ⟨⟨by decide, hdigits⟩, by decide⟩
  | publicKey => decide

theorem ClientType.unequal_classText {type : ClientType} (h : type.Worded) :
    Unequal type.classText := by
  induction type with
  | reference name => exact unequal_of_isWord (h name (List.mem_singleton_self name))
  | primitive kind => exact unequal_classTypeOfPrimitive kind
  | array element length ih | sequence element ih =>
    have helement := ih h
    unfold classText
    split
    · simp only [toString, unequal_append]
      exact ⟨⟨by decide, helement⟩, by decide⟩
    · simp only [toString, unequal_append]
      exact ⟨helement, by decide⟩
  | map key value ihk ihv =>
    obtain ⟨hk, hv⟩ := List.forall_mem_append.mp h
    simp only [classText, toString, unequal_append]
    exact ⟨⟨⟨⟨by decide, ihk hk⟩, by decide⟩, ihv hv⟩, by decide⟩
  | option inner ih =>
    simp only [classText, toString, unequal_append]
    exact ⟨ih h, by decide⟩

namespace ClientClass

/-- A class that can be read off the text of its module. -/
structure Legible (c : ClientClass) : Prop where
  name : isWord c.name.toList
  unmarked : c.Unmarked
  resolved : c.Resolved fun name => isWord name.toList

theorem unequal_classLine {m : ClientMember} (hname : Unequal m.name)
    (htype : Unequal m.classType) : Unequal s!"\n    {m.name}: {m.classType};" := by
  simp only [toString, unequal_append]
  exact ⟨⟨⟨⟨by decide, hname⟩, by decide⟩, htype⟩, by decide⟩

theorem unequal_renderClass {c : ClientClass} (h : c.Legible) : Unequal c.renderClass := by
  have hbase : Unequal c.kind.base := by cases c.kind <;> decide
  have hlines := unequal_join (List.forall_mem_map.mpr fun m hm => by
    obtain ⟨type, htype, -, hwords⟩ := h.resolved m hm
    have hclass : Unequal m.classType := htype ▸ type.unequal_classText hwords
    exact unequal_classLine (unequal_of_unmarked (h.unmarked m hm)) hclass)
  unfold renderClass
  simp only [unequal_append]
  refine ⟨⟨?_, hlines⟩, by decide⟩
  simp only [toString]
  exact ⟨⟨⟨⟨by decide, unequal_of_isWord h.name⟩, by decide⟩, hbase⟩, by decide⟩

end ClientClass

/-- The line that the schema of a class has for a member. -/
def ClientMember.schemaLine (m : ClientMember) : String :=
  s!"\n\t\t\t['{m.name}', {m.schemaType}],"

theorem ClientMember.toList_schemaLine (m : ClientMember) :
    m.schemaLine.toList = "\n\t\t\t['".toList ++
      (m.name.toList ++ ("', ".toList ++ (m.schemaType.toList ++ "],".toList))) := by
  unfold schemaLine
  simp only [toString, String.toList_append, List.append_assoc]

theorem ClientMember.schemaLine_append (m : ClientMember) (x : List Char) :
    m.schemaLine.toList ++ x = '\n' :: '\t' :: '\t' :: '\t' :: '[' :: '\'' ::
      (m.name.toList ++ '\'' :: ',' :: ' ' :: (m.schemaType.toList ++ ']' :: ',' :: x)) := by
  have hopen : "\n\t\t\t['".toList = ['\n', '\t', '\t', '\t', '[', '\''] := by decide
  have hmiddle : "', ".toList = ['\'', ',', ' '] := by decide
  have hclose : "],".toList = [']', ','] := by decide
  simp only [toList_schemaLine, hopen, hmiddle, hclose, List.append_assoc, List.cons_append,
    List.nil_append]

theorem ClientClass.renderSchema_append (c : ClientClass) (x : List Char) :
    c.renderSchema.toList ++ x = '\n' :: ' ' :: ("   [\n            ".toList ++
      (c.name.toList ++ ',' :: ("\n            \x7b\n                ".toList ++
        (c.kind.head.toList ++ (" [".toList ++ (c.members.flatMap (·.schemaLine.toList) ++
          '\n' :: ' ' :: ("               ],\n            \x7d,\n    ],".toList ++ x))))))) := by
  have hopen :
      "\n    [\n            ".toList = '\n' :: ' ' :: "   [\n            ".toList := by decide
  have hmiddle : ",\n            \x7b\n                ".toList =
    ',' :: "\n            \x7b\n                ".toList := by decide
  have hclose : "\n                ],\n            \x7d,\n    ],".toList =
    '\n' :: ' ' :: "               ],\n            \x7d,\n    ],".toList := by decide
  unfold renderSchema
  simp only [toString, String.toList_append, List.append_assoc, hopen, hmiddle, hclose,
    String.toList_join, List.flatMap_map, List.cons_append, ClientMember.toList_schemaLine]

/-- Items that are written one after the other are told by what is written, if each is told where it
begins and what comes after them begins like none. -/
theorem forall₂_of_flatMap_append {α : Type} {write : α → List Char} {Same : α → α → Prop}
    {items others : List α} {x y : List Char}
    (h : ∀ a ∈ items, ∀ b ∈ others, ∀ x y, write a ++ x = write b ++ y → Same a b ∧ x = y)
    (hx : ∀ a z, write a ++ z ≠ x) (hy : ∀ a z, write a ++ z ≠ y)
    (heq : items.flatMap write ++ x = others.flatMap write ++ y) :
    List.Forall₂ Same items others ∧ x = y := by
  induction items generalizing others with
  | nil =>
    cases others with
    | nil => exact ⟨.nil, heq⟩
    | cons b others =>
      rw [List.flatMap_cons, List.append_assoc] at heq
      exact absurd heq.symm (hx b _)
  | cons a items ih =>
    rw [List.flatMap_cons, List.append_assoc] at heq
    cases others with
    | nil => exact absurd heq (hy a _)
    | cons b others =>
      rw [List.flatMap_cons, List.append_assoc] at heq
      obtain ⟨hsame, hrest⟩ := h a List.mem_cons_self b List.mem_cons_self _ _ heq
      obtain ⟨hall, hend⟩ := ih (fun a ha b hb =>
        h a (List.mem_cons_of_mem _ ha) b (List.mem_cons_of_mem _ hb)) hrest
      exact ⟨.cons hsame hall, hend⟩

/-- What the schemas of a module say of a member. -/
def ClientMember.SameSchema (m m' : ClientMember) : Prop :=
  m.name = m'.name ∧ m.schemaType = m'.schemaType

/-- What the schemas of a module say of a class. -/
structure ClientClass.SameSchema (c c' : ClientClass) : Prop where
  name : c.name = c'.name
  kind : c.kind = c'.kind
  members : List.Forall₂ ClientMember.SameSchema c.members c'.members

namespace ClientClass
variable {c c' : ClientClass} {x y : List Char}

theorem kind_eq_of_head {kind kind' : ClientKind}
    (h : kind.head.toList ++ x = kind'.head.toList ++ y) : kind = kind' ∧ x = y := by
  have hne : ∀ z w, ClientKind.struct.head.toList ++ z ≠ ClientKind.enum.head.toList ++ w := by
    intro z w heq
    have hstart := congrArg (List.take 9) heq
    rw [List.take_append_of_le_length (by decide), List.take_append_of_le_length (by decide)]
      at hstart
    exact absurd hstart (by decide)
  cases kind with
  | struct =>
    cases kind' with
    | struct => exact ⟨rfl, List.append_cancel_left h⟩
    | enum => exact absurd h (hne x y)
  | enum =>
    cases kind' with
    | struct => exact absurd h.symm (hne y x)
    | enum => exact ⟨rfl, List.append_cancel_left h⟩

theorem Legible.member (h : c.Legible) (h' : c'.Legible) {m m' : ClientMember}
    (hm : m ∈ c.members) (hm' : m' ∈ c'.members)
    (heq : m.schemaLine.toList ++ x = m'.schemaLine.toList ++ y) :
    m.SameSchema m' ∧ x = y := by
  obtain ⟨type, -, htype, hwords⟩ := h.resolved m hm
  obtain ⟨type', -, htype', hwords'⟩ := h'.resolved m' hm'
  simp only [ClientMember.schemaLine_append, List.cons.injEq, true_and] at heq
  obtain ⟨hname, hafter⟩ := run_eq_of_append (fun d hd => (h.unmarked m hm d hd).1)
    (fun d hd => (h'.unmarked m' hm' d hd).1) (stops_cons _ (by decide))
    (stops_cons _ (by decide)) heq
  simp only [List.cons.injEq, true_and, htype, htype'] at hafter
  obtain ⟨-, hrest⟩ := type.tells (ClientType.Worded.bare hwords) type'
    (ClientType.Worded.bare hwords') _ _ (stops_cons _ (by decide))
    (stops_cons _ (by decide)) hafter
  rw [hrest] at hafter
  have htext := String.toList_inj.mp (List.append_cancel_right hafter)
  exact ⟨⟨String.toList_inj.mp hname, by rw [htype, htype', htext]⟩,
    (List.cons.inj (List.cons.inj hrest).2).2⟩

theorem Legible.class (h : c.Legible) (h' : c'.Legible)
    (heq : c.renderSchema.toList ++ x = c'.renderSchema.toList ++ y) :
    c.SameSchema c' ∧ x = y := by
  rw [renderSchema_append, renderSchema_append] at heq
  have hafter := List.append_cancel_left (List.cons.inj (List.cons.inj heq).2).2
  obtain ⟨hname, hafter⟩ := run_eq_of_append (inWord_of_isWord h.name) (inWord_of_isWord h'.name)
    (stops_cons _ (by decide)) (stops_cons _ (by decide)) hafter
  obtain ⟨hkind, hafter⟩ := kind_eq_of_head (List.append_cancel_left (List.cons.inj hafter).2)
  have hstop : ∀ (m : ClientMember) (z w : List Char),
      m.schemaLine.toList ++ z ≠ '\n' :: ' ' :: w := by
    intro m z w hline
    rw [ClientMember.schemaLine_append] at hline
    exact absurd (List.cons.inj (List.cons.inj hline).2).1 (by decide)
  obtain ⟨hmembers, hrest⟩ := forall₂_of_flatMap_append
    (fun m hm m' hm' _ _ => h.member h' hm hm') (fun m z => hstop m z _) (fun m z => hstop m z _)
    (List.append_cancel_left hafter)
  exact ⟨⟨String.toList_inj.mp hname, hkind, hmembers⟩,
    List.append_cancel_left (List.cons.inj (List.cons.inj hrest).2).2⟩

end ClientClass

namespace Table

theorem toList_clientModule (t : Table) :
    t.clientModule.toList = clientHeader.toList ++
      (((String.join (t.clientClasses.map (·.renderClass))).toList ++
        "export const SCHEMA ".toList) ++
        '=' :: (" new Map<any, any>([".toList ++
          (t.clientClasses.flatMap (·.renderSchema.toList) ++ '\n' :: ']' :: ");\n".toList))) := by
  have hmiddle : "export const SCHEMA = new Map<any, any>([".toList =
    "export const SCHEMA ".toList ++ '=' :: " new Map<any, any>([".toList := by decide
  have hclose : "\n]);\n".toList = '\n' :: ']' :: ");\n".toList := by decide
  unfold clientModule
  simp only [String.toList_append, List.append_assoc, hmiddle, hclose, String.toList_join,
    List.flatMap_map, List.cons_append]

theorem ne_of_mem_classes {t : Table} (h : ∀ c ∈ t.clientClasses, c.Legible) :
    ∀ c ∈ (String.join (t.clientClasses.map (·.renderClass))).toList ++
      "export const SCHEMA ".toList, c ≠ '=' := by
  have hclasses : Unequal (String.join (t.clientClasses.map (·.renderClass))) :=
    unequal_join (List.forall_mem_map.mpr fun c hc => ClientClass.unequal_renderClass (h c hc))
  rw [List.forall_mem_append]
  refine ⟨?_, List.all_iff_forall_prop.mp (by decide)⟩
  intro c hc heq
  exact hclasses (heq ▸ hc)

theorem sameSchemas_of_clientModule_eq {t t' : Table} (h : ∀ c ∈ t.clientClasses, c.Legible)
    (h' : ∀ c ∈ t'.clientClasses, c.Legible) (heq : t.clientModule = t'.clientModule) :
    List.Forall₂ ClientClass.SameSchema t.clientClasses t'.clientClasses := by
  have hstop : ∀ (c : ClientClass) (z w : List Char),
      c.renderSchema.toList ++ z ≠ '\n' :: ']' :: w := by
    intro c z w hclass
    rw [ClientClass.renderSchema_append] at hclass
    exact absurd (List.cons.inj (List.cons.inj hclass).2).1 (by decide)
  have htext := congrArg String.toList heq
  rw [toList_clientModule, toList_clientModule] at htext
  obtain ⟨-, hafter⟩ := run_eq_of_append (ne_of_mem_classes h) (ne_of_mem_classes h')
    (stops_cons _ (by decide)) (stops_cons _ (by decide)) (List.append_cancel_left htext)
  exact (forall₂_of_flatMap_append (fun c hc c' hc' _ _ => (h c hc).class (h' c' hc'))
    (fun c z => hstop c z _) (fun c z => hstop c z _)
    (List.append_cancel_left (List.cons.inj hafter).2)).1

section Emitted
variable {ds : List Declaration} {t : Table} {refer : String → Option Layout}

theorem LaidOut.ne_empty_of_words (h : LaidOut ds t refer)
    (hwords : ∀ c ∈ t.clientClasses, isWord c.name.toList) :
    ∀ d ∈ ds, ¬d.isAlias → d.name ≠ "" := by
  intro d hd halias hempty
  obtain ⟨c, hc, hname⟩ := h.hasClass hd halias
  have hword := hwords c hc
  rw [hname, hempty] at hword
  cases hword

theorem LaidOut.legible (h : LaidOut ds t refer)
    (hwords : ∀ c ∈ t.clientClasses, isWord c.name.toList) :
    ∀ c ∈ t.clientClasses, c.Legible := by
  intro c hc
  refine ⟨hwords c hc, ?_, ?_⟩
  · obtain ⟨entry, -, hof⟩ := List.mem_flatMap.mp hc
    exact ClientClass.unmarked_ofEntry entry c hof
  · apply (h.resolved (h.ne_empty_of_words hwords) c hc).imp
    intro name hclass
    obtain ⟨c', hc', rfl⟩ := hclass
    exact hwords c' hc'

end Emitted
end Table
end WireSchema
