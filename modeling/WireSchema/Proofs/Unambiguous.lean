import Mathlib.Data.List.Forall2
import WireSchema.Proofs.Size
import WireSchema.Table.Canonical

/-!
The parts of canonical bytes, told apart from what follows them. Main statement: so are lists of
parts that can be told apart, where a count stands before them.
-/

namespace WireSchema
namespace Canonical

/-- Bytes that begin with those of `a` begin with those of no `b` but one that is `Same`, provided
that they are few enough for counts to be exact. -/
def Told (write : α → Bytes) (Same : α → α → Prop) (a : α) : Prop :=
  ∀ b x y, (write a ++ x).length < UInt64.size → write a ++ x = write b ++ y → Same a b ∧ x = y

section Told
variable {write : α → Bytes} {Same : α → α → Prop} {a : α}

/-- The bytes are the same besides. -/
theorem Told.exact (h : Told write Same a) :
    Told write (fun a b => Same a b ∧ write a = write b ∧ (write a).length < UInt64.size) a := by
  intro b x y hsize heq
  obtain ⟨hsame, rfl⟩ := h b x y hsize heq
  rw [List.length_append] at hsize
  exact ⟨⟨hsame, List.append_cancel_right heq, by omega⟩, rfl⟩

theorem Told.tag (h : Told write Same a) (code : UInt8) :
    Told (fun a => code :: write a) Same a := by
  intro b x y hsize heq
  rw [List.cons_append, List.length_cons] at hsize
  exact h b x y (by omega) (List.cons.inj heq).2

theorem Told.append {write' : β → Bytes} {Same' : β → β → Prop} {b : β}
    (h : Told write Same a) (h' : Told write' Same' b) :
    Told (fun pair => write pair.1 ++ write' pair.2)
      (fun pair other => Same pair.1 other.1 ∧ Same' pair.2 other.2) (a, b) := by
  intro pair x y hsize heq
  rw [List.append_assoc] at hsize heq
  rw [List.append_assoc] at heq
  obtain ⟨hsame, heq⟩ := h pair.1 _ _ hsize heq
  have hsize' : (write' b ++ x).length < UInt64.size := by
    rw [List.length_append] at hsize
    exact Nat.lt_of_le_of_lt (Nat.le_add_left _ _) hsize
  obtain ⟨hsame', hrest⟩ := h' pair.2 x y hsize' heq
  exact ⟨⟨hsame, hsame'⟩, hrest⟩

end Told

theorem count_append {n m : Nat} {x y : Bytes} (h : count n ++ x = count m ++ y) :
    n % UInt64.size = m % UInt64.size ∧ x = y := by
  obtain ⟨hcount, hrest⟩ := List.append_inj h (by simp [count])
  have hmod := congrArg Bytes.toNatLE hcount
  rw [count, count, Bytes.toNatLE_ofNatLE, Bytes.toNatLE_ofNatLE] at hmod
  exact ⟨hmod, hrest⟩

theorem told_count (n : UInt64) : Told (fun n : UInt64 => count n.toNat) Eq n := by
  intro m x y _ heq
  obtain ⟨hmod, hrest⟩ := count_append heq
  rw [Nat.mod_eq_of_lt n.toNat_lt_size, Nat.mod_eq_of_lt m.toNat_lt_size] at hmod
  exact ⟨UInt64.toNat_inj.mp hmod, hrest⟩

section Lists
variable {α : Type} {write : α → Bytes} {Same : α → α → Prop} {items : List α}

theorem told_items (h : ∀ a ∈ items, Told write Same a) {items' : List α} {x y : Bytes}
    (hlen : items.length = items'.length)
    (hsize : (items.flatMap write ++ x).length < UInt64.size)
    (heq : items.flatMap write ++ x = items'.flatMap write ++ y) :
    List.Forall₂ Same items items' ∧ x = y := by
  induction items generalizing items' with
  | nil =>
    obtain rfl := List.length_eq_zero_iff.mp hlen.symm
    exact ⟨.nil, heq⟩
  | cons a items ih =>
    obtain ⟨b, items', rfl⟩ := List.exists_cons_of_length_eq_add_one hlen.symm
    obtain ⟨ha, hitems⟩ := List.forall_mem_cons.mp h
    rw [List.flatMap_cons, List.append_assoc] at hsize heq
    rw [List.flatMap_cons, List.append_assoc] at heq
    obtain ⟨hsame, heq⟩ := ha b _ _ hsize heq
    rw [List.length_append] at hsize
    obtain ⟨hall, hrest⟩ := ih hitems (Nat.succ.inj hlen) (by omega) heq
    exact ⟨.cons hsame hall, hrest⟩

/-- A list after the count of its items, none of which is written as nothing. -/
theorem told_counted (h : ∀ a ∈ items, Told write Same a) (hne : ∀ a, write a ≠ []) :
    Told (fun items => count items.length ++ items.flatMap write) (List.Forall₂ Same) items := by
  intro items' x y hsize heq
  have hle : ∀ items : List α, items.length ≤ (items.flatMap write).length :=
    fun items => length_le_length_flatMap fun a _ => hne a
  have hsize' := heq ▸ hsize
  rw [List.append_assoc] at hsize heq hsize'
  rw [List.append_assoc] at heq
  obtain ⟨hmod, hrest⟩ := count_append heq
  simp only [List.length_append] at hsize hsize'
  have hitems := hle items
  have hitems' := hle items'
  rw [Nat.mod_eq_of_lt (by omega), Nat.mod_eq_of_lt (by omega)] at hmod
  exact told_items h hmod (by rw [List.length_append]; omega) hrest

theorem eq_of_forall₂ {items' : List α} (hall : List.Forall₂ Same items items')
    (heq : ∀ a ∈ items, ∀ b ∈ items', Same a b → a = b) : items = items' := by
  induction hall with
  | nil => rfl
  | cons hsame _ ih =>
    rw [heq _ List.mem_cons_self _ List.mem_cons_self hsame,
      ih fun a ha b hb => heq a (List.mem_cons_of_mem _ ha) b (List.mem_cons_of_mem _ hb)]

end Lists

theorem told_text (s : String) : Told text Eq s := by
  have hbyte : ∀ b : UInt8, Told (fun b => [b]) Eq b := by
    intro b c x y _ heq
    exact List.cons.inj heq
  intro s' x y hsize heq
  have hbytes := told_counted (fun b (_ : b ∈ Bytes.ofText s) => hbyte b)
    (fun b => List.cons_ne_nil b []) (Bytes.ofText s') x y
  simp only [List.flatMap_singleton', List.forall₂_eq_eq_eq] at hbytes
  obtain ⟨hsame, hrest⟩ := hbytes hsize heq
  have htext := congrArg Bytes.toText? hsame
  rw [Bytes.toText?_ofText, Bytes.toText?_ofText] at htext
  exact ⟨Option.some.inj htext, hrest⟩

theorem told_bound (max : Option UInt64) : Told bound Eq max := by
  intro max' x y hsize heq
  cases max with
  | none =>
    cases max' with
    | none => exact ⟨rfl, (List.cons.inj heq).2⟩
    | some m => cases (List.cons.inj heq).1
  | some n =>
    cases max' with
    | none => cases (List.cons.inj heq).1
    | some m =>
      obtain ⟨rfl, hrest⟩ := (told_count n).tag 1 m x y hsize heq
      exact ⟨rfl, hrest⟩

theorem integerCode_ne (kind : IntKind) :
    integerCode kind ≠ 0 ∧ integerCode kind ≠ 11 ∧ integerCode kind ≠ 12 ∧
      integerCode kind ≠ 13 := by
  cases kind <;> decide

theorem integerCode_inj {kind kind' : IntKind} (h : integerCode kind = integerCode kind') :
    kind = kind' := by
  cases kind <;> cases kind' <;> first | rfl | cases h

theorem told_primitive (kind : Primitive) : Told primitive Eq kind := by
  intro kind' x y hsize heq
  cases kind with
  | bool =>
    cases kind' with
    | bool => exact ⟨rfl, (List.cons.inj heq).2⟩
    | int kind' => exact absurd (List.cons.inj heq).1.symm (integerCode_ne kind').1
    | _ => cases (List.cons.inj heq).1
  | int kind =>
    obtain ⟨hbool, hstring, hbytes, hkey⟩ := integerCode_ne kind
    cases kind' with
    | bool => exact absurd (List.cons.inj heq).1 hbool
    | int kind' =>
      obtain ⟨hcode, hrest⟩ := List.cons.inj heq
      rw [integerCode_inj hcode]
      exact ⟨rfl, hrest⟩
    | string max => exact absurd (List.cons.inj heq).1 hstring
    | fixedBytes width => exact absurd (List.cons.inj heq).1 hbytes
    | publicKey => exact absurd (List.cons.inj heq).1 hkey
  | string max =>
    cases kind' with
    | string max' =>
      obtain ⟨rfl, hrest⟩ := (told_bound max).tag 11 max' x y hsize heq
      exact ⟨rfl, hrest⟩
    | int kind' => exact absurd (List.cons.inj heq).1.symm (integerCode_ne kind').2.1
    | _ => cases (List.cons.inj heq).1
  | fixedBytes width =>
    cases kind' with
    | fixedBytes width' =>
      obtain ⟨rfl, hrest⟩ := (told_count width).tag 12 width' x y hsize heq
      exact ⟨rfl, hrest⟩
    | int kind' => exact absurd (List.cons.inj heq).1.symm (integerCode_ne kind').2.2.1
    | _ => cases (List.cons.inj heq).1
  | publicKey =>
    cases kind' with
    | publicKey => exact ⟨rfl, (List.cons.inj heq).2⟩
    | int kind' => exact absurd (List.cons.inj heq).1.symm (integerCode_ne kind').2.2.2
    | _ => cases (List.cons.inj heq).1

end Canonical
end WireSchema
