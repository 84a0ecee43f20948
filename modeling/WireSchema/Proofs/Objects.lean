import WireSchema.Json

/-!
Objects of JSON without the order of their keys. Main statement: values that are the same when keys
are sorted say the same under each key.
-/

namespace WireSchema.Json

/-- The entries of an object. What is no object is taken for the type that it would become. -/
def entries : Json → List (String × Json)
  | object entries => entries
  | body => [("type", body)]

/-- What entries say under a key. Of two with one key the later counts. -/
def said? (key : String) : List (String × Json) → Option Json
  | [] => none
  | (k, value) :: rest => (said? key rest).or (if k = key then some value.normalize else none)

theorem lookup_entry (key k : String) (value : Json) (rest : List (String × Json)) :
    ((k, value) :: rest).lookup key = if k = key then some value else rest.lookup key := by
  by_cases h : k = key
  · subst h
    simp
  · rw [List.lookup_cons, beq_false_of_ne (Ne.symm h), if_neg h]

theorem lookup_insertEntry (key k : String) (value : Json) (sorted : List (String × Json)) :
    (insertEntry k value sorted).lookup key =
      if k = key then some value else sorted.lookup key := by
  induction sorted with
  | nil => rw [insertEntry, lookup_entry]
  | cons entry sorted ih =>
    obtain ⟨own, content⟩ := entry
    unfold insertEntry
    split
    · rw [lookup_entry]
    · split
      · rename_i hsame
        subst hsame
        by_cases h : k = key <;> simp [lookup_entry, h]
      · rename_i hother
        rw [lookup_entry, ih, lookup_entry]
        by_cases h : own = key
        · have hk : k ≠ key := fun hk => hother (hk.trans h.symm)
          rw [if_pos h, if_neg hk, if_pos h]
        · rw [if_neg h, if_neg h]

theorem lookup_normalizeEntries (key : String) (sorted entries : List (String × Json)) :
    (normalizeEntries sorted entries).lookup key = (said? key entries).or (sorted.lookup key) := by
  induction entries generalizing sorted with
  | nil => rfl
  | cons entry entries ih =>
    obtain ⟨k, value⟩ := entry
    rw [normalizeEntries, ih, lookup_insertEntry, said?, Option.or_assoc]
    by_cases h : k = key <;> simp [h]

theorem normalizeItems_eq (items : List Json) : normalizeItems items = items.map normalize := by
  induction items with
  | nil => rfl
  | cons item items ih => rw [normalizeItems, ih, List.map_cons]

theorem said?_congr {a b : Json} (h : a.normalize = b.normalize) (key : String) :
    said? key a.entries = said? key b.entries := by
  cases a with
  | object es =>
    cases b with
    | object es' =>
      have hentries := congrArg (List.lookup key) (object.inj h)
      simpa [lookup_normalizeEntries, entries] using hentries
    | _ => simp [normalize] at h
  | _ =>
    cases b with
    | object es' => simp [normalize] at h
    | _ => simp only [entries, said?, h]

end WireSchema.Json
