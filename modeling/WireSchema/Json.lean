/-!
The values of JSON. An object keeps its entries as they were written; `normalize` gives the form
in which the order of the keys and overwritten entries no longer show.
-/

namespace WireSchema

inductive Json
  | null
  | bool (b : Bool)
  /-- An integer of 64 bits, with or without a sign. -/
  | int (n : Int)
  /-- Any other number, as written. -/
  | real (digits : String)
  | string (s : String)
  | array (items : List Json)
  | object (entries : List (String × Json))
  /-- A string that is no text, as it holds half a surrogate pair, or an object with such a key.
  It can only be passed over. -/
  | broken
  deriving Repr, Inhabited

namespace Json

/-- Puts an entry in its place among entries sorted by key, over an older one of the same key. -/
def insertEntry (key : String) (value : Json) : List (String × Json) → List (String × Json)
  | [] => [(key, value)]
  | (k, v) :: rest =>
    if key < k then (key, value) :: (k, v) :: rest
    else if key = k then (key, value) :: rest
    else (k, v) :: insertEntry key value rest

mutual

/-- Sorts the entries of every object by key. Of two entries with one key the later counts. -/
def normalize : Json → Json
  | array items => array (normalizeItems items)
  | object entries => object (normalizeEntries [] entries)
  | value => value

def normalizeItems : List Json → List Json
  | [] => []
  | item :: rest => normalize item :: normalizeItems rest

def normalizeEntries (sorted : List (String × Json)) :
    List (String × Json) → List (String × Json)
  | [] => sorted
  | (key, value) :: rest => normalizeEntries (insertEntry key (normalize value) sorted) rest

end

/-- The entry of a key. There may be none or one, but not two. -/
def entry? (entries : List (String × Json)) (key : String) : Option (Option Json) :=
  match entries.filter (·.1 == key) with
  | [] => some none
  | [(_, value)] => some (some value)
  | _ => none

end Json
end WireSchema
