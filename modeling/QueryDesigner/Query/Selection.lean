/-!
# Selected columns

* `Selection` — every column of a table, or a list of columns in the order of the SELECT list;
* `Selections` — a selection for each table key, in the order in which the keys came in;
* `Selections.get?`, `Selections.set`, `Selections.erase`, `Selections.rekey` — look-up and change;
* `dedup` — a list without later repetitions.
-/

namespace QueryDesigner

/-- What a table contributes to the SELECT list.  An empty list of columns is an explicit choice of
none. -/
inductive Selection where
  | every
  | only (columns : List String)
  deriving DecidableEq, Repr

/-- Selections by table key, in the order in which the keys came in. -/
structure Selections where
  entries : List (String × Selection) := []
  deriving DecidableEq, Repr

namespace Selections

/-- The entries with the value of a key replaced, or the key added at the end. -/
def put (key : String) (s : Selection) : List (String × Selection) → List (String × Selection)
  | [] => [(key, s)]
  | e :: rest => if e.1 = key then (key, s) :: rest else e :: put key s rest

def keys (m : Selections) : List String := m.entries.map Prod.fst

def get? (m : Selections) (key : String) : Option Selection := m.entries.lookup key

/-- The selection of a key; a key without an entry selects every column. -/
def get (m : Selections) (key : String) : Selection := (m.get? key).getD .every

def set (m : Selections) (key : String) (s : Selection) : Selections := ⟨put key s m.entries⟩

def erase (m : Selections) (key : String) : Selections :=
  ⟨m.entries.filter fun e => e.1 != key⟩

/-- Selections from a list of entries: the first entry of a key fixes its place, the last one its
value. -/
def ofList (entries : List (String × Selection)) : Selections :=
  entries.foldl (fun m e => m.set e.1 e.2) {}

/-- The selections with one key renamed. -/
def rekey (m : Selections) (old new : String) : Selections :=
  ofList (m.entries.map fun e => (if e.1 = old then new else e.1, e.2))

end Selections

/-- A list without the repetitions of items that already stand earlier, given the items seen so
far. -/
def dedupFrom [BEq α] (seen : List α) : List α → List α
  | [] => []
  | x :: rest => if seen.contains x then dedupFrom seen rest else x :: dedupFrom (x :: seen) rest

/-- A list without later repetitions. -/
def dedup [BEq α] (xs : List α) : List α := dedupFrom [] xs

end QueryDesigner
