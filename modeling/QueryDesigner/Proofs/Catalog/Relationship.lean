import Mathlib
import QueryDesigner.Catalog.Payload

/-!
# Relationship rows complete a catalog

* `Relationship`, `Relationship.Reads` — a relationship, and a row of a payload that holds it;
* `Catalog.Describes` — a payload with the catalog that it declares and the relationships in its
  rows;
* `Catalog.place?` — the first column of a name in the first table of a name, letter case ignored;
* `Catalog.completed` — a catalog in which the first row for a column supplies the foreign key that
  the column lacks;
* `Catalog.addRow_eq`, `Catalog.foldlM_addRow` — what one row adds, and what all rows add;
* `Catalog.ofPayload_completes` — the catalog of a payload is the declared one, completed by the rows
  that name a table to start from.

The rows are added one after the other, and each of them looks its column up in the catalog as it is
by then.  No row changes a name, so that all of them find the same places.
-/

namespace QueryDesigner

/-- A foreign key by the names of the columns at its ends. -/
structure Relationship where
  fromTable : String
  fromColumn : String
  toTable : String
  toColumn : Option String := none
  deriving DecidableEq, Repr

namespace Relationship

/-- The row holds the names as texts.  The column at the far end may be left out. -/
def Reads (r : Relationship) (row : Datum) : Prop :=
  ∃ fields, row = .object fields ∧
    fields.lookup "from_table" = some (.text r.fromTable) ∧
    fields.lookup "from_column" = some (.text r.fromColumn) ∧
    fields.lookup "to_table" = some (.text r.toTable) ∧
    fields.lookup "to_column" = r.toColumn.map .text

/-- What the foreign key refers to. -/
def target (r : Relationship) : Catalog.ForeignKey := ⟨r.toTable, r.toColumn.getD ""⟩

end Relationship

namespace Catalog

open Validation

/-- The payload, bare or in its envelope, declares the catalog and has the relationships in its
rows. -/
def Describes (payload : Datum) (declared : Catalog) (rs : List Relationship) : Prop :=
  ∃ fields data, payload = .object fields ∧
    decode (.object (schemaFields fields)) = .ok declared ∧
    rows (((schemaFields fields).lookup "relationships").getD .null) = .ok data ∧
    List.Forall₂ Relationship.Reads rs data

/-! ## Places of columns -/

/-- The place of the first column of a name in the first table of a name. -/
def place? (c : Catalog) (table column : String) : Option (Nat × Nat) :=
  (c.tables.findIdx? fun t => Text.sameLetters t.name table).bind fun i =>
    (c.tables[i]?.bind fun t => t.columns.findIdx? fun k => Text.sameLetters k.name column).map
      fun j => (i, j)

/-- The catalog in which the foreign key of each column is changed, given the place of the column. -/
def mapForeignKeys (f : Nat × Nat → Option ForeignKey → Option ForeignKey) (c : Catalog) :
    Catalog :=
  { c with
    tables := c.tables.mapIdx fun i t =>
      { t with columns := t.columns.mapIdx fun j k =>
        { k with foreignKey := f (i, j) k.foreignKey } } }

/-- A relationship concerns the column at which it starts. -/
def concerns (c : Catalog) (place : Nat × Nat) (r : Relationship) : Bool :=
  c.place? r.fromTable r.fromColumn == some place

/-- The catalog in which a column without a foreign key has the one of the first relationship that
concerns it and leads somewhere. -/
def completed (c : Catalog) (rs : List Relationship) : Catalog :=
  c.mapForeignKeys fun place declared =>
    declared.or ((rs.find? fun r => c.concerns place r && r.toTable != "").map
      Relationship.target)

/-! ## The first item of a kind -/

section FirstItems

variable {α β : Type} {p : α → Bool} {q : β → Bool}

theorem mapIdx_self (xs : List α) : (xs.mapIdx fun _ x => x) = xs :=
  List.mapIdx_eq_iff.2 fun _ => by simp

theorem findIdx?_mapIdx {f : Nat → α → β} (xs : List α) (h : ∀ i x, q (f i x) = p x) :
    (xs.mapIdx f).findIdx? q = xs.findIdx? p := by
  induction xs generalizing f with
  | nil =>
      rfl
  | cons x rest ih =>
      rw [List.mapIdx_cons, List.findIdx?_cons, List.findIdx?_cons, h, ih fun i => h (i + 1)]

theorem modifyFirst_eq_mapIdx (f : α → α) (xs : List α) :
    modifyFirst p f xs = xs.mapIdx fun i x => if xs.findIdx? p = some i then f x else x := by
  induction xs with
  | nil =>
      rfl
  | cons x rest ih =>
      rw [modifyFirst, List.mapIdx_cons, List.findIdx?_cons]
      cases hx : p x with
      | true =>
          simp [mapIdx_self]
      | false =>
          rw [ih]
          simp

/-- What is found first stands at the first place. -/
theorem exists_findIdx?_of_find? {xs : List α} {x : α} (h : xs.find? p = some x) :
    ∃ i, xs.findIdx? p = some i ∧ xs[i]? = some x := by
  rcases List.find?_eq_some_iff_getElem.1 h with ⟨hx, i, hi, hget, hbefore⟩
  refine ⟨i, List.findIdx?_eq_some_iff_getElem.2 ⟨hi, by rwa [hget], fun j hj => ?_⟩, ?_⟩
  · simpa using hbefore j hj
  · rw [List.getElem?_eq_getElem hi, hget]

theorem findIdx?_eq_none_of_find? {xs : List α} (h : xs.find? p = none) :
    xs.findIdx? p = none := by
  rw [List.findIdx?_eq_none_iff]
  simpa using List.find?_eq_none.1 h

end FirstItems

/-! ## Foreign keys by their places -/

section Places

variable {c : Catalog} {f g : Nat × Nat → Option ForeignKey → Option ForeignKey}

theorem mapForeignKeys_congr
    (h : ∀ i t j k, c.tables[i]? = some t → t.columns[j]? = some k →
      f (i, j) k.foreignKey = g (i, j) k.foreignKey) :
    c.mapForeignKeys f = c.mapForeignKeys g := by
  have htables : (c.mapForeignKeys f).tables = (c.mapForeignKeys g).tables := by
    refine List.mapIdx_eq_mapIdx_iff.2 fun i hi => ?_
    congr 1
    refine List.mapIdx_eq_mapIdx_iff.2 fun j hj => ?_
    rw [h i _ j _ (List.getElem?_eq_getElem hi) (List.getElem?_eq_getElem hj)]
  exact congrArg (fun tables => { c with tables }) htables

theorem mapForeignKeys_self : c.mapForeignKeys (fun _ key => key) = c := by
  simp only [mapForeignKeys, mapIdx_self]

theorem mapForeignKeys_mapForeignKeys :
    (c.mapForeignKeys f).mapForeignKeys g = c.mapForeignKeys fun place key =>
      g place (f place key) := by
  simp [mapForeignKeys, List.mapIdx_mapIdx, Function.comp_def]

/-- Foreign keys have no part in where a column stands. -/
theorem place?_mapForeignKeys (table column : String) :
    (c.mapForeignKeys f).place? table column = c.place? table column := by
  have htable : (c.mapForeignKeys f).tables.findIdx? (fun t => Text.sameLetters t.name table) =
      c.tables.findIdx? fun t => Text.sameLetters t.name table :=
    findIdx?_mapIdx c.tables fun _ _ => rfl
  rw [place?, place?, htable]
  refine congrArg _ (funext fun i => congrArg _ ?_)
  rw [mapForeignKeys, List.getElem?_mapIdx]
  cases c.tables[i]? with
  | none =>
      rfl
  | some t =>
      exact findIdx?_mapIdx t.columns fun _ _ => rfl

theorem place?_eq_some_iff {table column : String} {i j : Nat} {t : Table}
    (ht : c.tables[i]? = some t) :
    c.place? table column = some (i, j) ↔
      c.tables.findIdx? (fun t => Text.sameLetters t.name table) = some i ∧
        t.columns.findIdx? (fun k => Text.sameLetters k.name column) = some j := by
  rw [place?, Option.bind_eq_some_iff]
  constructor
  · rintro ⟨i', hi', hplace⟩
    rcases Option.map_eq_some_iff.1 hplace with ⟨j', hj', heq⟩
    rcases Prod.mk.inj heq with ⟨rfl, rfl⟩
    rw [ht, Option.bind_some] at hj'
    exact ⟨hi', hj'⟩
  · rintro ⟨hi, hj⟩
    exact ⟨i, hi, by rw [ht, Option.bind_some, hj, Option.map_some]⟩

/-- A link changes the foreign key at one place. -/
theorem link_eq (table column : String) (target : ForeignKey) :
    c.link table column target = c.mapForeignKeys fun place key =>
      if c.place? table column = some place then some target else key := by
  -- Both sides run through the tables and their columns; only at the place they differ from `c`.
  have htables : (c.link table column target).tables = (c.mapForeignKeys fun place key =>
      if c.place? table column = some place then some target else key).tables := by
    rw [link, modifyFirst_eq_mapIdx]
    refine List.mapIdx_eq_mapIdx_iff.2 fun i hi => ?_
    simp only [place?_eq_some_iff (List.getElem?_eq_getElem hi), modifyFirst_eq_mapIdx]
    by_cases hfirst : c.tables.findIdx? (fun t => Text.sameLetters t.name table) = some i
    · simp only [hfirst, true_and, if_true]
      congr 1
      refine List.mapIdx_eq_mapIdx_iff.2 fun j _ => ?_
      split_ifs <;> rfl
    · simp only [hfirst, false_and, if_false, mapIdx_self]
  exact congrArg (fun tables => { c with tables }) htables

end Places

/-! ## Completion -/

section Completion

variable {c : Catalog} {r : Relationship} {rs : List Relationship}

theorem concerns_completed (place : Nat × Nat) :
    (c.completed rs).concerns place = c.concerns place := by
  funext r
  rw [concerns, completed, place?_mapForeignKeys, concerns]

/-- One relationship after the other. -/
theorem completed_completed (qs : List Relationship) :
    (c.completed rs).completed qs = c.completed (rs ++ qs) := by
  rw [completed]
  simp only [concerns_completed]
  rw [completed, mapForeignKeys_mapForeignKeys, completed]
  simp only [List.find?_append, Option.map_or, Option.or_assoc]

theorem completed_nil : c.completed [] = c := by
  simp only [completed, List.find?_nil, Option.map_none, Option.or_none, mapForeignKeys_self]

/-- A relationship that leads nowhere, or whose column is not there or has a foreign key, adds
nothing. -/
theorem completed_singleton_of_idle
    (h : ∀ i t j k, c.tables[i]? = some t → t.columns[j]? = some k →
      c.place? r.fromTable r.fromColumn = some (i, j) → r.toTable = "" ∨ k.foreignKey.isSome) :
    c.completed [r] = c := by
  conv_rhs => rw [← c.mapForeignKeys_self]
  refine mapForeignKeys_congr fun i t j k ht hk => ?_
  by_cases hplace : c.place? r.fromTable r.fromColumn = some (i, j)
  · rcases h i t j k ht hk hplace with hnowhere | hkey
    · simp [hnowhere]
    · exact Option.or_of_isSome hkey
  · simp [concerns, hplace]

/-- A relationship that leads somewhere supplies the key that its column lacks. -/
theorem completed_singleton_of_lacking {t : Table} {k : Column} {i j : Nat}
    (ht : c.tables[i]? = some t) (hk : t.columns[j]? = some k)
    (hplace : c.place? r.fromTable r.fromColumn = some (i, j)) (hsomewhere : r.toTable ≠ "")
    (hlacks : k.foreignKey = none) :
    c.completed [r] = c.mapForeignKeys fun place key =>
      if c.place? r.fromTable r.fromColumn = some place then some r.target else key := by
  refine mapForeignKeys_congr fun i' t' j' k' ht' hk' => ?_
  by_cases hsame : c.place? r.fromTable r.fromColumn = some (i', j')
  · rw [hplace] at hsame
    rcases Prod.mk.inj (Option.some.inj hsame) with ⟨rfl, rfl⟩
    obtain rfl := Option.some.inj (ht.symm.trans ht')
    obtain rfl := Option.some.inj (hk.symm.trans hk')
    simp [concerns, hplace, hlacks, hsomewhere]
  · simp [concerns, hsame]

end Completion

/-! ## Rows -/

section Rows

variable {c : Catalog} {r : Relationship} {row : Datum}

/-- Names that agree are the same to every look-up. -/
theorem sameLetters_congr_right {s t : String} (h : Text.sameLetters s t = true) (u : String) :
    Text.sameLetters u t = Text.sameLetters u s := by
  have hlower : Text.lower s = Text.lower t := by simpa [Text.sameLetters] using h
  rw [Text.sameLetters, Text.sameLetters, hlower]

/-- The place of what the look-ups of a row find, which is also the place of its own names. -/
theorem exists_place?_of_find? {table column : String} {t : Table} {k : Column}
    (ht : c.findTable? table = some t) (hk : t.findColumn? column = some k) :
    ∃ i j, c.tables[i]? = some t ∧ t.columns[j]? = some k ∧
      c.place? table column = some (i, j) ∧ c.place? t.name k.name = some (i, j) := by
  unfold findTable? at ht
  split_ifs at ht
  unfold Table.findColumn? at hk
  rcases exists_findIdx?_of_find? ht with ⟨i, hi, hget⟩
  rcases exists_findIdx?_of_find? hk with ⟨j, hj, hgetk⟩
  have htname : Text.sameLetters t.name table = true := by simpa using List.find?_some ht
  have hkname : Text.sameLetters k.name column = true := by simpa using List.find?_some hk
  refine ⟨i, j, hget, hgetk, (place?_eq_some_iff hget).2 ⟨hi, hj⟩,
    (place?_eq_some_iff hget).2 ⟨?_, ?_⟩⟩
  · rw [← hi]
    simp only [sameLetters_congr_right htname]
  · rw [← hj]
    simp only [sameLetters_congr_right hkname]

theorem place?_eq_none_of_findTable? {table column : String} (hnamed : table ≠ "")
    (h : c.findTable? table = none) : c.place? table column = none := by
  rw [findTable?, if_neg hnamed] at h
  rw [place?, findIdx?_eq_none_of_find? h, Option.bind_none]

theorem place?_eq_none_of_findColumn? {table column : String} {t : Table}
    (ht : c.findTable? table = some t) (h : t.findColumn? column = none) :
    c.place? table column = none := by
  unfold findTable? at ht
  split_ifs at ht
  rcases exists_findIdx?_of_find? ht with ⟨i, hi, hget⟩
  rw [place?, hi, Option.bind_some, hget, Option.bind_some, findIdx?_eq_none_of_find? h,
    Option.map_none]

/-- A relationship whose column is not found adds nothing. -/
theorem completed_singleton_of_place? (h : c.place? r.fromTable r.fromColumn = none) :
    c.completed [r] = c :=
  completed_singleton_of_idle fun i t j k _ _ hplace => by simp [h] at hplace

/-- What a row with a table to start from adds. -/
theorem addRow_eq (hrow : r.Reads row) (hnamed : r.fromTable ≠ "") :
    c.addRow row = .ok (c.completed [r]) := by
  rcases hrow with ⟨fields, rfl, hfromTable, hfromColumn, htoTable, htoColumn⟩
  have htable : c.rowTable? fields = .ok (c.findTable? r.fromTable) := by
    simp [rowTable?, hfromTable, Datum.isPresent, hnamed, rowName, Except.map]
  have htarget : decodeReference [("table", .text r.toTable),
      ("column", (fields.lookup "to_column").getD (.text ""))] = .ok r.target := by
    rw [htoColumn]
    cases hfar : r.toColumn <;>
      simp [decodeReference, required, Decoder.text, Decoded.under, Decoded.both, Except.map,
        Except.mapError, List.lookup, Relationship.target, hfar]
  simp only [addRow, htable, hfromColumn, htoTable, Option.getD_some]
  cases ht : c.findTable? r.fromTable with
  | none =>
      rw [completed_singleton_of_place? (place?_eq_none_of_findTable? hnamed ht)]
      rfl
  | some t =>
      cases hk : t.findColumn? r.fromColumn with
      | none =>
          rw [completed_singleton_of_place? (place?_eq_none_of_findColumn? ht hk)]
          simp [rowName, hk, bind, Except.bind]
      | some k =>
          rcases exists_place?_of_find? ht hk with ⟨i, j, hti, hkj, hplace, hnames⟩
          simp only [bind, Except.bind, rowName, hk]
          split_ifs with hopen
          · have hlacks : k.foreignKey = none := by simp_all
            have hsomewhere : r.toTable ≠ "" := by simp_all [Datum.isPresent]
            rw [htarget, completed_singleton_of_lacking hti hkj hplace hsomewhere hlacks]
            simp only [link_eq, hnames, hplace]
          · -- The column that is found is the only one that the row concerns.
            rw [completed_singleton_of_idle]
            intro i' t' j' k' hti' hkj' hplace'
            rw [hplace] at hplace'
            rcases Prod.mk.inj (Option.some.inj hplace') with ⟨rfl, rfl⟩
            obtain rfl := Option.some.inj (hti.symm.trans hti')
            obtain rfl := Option.some.inj (hkj.symm.trans hkj')
            by_cases hnowhere : r.toTable = ""
            · exact .inl hnowhere
            · refine .inr ?_
              simpa [Datum.isPresent, hnowhere, Option.isSome_iff_ne_none] using hopen

/-- A row without a table to start from adds nothing. -/
theorem addRow_of_nameless (hrow : r.Reads row) (hnameless : r.fromTable = "") :
    c.addRow row = .ok c := by
  rcases hrow with ⟨fields, rfl, hfromTable, _⟩
  have htable : c.rowTable? fields = .ok none := by
    simp [rowTable?, hfromTable, Datum.isPresent, hnameless]
  rw [addRow, htable]
  rfl

/-- What all rows add.  The invariant is that the catalog is the one at the start, completed by the
rows so far. -/
theorem foldlM_addRow {rs : List Relationship} {data : List Datum}
    (h : List.Forall₂ Relationship.Reads rs data) :
    data.foldlM addRow c = .ok (c.completed (rs.filter fun r => r.fromTable != "")) := by
  induction h generalizing c with
  | nil =>
      rw [List.filter_nil, completed_nil]
      rfl
  | @cons r row rs data hrow _ ih =>
      rw [List.foldlM_cons]
      by_cases hnamed : r.fromTable = ""
      · rw [addRow_of_nameless hrow hnamed, List.filter_cons_of_neg (by simp [hnamed])]
        exact ih
      · have hsplit : c.completed (r :: rs.filter fun r => r.fromTable != "") =
            (c.completed [r]).completed (rs.filter fun r => r.fromTable != "") := by
          rw [completed_completed, List.singleton_append]
        rw [addRow_eq hrow hnamed, List.filter_cons_of_pos (by simp [hnamed]), hsplit]
        exact ih

end Rows

/-! ## Payloads -/

/-- Only the rows for one column compete, so that the order between others is no matter. -/
theorem completed_congr {c : Catalog} {rs qs : List Relationship}
    (h : ∀ place, rs.filter (c.concerns place) = qs.filter (c.concerns place)) :
    c.completed rs = c.completed qs := by
  refine mapForeignKeys_congr fun i t j k _ _ => ?_
  have hfirst := congrArg (List.find? fun r => r.toTable != "") (h (i, j))
  simp only [List.find?_filter] at hfirst
  have hboth : ∀ r : Relationship, (c.concerns (i, j) r && r.toTable != "") =
      decide (c.concerns (i, j) r = true ∧ (r.toTable != "") = true) := by
    intro r
    rw [Bool.eq_iff_iff, Bool.and_eq_true, decide_eq_true_eq]
  simp only [hboth, hfirst]

theorem ofPayload_eq {payload : Datum} {declared : Catalog} {rs : List Relationship}
    (h : Describes payload declared rs) :
    ofPayload payload = .ok (declared.completed (rs.filter fun r => r.fromTable != "")) := by
  rcases h with ⟨fields, data, rfl, hdeclared, hrows, hreads⟩
  simp only [ofPayload, ofFields, hdeclared, hrows]
  exact foldlM_addRow hreads

/-- The rows that name a table to start from complete the catalog that a payload declares, each column
by its first row that leads somewhere.  Only the order among the rows for one column counts. -/
theorem ofPayload_completes {payload : Datum} {declared : Catalog} {rs : List Relationship} :
    Describes payload declared rs →
      ofPayload payload = .ok (declared.completed (rs.filter fun r => r.fromTable != "")) ∧
      ∀ payload' rs', Describes payload' declared rs' →
        (∀ place, rs'.filter (declared.concerns place) = rs.filter (declared.concerns place)) →
          ofPayload payload' = ofPayload payload := by
  intro h
  refine ⟨ofPayload_eq h, fun payload' rs' h' hsame => ?_⟩
  have hnamed : ∀ place,
      (rs'.filter fun r => r.fromTable != "").filter (declared.concerns place) =
        (rs.filter fun r => r.fromTable != "").filter (declared.concerns place) := by
    intro place
    rw [List.filter_comm, hsame, List.filter_comm]
  rw [ofPayload_eq h, ofPayload_eq h', completed_congr hnamed]

/-- Two tables share a name but for letter case, of which the rows reach the first one.  One column has
two rows after one that leads nowhere, another column has a key already. -/
theorem ofPayload_completes_of_shadowed_table :
    let tables : Datum := .list
      [.object [("name", .text "Staff"), ("columns", .list
        [.object [("name", .text "room")],
         .object [("name", .text "boss"), ("foreign_key", .object
           [("to_table", .text "staff"), ("to_column", .text "id")])]])],
       .object [("name", .text "staff"), ("columns", .list [.object [("name", .text "room")]])]]
    let row (column table far : String) : Datum := .object
      [("from_table", .text "STAFF"), ("from_column", .text column), ("to_table", .text table),
       ("to_column", .text far)]
    let payload (data : List Datum) : Datum :=
      .object [("data", .object [("tables", tables), ("relationships", .list data)])]
    let staff : Catalog.Table :=
      { name := "Staff"
        columns := [{ name := "room" }, { name := "boss", foreignKey := some ⟨"staff", "id"⟩ }] }
    let other : Catalog.Table := { name := "staff", columns := [{ name := "room" }] }
    let linked : Catalog.Table :=
      { name := "Staff"
        columns := [{ name := "room", foreignKey := some ⟨"rooms", "no"⟩ },
          { name := "boss", foreignKey := some ⟨"staff", "id"⟩ }] }
    let rs : List Relationship :=
      [⟨"STAFF", "Room", "", some "x"⟩, ⟨"STAFF", "boss", "people", some "id"⟩,
        ⟨"STAFF", "room", "rooms", some "no"⟩, ⟨"STAFF", "ROOM", "halls", some "no"⟩]
    let data := rs.map fun r => row r.fromColumn r.toTable (r.toColumn.getD "")
    Describes (payload data) { tables := [staff, other] } rs ∧
      ofPayload (payload data) = .ok { tables := [linked, other] } := by
  intro tables row payload staff other linked rs data
  have h : Describes (payload data) { tables := [staff, other] } rs := by
    refine ⟨_, data, rfl, ?_, rfl, ?_⟩
    · rfl
    · refine .cons ?_ (.cons ?_ (.cons ?_ (.cons ?_ .nil))) <;>
        exact ⟨_, rfl, rfl, rfl, rfl, rfl⟩
  refine ⟨h, (ofPayload_completes h).1.trans ?_⟩
  decide +kernel

/-- A row does not reach a table without a name, although the empty name agrees with its name. -/
theorem nameless_table_gets_no_key :
    let payload : Datum := .object
      [("tables", .list
        [.object [("name", .text ""), ("columns", .list [.object [("name", .text "a")]])]]),
       ("relationships", .list
        [.object [("from_table", .text ""), ("from_column", .text "a"), ("to_table", .text "t"),
          ("to_column", .text "b")]])]
    let declared : Catalog := { tables := [{ name := "", columns := [{ name := "a" }] }] }
    let rs : List Relationship := [⟨"", "a", "t", some "b"⟩]
    Describes payload declared rs ∧ ofPayload payload ≠ .ok (declared.completed rs) := by
  intro payload declared rs
  refine ⟨⟨_, _, rfl, rfl, rfl, .cons ⟨_, rfl, rfl, rfl, rfl, rfl⟩ .nil⟩, ?_⟩
  decide +kernel

end Catalog

end QueryDesigner
