import Mathlib
import QueryDesigner.Canvas.Columns
import QueryDesigner.Canvas.Ordering
import QueryDesigner.Canvas.Predicates

/-!
# Outcomes of edits

An edit is written as a program with several exits.  This module says once, for each edit, what
comes of it on a given canvas:

* `Edit.run_requireTable`, `Edit.run_itemAt`, `Edit.run_revised` and so on — the steps that look at
  the canvas and leave it alone;
* `Canvas.incoming`, `Canvas.withTable` — the table that comes in, and the canvas with it;
* `Edit.run_addTable`, `Edit.run_setAlias`, … — each edit as a case distinction, in which every
  failure shows the canvas that it leaves.
-/

namespace QueryDesigner

namespace Edit

variable {α : Type}

/-! ## Steps -/

@[simp] theorem run_reject (r : Rejection) (c : Canvas) :
    (reject r : Edit α).run c = .error (.rejected r) c := rfl

@[simp] theorem run_throw (f : Failure) (c : Canvas) :
    (throw f : Edit α).run c = .error f c := rfl

@[simp] theorem run_modifyQuery (f : Query → Query) (c : Canvas) :
    (modifyQuery f).run c = .ok () { c with query := f c.query } := rfl

theorem run_discard (e : Edit α) (c : Canvas) :
    (discard e).run c =
      match e.run c with
      | .ok _ c' => .ok () c'
      | .error f c' => .error f c' := by
  unfold Functor.discard
  rw [map_const, Function.comp_apply, EStateM.run_map]
  cases e.run c <;> rfl

theorem run_requireTable (key : String) (c : Canvas) :
    (requireTable key).run c =
      match c.query.findTable? key with
      | some table => .ok table c
      | none => .error (.rejected (.unknownTable key)) c := by
  cases h : c.query.findTable? key <;> simp [requireTable, h]

theorem run_itemAt (what : String) (items : List α) (index : Int) (c : Canvas) :
    (itemAt what items index).run c =
      match itemAt? items index with
      | some item => .ok item c
      | none => .error (.rejected (.badChange (.noItem what index))) c := by
  cases h : itemAt? items index <;> simp [itemAt, h]

theorem run_resolvedColumns (key : String) (c : Canvas) :
    (resolvedColumns key).run c =
      match c.resolvedColumns? key with
      | some columns => .ok columns c
      | none => .error (.rejected (.unknownTable key)) c := by
  cases h : c.resolvedColumns? key <;> simp [resolvedColumns, h]

theorem run_requireEnds (join : Join) (c : Canvas) :
    (requireEnds join).run c =
      match c.query.findTable? join.leftTable, c.query.findTable? join.rightTable with
      | some _, some _ => .ok () c
      | some _, none => .error (.rejected (.unknownTable join.rightTable)) c
      | none, _ => .error (.rejected (.unknownTable join.leftTable)) c := by
  cases hl : c.query.findTable? join.leftTable <;>
    cases hr : c.query.findTable? join.rightTable <;>
      simp [requireEnds, run_requireTable, hl, hr]

theorem run_refuseReserved (edit : String) (changes : List (String × Datum)) (c : Canvas) :
    (refuseReserved edit changes).run c =
      match changes.find? fun change => reservedNames.contains change.1 with
      | some change => .error (.reservedName edit change.1) c
      | none => .ok () c := by
  unfold refuseReserved
  cases changes.find? fun change => reservedNames.contains change.1 <;> rfl

/-- What comes of a part with some of its fields replaced. -/
def revision (part : String) (decode : Validation.Decoder α)
    (fields changes : List (String × Datum)) : Except Rejection α :=
  let unknown := unknownNames (fields.map Prod.fst) (changes.map Prod.fst)
  if unknown ≠ [] then .error (.badChange (.unknownFields unknown))
  else
    match decode (.object (overrideFields fields changes)) with
    | .ok value => .ok value
    | .error issues => .error (.badChange (.badUpdate part (firstFault issues)))

theorem run_revised (part : String) (decode : Validation.Decoder α)
    (fields changes : List (String × Datum)) (c : Canvas) :
    (revised part decode fields changes).run c =
      match revision part decode fields changes with
      | .ok value => .ok value c
      | .error r => .error (.rejected r) c := by
  unfold revised revision
  by_cases hu : unknownNames (fields.map Prod.fst) (changes.map Prod.fst) = []
  · cases decode (.object (overrideFields fields changes)) <;> simp [hu]
  · simp [hu]

/-- What comes of a limit or an offset that is asked for. -/
def countOf (paging : Paging) : Option Int → Except Rejection (Option Nat)
  | none => .ok none
  | some n =>
    if n < 0 then .error (.badChange (.negative paging.text)) else .ok (some n.toNat)

end Edit

/-! ## Edits of the tables -/

namespace Query

/-- The query with a part of its page set. -/
def withPaging (q : Query) (paging : Paging) (count : Option Nat) : Query :=
  match paging with
  | .limit => { q with limit := count }
  | .offset => { q with offset := count }

end Query

namespace Canvas

/-- The table that comes in under a name: where the name is taken, with an alias of its own. -/
def incoming (c : Canvas) (name : String) : TableRef :=
  ⟨name, if c.query.usesName name then some (c.query.selfJoinAlias name) else none, c.nextOrdinal⟩

/-- The canvas with one more table. -/
def withTable (c : Canvas) (table : TableRef) : Canvas :=
  { c with query := c.query.withTable table, nextOrdinal := c.nextOrdinal + 1 }

/-- The name under which a table comes in: trimmed, and spelled as in the catalog. -/
def nameFor (c : Canvas) (name : String) : String := c.canonicalName (Text.trim name)

/-- The columns that a table of the canvas contributes. -/
def columnsOf (c : Canvas) (key : String) : List String := (c.resolvedColumns? key).getD []

/-- The canvas with another selection of a table. -/
def withSelection (c : Canvas) (key : String) (s : Selection) : Canvas :=
  { c with query := c.query.withSelection key s }

end Canvas

namespace Query

/-- A table that is found by a key has that key, and no table before it has. -/
theorem findTable?_split {q : Query} {key : String} {table : TableRef} :
    q.findTable? key = some table →
      table.key = key ∧ ∃ before after, q.tables = before ++ table :: after ∧
        ∀ t ∈ before, t.key ≠ key := by
  intro h
  rcases List.find?_eq_some_iff_append.1 h with ⟨hkey, before, after, hsplit, hbefore⟩
  refine ⟨by simpa using hkey, before, after, hsplit, ?_⟩
  intro t ht
  simpa using hbefore t ht

theorem hasTable_iff {q : Query} {key : String} : q.hasTable key = true ↔ key ∈ q.tableKeys := by
  simp [hasTable, findTable?, tableKeys]

/-- The table that a rename is about is found under its new key. -/
theorem findTable?_renamed {q : Query} {old new : String} {aliasName : Option String}
    {table : TableRef} :
    q.findTable? old = some table → new ∉ q.tableKeys →
      ({ table with aliasName } : TableRef).key = new →
        (q.renamed old new aliasName).findTable? new = some { table with aliasName } := by
  intro hfind hfree hnew
  rcases findTable?_split hfind with ⟨hkey, before, after, hsplit, hbefore⟩
  have hold : ∀ t ∈ before, (if t.key = old then { t with aliasName } else t) = t := by
    intro t ht
    simp [hbefore t ht]
  have hskip : ∀ t ∈ before, (t.key == new) = false := by
    intro t ht
    have hmem : t.key ∈ q.tableKeys :=
      List.mem_map.2 ⟨t, by simp [hsplit, ht], rfl⟩
    have hne : t.key ≠ new := fun h => hfree (h ▸ hmem)
    simpa using hne
  have htables : (q.renamed old new aliasName).tables =
      before ++ { table with aliasName } ::
        after.map fun t => if t.key = old then { t with aliasName } else t := by
    simp only [renamed, hsplit, List.map_append, List.map_cons, hkey, if_true]
    rw [List.map_congr_left hold, List.map_id']
  unfold findTable?
  rw [htables, List.find?_append, List.find?_eq_none.2 (by simpa using hskip)]
  simp [hnew]

end Query

namespace TableRef

/-- The key of a table with a requested alias: the alias, or the name where none is asked for. -/
theorem key_requestedAlias (t : TableRef) (aliasName : Option String) :
    ({ t with aliasName := Edit.requestedAlias aliasName } : TableRef).key =
      (Edit.requestedAlias aliasName).getD t.name := by
  cases aliasName with
  | none =>
      rfl
  | some s =>
      by_cases h : Text.trim s = "" <;> simp [Edit.requestedAlias, key, aliasOf, h]

end TableRef

namespace Edit

theorem run_addTable (name : String) (forced : Bool) (c : Canvas) :
    (addTable name forced).run c =
      if Text.trim name = "" then .error (.rejected (.badChange .nameMissing)) c
      else if c.query.usesName (c.nameFor name) && !forced then
        .error (.rejected (.duplicateTable (c.nameFor name))) c
      else .ok (c.incoming (c.nameFor name)) (c.withTable (c.incoming (c.nameFor name))) := by
  unfold addTable Canvas.incoming Canvas.withTable Canvas.nameFor
  by_cases hblank : Text.trim name = ""
  · simp [hblank]
  · cases hused : c.query.usesName (c.canonicalName (Text.trim name)) <;> cases forced <;>
      simp [hblank, hused]

theorem run_removeTable (key : String) (c : Canvas) :
    (removeTable key).run c =
      match c.query.findTable? key with
      | some _ => .ok () { c with query := c.query.withoutTable key }
      | none => .error (.rejected (.unknownTable key)) c := by
  cases h : c.query.findTable? key <;> simp [removeTable, run_requireTable, h]

/-- A new alias is either the key that the table has already, or taken, or it becomes the key.  After
the rename the table is there, so that the last look-up never fails. -/
theorem run_setAlias (key : String) (aliasName : Option String) (c : Canvas) :
    (setAlias key aliasName).run c =
      match c.query.findTable? key with
      | none => .error (.rejected (.unknownTable key)) c
      | some table =>
        let aliasName := requestedAlias aliasName
        let newKey := aliasName.getD table.name
        if newKey = key then
          .ok { table with aliasName } { c with query := c.query.withAlias key aliasName }
        else if c.query.tableKeys.contains newKey then
          .error (.rejected (.aliasCollision newKey)) c
        else
          .ok { table with aliasName } { c with query := c.query.renamed key newKey aliasName } := by
  cases hfind : c.query.findTable? key with
  | none =>
      simp [setAlias, run_requireTable, hfind]
  | some table =>
      by_cases hsame : (requestedAlias aliasName).getD table.name = key
      · simp [setAlias, run_requireTable, hfind, hsame]
      · by_cases hused : (requestedAlias aliasName).getD table.name ∈ c.query.tableKeys
        · simp [setAlias, run_requireTable, hfind, hsame, hused]
        · have hfound := Query.findTable?_renamed hfind hused
            (TableRef.key_requestedAlias table aliasName)
          simp [setAlias, run_requireTable, hfind, hsame, hused, hfound]

/-- A table that gets an alias keeps its key, or its new key was free. -/
theorem of_run_setAlias {key : String} {aliasName : Option String} {table : TableRef}
    {c c' : Canvas} :
    (setAlias key aliasName).run c = .ok table c' →
      ∃ t, c.query.findTable? key = some t ∧
        table = { t with aliasName := requestedAlias aliasName } ∧
        (table.key = key ∧
            c' = { c with query := c.query.withAlias key (requestedAlias aliasName) } ∨
          table.key ≠ key ∧ table.key ∉ c.query.tableKeys ∧
            c' = { c with
              query := c.query.renamed key table.key (requestedAlias aliasName) }) := by
  intro hrun
  rw [run_setAlias] at hrun
  cases hfind : c.query.findTable? key with
  | none =>
      simp [hfind] at hrun
  | some t =>
      have hkey := TableRef.key_requestedAlias t aliasName
      simp only [hfind] at hrun
      split_ifs at hrun with hsame hused
      · rcases EStateM.Result.ok.inj hrun with ⟨rfl, rfl⟩
        exact ⟨t, rfl, rfl, .inl ⟨hkey.trans hsame, rfl⟩⟩
      · rcases EStateM.Result.ok.inj hrun with ⟨rfl, rfl⟩
        refine ⟨t, rfl, rfl, .inr ⟨?_, ?_, ?_⟩⟩
        · rwa [hkey]
        · rw [hkey]
          simpa using hused
        · rw [hkey]

theorem run_reorderTables (keys : List String) (c : Canvas) :
    (reorderTables keys).run c =
      if keys.isPerm c.query.tableKeys then .ok () { c with query := c.query.inOrder keys }
      else .error (.rejected (.badChange .tableOrder)) c := by
  by_cases h : keys.isPerm c.query.tableKeys = true <;> simp [reorderTables, h]

/-! ## Edits of the selected columns -/

theorem run_tableForToggle (key : String) (c : Canvas) :
    (tableForToggle key).run c =
      if c.query.hasTable key then .ok key c
      else if (c.catalog.bind fun catalog => catalog.findTable? key).isSome then
        match (addTable key false).run c with
        | .ok table c' => .ok table.key c'
        | .error f c' => .error f c'
      else .error (.rejected (.unknownTable key)) c := by
  unfold tableForToggle
  by_cases hthere : c.query.hasTable key = true
  · simp [hthere]
  · by_cases hknown : (c.catalog.bind fun catalog => catalog.findTable? key).isSome = true
    · simp [hthere, hknown]
      cases (addTable key false).run c <;> rfl
    · simp [hthere, hknown]

theorem run_setColumns (key : String) (columns : Option (List String)) (c : Canvas) :
    (setColumns key columns).run c =
      match c.query.findTable? key with
      | some _ => .ok () (c.withSelection key (selectionOf columns))
      | none => .error (.rejected (.unknownTable key)) c := by
  cases h : c.query.findTable? key <;>
    simp [setColumns, run_requireTable, h, Canvas.withSelection]

/-- The table of a toggle is there before its columns are looked up. -/
theorem hasTable_of_run_tableForToggle {key k : String} {c c' : Canvas} :
    (tableForToggle key).run c = .ok k c' → c'.query.hasTable k = true := by
  intro h
  rw [run_tableForToggle] at h
  by_cases hthere : c.query.hasTable key = true
  · simp only [hthere, if_true, EStateM.Result.ok.injEq] at h
    rcases h with ⟨rfl, rfl⟩
    exact hthere
  · by_cases hknown : (c.catalog.bind fun catalog => catalog.findTable? key).isSome = true
    · simp only [hthere, hknown, if_true, run_addTable, Bool.false_eq_true, if_false] at h
      split_ifs at h
      rcases EStateM.Result.ok.inj h with ⟨rfl, rfl⟩
      rw [Query.hasTable_iff]
      simp [Canvas.withTable, Query.withTable, Query.tableKeys]
    · simp [hthere, hknown] at h

theorem run_toggleColumn (key column : String) (c : Canvas) :
    (toggleColumn key column).run c =
      match (tableForToggle key).run c with
      | .ok k c' =>
        .ok (!(c'.columnsOf k).contains column)
          (c'.withSelection k (.only (toggled (c'.columnsOf k) column)))
      | .error f c' => .error f c' := by
  cases hkey : (tableForToggle key).run c with
  | error f c' =>
      simp [toggleColumn, hkey]
  | ok k c' =>
      have hthere := hasTable_of_run_tableForToggle hkey
      have hsome : (c'.resolvedColumns? k).isSome = true := by
        simpa [Canvas.resolvedColumns?, Query.hasTable] using hthere
      rcases Option.isSome_iff_exists.1 hsome with ⟨columns, hcolumns⟩
      simp [toggleColumn, hkey, run_resolvedColumns, hcolumns, Canvas.columnsOf,
        Canvas.withSelection]

theorem run_selectAll (c : Canvas) :
    selectAll.run c = .ok () { c with query := c.query.withEverySelection .every } := rfl

theorem run_selectNone (c : Canvas) :
    selectNone.run c = .ok () { c with query := c.query.withEverySelection (.only []) } := rfl

/-! ## Edits of joins and conditions -/

theorem run_addJoin (join : Join) (c : Canvas) :
    (addJoin join).run c =
      match (requireEnds join).run c with
      | .ok _ _ => .ok join { c with query := { c.query with joins := c.query.joins ++ [join] } }
      | .error f _ => .error f c := by
  unfold addJoin
  rw [EStateM.run_bind, run_requireEnds]
  cases c.query.findTable? join.leftTable <;> cases c.query.findTable? join.rightTable <;> simp

theorem run_updateJoin (index : Int) (changes : List (String × Datum)) (c : Canvas) :
    (updateJoin index changes).run c =
      match changes.find? fun change => reservedNames.contains change.1 with
      | some change => .error (.reservedName "update_join" change.1) c
      | none =>
        match itemAt? c.query.joins index with
        | none => .error (.rejected (.badChange (.noItem "join" index))) c
        | some current =>
          match revision "JoinSpec" Join.decode current.fields changes with
          | .error r => .error (.rejected r) c
          | .ok updated =>
            match (requireEnds updated).run c with
            | .ok _ _ =>
              .ok updated
                { c with query := { c.query with joins := c.query.joins.set index.toNat updated } }
            | .error f _ => .error f c := by
  unfold updateJoin
  rw [EStateM.run_bind, run_refuseReserved]
  cases changes.find? fun change => reservedNames.contains change.1 with
  | some change =>
      rfl
  | none =>
      cases hitem : itemAt? c.query.joins index with
      | none =>
          simp [run_itemAt, hitem]
      | some current =>
          cases hrev : revision "JoinSpec" Join.decode current.fields changes with
          | error r =>
              simp [run_itemAt, hitem, run_revised, hrev]
          | ok updated =>
              cases hl : c.query.findTable? updated.leftTable <;>
                cases hr : c.query.findTable? updated.rightTable <;>
                  simp [run_itemAt, hitem, run_revised, hrev, run_requireEnds, hl, hr]

theorem run_removeJoin (index : Int) (c : Canvas) :
    (removeJoin index).run c =
      match itemAt? c.query.joins index with
      | none => .error (.rejected (.badChange (.noItem "join" index))) c
      | some current =>
        .ok current
          { c with query := { c.query with joins := c.query.joins.eraseIdx index.toNat } } := by
  cases hitem : itemAt? c.query.joins index <;> simp [removeJoin, run_itemAt, hitem]

theorem run_addCondition (condition : Condition) (c : Canvas) :
    (addCondition condition).run c =
      .ok condition
        { c with query := { c.query with conditions := c.query.conditions ++ [condition] } } := rfl

theorem run_updateCondition (index : Int) (changes : List (String × Datum)) (c : Canvas) :
    (updateCondition index changes).run c =
      match changes.find? fun change => reservedNames.contains change.1 with
      | some change => .error (.reservedName "update_condition" change.1) c
      | none =>
        match itemAt? c.query.conditions index with
        | none => .error (.rejected (.badChange (.noItem "condition" index))) c
        | some current =>
          match revision "ConditionSpec" Condition.decode current.fields changes with
          | .error r => .error (.rejected r) c
          | .ok updated =>
            .ok updated
              { c with
                query :=
                  { c.query with
                    conditions := c.query.conditions.set index.toNat updated } } := by
  unfold updateCondition
  rw [EStateM.run_bind, run_refuseReserved]
  cases changes.find? fun change => reservedNames.contains change.1 with
  | some change =>
      rfl
  | none =>
      cases hitem : itemAt? c.query.conditions index with
      | none =>
          simp [run_itemAt, hitem]
      | some current =>
          cases hrev : revision "ConditionSpec" Condition.decode current.fields changes <;>
            simp [run_itemAt, hitem, run_revised, hrev]

theorem run_removeCondition (index : Int) (c : Canvas) :
    (removeCondition index).run c =
      match itemAt? c.query.conditions index with
      | none => .error (.rejected (.badChange (.noItem "condition" index))) c
      | some current =>
        .ok current
          { c with
            query := { c.query with conditions := c.query.conditions.eraseIdx index.toNat } } := by
  cases hitem : itemAt? c.query.conditions index <;> simp [removeCondition, run_itemAt, hitem]

/-! ## Edits of order, groups and paging -/

theorem run_addOrderWith (column : String) (direction : Validation.Decoded Direction)
    (c : Canvas) :
    (addOrderWith column direction).run c =
      match c.query.findOrder? column with
      | some existing => .ok existing c
      | none =>
        match direction with
        | .error issues => .error (.malformed issues) c
        | .ok direction =>
          .ok ⟨column, direction⟩
            { c with
              query := { c.query with orderBy := c.query.orderBy ++ [⟨column, direction⟩] } } := by
  cases hfind : c.query.findOrder? column <;> cases direction <;> simp [addOrderWith, hfind]

theorem run_removeOrder (column : String) (c : Canvas) :
    (removeOrder column).run c =
      .ok ()
        { c with
          query :=
            { c.query with
              orderBy := c.query.orderBy.filter fun o => o.column != column } } := rfl

theorem run_toggleDirection (column : String) (c : Canvas) :
    (toggleDirection column).run c =
      match c.query.findOrder? column with
      | none => .error (.rejected (.badChange (.notOrdered column))) c
      | some order =>
        .ok { order with direction := order.direction.flip }
          { c with query := c.query.withFlippedOrder column } := by
  cases hfind : c.query.findOrder? column <;> simp [toggleDirection, hfind]

theorem run_addGroup (column : String) (c : Canvas) :
    (addGroup column).run c =
      .ok ()
        { c with
          query :=
            if c.query.groupBy.contains column then c.query
            else { c.query with groupBy := c.query.groupBy ++ [column] } } := rfl

theorem run_removeGroup (column : String) (c : Canvas) :
    (removeGroup column).run c =
      .ok ()
        { c with
          query :=
            { c.query with groupBy := c.query.groupBy.filter fun g => g != column } } := rfl

theorem run_setPaging (paging : Paging) (count : Option Int) (c : Canvas) :
    (setPaging paging count).run c =
      match countOf paging count with
      | .ok count => .ok () { c with query := c.query.withPaging paging count }
      | .error r => .error (.rejected r) c := by
  cases count with
  | none =>
      rfl
  | some n =>
      by_cases hn : n < 0
      · simp [setPaging, nonNegative, countOf, hn]
      · simp only [setPaging, nonNegative, countOf, hn, if_false]
        rfl

theorem run_setPagingFrom (paging : Paging) (value : Datum) (c : Canvas) :
    (setPagingFrom paging value).run c =
      match readCount paging value with
      | .ok count => (setPaging paging count).run c
      | .error f => .error f c := by
  unfold setPagingFrom
  cases readCount paging value <;> rfl

theorem run_clear (c : Canvas) : clear.run c = .ok () { c with query := {} } := rfl

theorem run_attachCatalog (catalog : Option Catalog) (c : Canvas) :
    (attachCatalog catalog).run c = .ok () { c with catalog } := rfl

end Edit

end QueryDesigner
