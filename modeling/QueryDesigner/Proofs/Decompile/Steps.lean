import QueryDesigner.Decompile.Statement
import QueryDesigner.Proofs.Canvas.Outcome
import QueryDesigner.Proofs.Invariant

/-!
# The steps of reading a statement

* `Reading.run_attempt?`, `Reading.run_keyOf?`, `Reading.run_resolveTable`, … — the small steps as
  equations;
* `Reading.Remarks` — a program that does nothing but warn;
* `Reading.Stable`, `Reading.preserves_edit` — a property that an edit on the way leaves alone;
* `Reading.TableStable` — a property that the warnings and edits of the tables and joins leave
  alone, and `Reading.preserves_readTables`;
* `Reading.ClauseStable` — one that those of the other clauses leave alone, the conditions apart,
  and `Reading.preserves_readItems`, `Reading.preserves_readRest`;
* `Reading.RestStable` — one that may depend on the SELECT list, but not on the clauses after it.
-/

namespace QueryDesigner

/-- The warning says that a predicate of a WHERE clause is dropped. -/
def Warning.dropsPredicate : Warning → Bool
  | disjunction _ => true
  | condition _ => true
  | _ => false

namespace Reading

variable {α β : Type} {P : Draft → Prop}

/-! ## Small steps -/

theorem run_warn (w : Warning) (d : Draft) :
    (warn w).run d = .ok () { d with warnings := d.warnings ++ [w] } := rfl

theorem run_attempt? (e : Edit α) (d : Draft) :
    (attempt? e).run d =
      match e.run d.canvas with
      | .ok a canvas => .ok (.ok a) { d with canvas }
      | .error (.rejected rejection) canvas => .ok (.error rejection) { d with canvas }
      | .error failure canvas => .error failure { d with canvas } := by
  cases hrun : e.run d.canvas with
  | ok a canvas =>
      simp [attempt?, hrun]
  | error failure canvas =>
      cases failure <;> simp [attempt?, hrun] <;> rfl

theorem run_edit (e : Edit α) (d : Draft) :
    (edit e).run d =
      match e.run d.canvas with
      | .ok a canvas => .ok a { d with canvas }
      | .error failure canvas => .error failure { d with canvas } := by
  unfold edit
  rw [EStateM.run_bind, run_attempt?]
  cases hrun : e.run d.canvas with
  | ok a canvas =>
      rfl
  | error failure canvas =>
      cases failure <;> rfl

/-- An attempt that does not end the reading leaves behind what the edit leaves behind. -/
theorem eq_of_run_attempt? {e : Edit α} {result : Except Rejection α} {d d' : Draft} :
    (attempt? e).run d = .ok result d' → d' = { d with canvas := finalState (e.run d.canvas) } := by
  intro hrun
  rw [run_attempt?] at hrun
  split at hrun <;> rename_i hedit <;> cases hrun <;> rw [hedit] <;> rfl

/-- An edit of its canvas leaves a property of a draft alone. -/
def Stable (P : Draft → Prop) (e : Edit α) : Prop :=
  ∀ d, P d → P { d with canvas := finalState (e.run d.canvas) }

theorem preserves_attempt? {e : Edit α} (he : Stable P e) : Preserves P (attempt? e) := by
  intro d hd
  have hcanvas := he d hd
  rw [run_attempt?]
  split <;> rename_i hrun <;> rw [hrun] at hcanvas <;> exact hcanvas

theorem preserves_edit {e : Edit α} (he : Stable P e) : Preserves P (edit e) := by
  intro d hd
  have hcanvas := he d hd
  rw [run_edit]
  split <;> rename_i hrun <;> rw [hrun] at hcanvas <;> exact hcanvas

/-! ## Names -/

theorem run_keyOf? (name : String) (d : Draft) :
    (keyOf? name).run d =
      .ok (if name = "" then none else d.keys.lookup (Text.lower name)) d := by
  unfold keyOf?
  split_ifs <;> rfl

theorem run_resolveColumn (key column : String) (d : Draft) :
    ∃ resolved, (resolveColumn key column).run d = .ok resolved d := ⟨_, rfl⟩

theorem run_seenKey? (table : NamedTable) (d : Draft) :
    ∃ key, (seenKey? table).run d = .ok key d := by
  unfold seenKey?
  split_ifs
  · exact ⟨_, rfl⟩
  · exact ⟨_, run_keyOf? _ d⟩

theorem preserves_keyOf? (name : String) : Preserves P (keyOf? name) := by
  intro d hd
  rw [run_keyOf?]
  exact hd

theorem preserves_resolveColumn (key column : String) : Preserves P (resolveColumn key column) :=
  fun _ hd => hd

/-! ## Remarks -/

/-- The program changes nothing but the warnings, and what it reports is not that a predicate is
dropped. -/
def Remarks (x : Reading α) : Prop :=
  ∀ d, ∃ a reported, x.run d = .ok a { d with warnings := d.warnings ++ reported } ∧
    ∀ w ∈ reported, w.dropsPredicate = false

namespace Remarks

theorem pure (a : α) : Remarks (Pure.pure a) := fun d => ⟨a, [], by simp, by simp⟩

theorem warn {w : Warning} (hw : w.dropsPredicate = false) : Remarks (warn w) := by
  intro d
  exact ⟨(), [w], rfl, by simpa using hw⟩

theorem bind {x : Reading α} {f : α → Reading β} (hx : Remarks x) (hf : ∀ a, Remarks (f a)) :
    Remarks (x >>= f) := by
  intro d
  rcases hx d with ⟨a, first, hrun, hfirst⟩
  rcases hf a { d with warnings := d.warnings ++ first } with ⟨b, second, hrun', hsecond⟩
  refine ⟨b, first ++ second, ?_, ?_⟩
  · rw [EStateM.run_bind, hrun]
    simpa using hrun'
  · intro w hw
    exact (List.mem_append.1 hw).elim (hfirst w) (hsecond w)

theorem keyOf? (name : String) : Remarks (keyOf? name) := by
  intro d
  exact ⟨_, [], by simpa using run_keyOf? name d, by simp⟩

theorem resolveColumn (key column : String) : Remarks (resolveColumn key column) := by
  intro d
  rcases run_resolveColumn key column d with ⟨resolved, hrun⟩
  exact ⟨resolved, [], by simpa using hrun, by simp⟩

theorem columnRef (table column shown : String) (keepsUnknown : Bool) :
    Remarks (columnRef table column shown keepsUnknown) := by
  have hknown : ∀ key, Remarks (do
      return Reference.qualified key (← Reading.resolveColumn key column) : Reading String) :=
    fun key => (resolveColumn key column).bind fun _ => .pure _
  unfold Reading.columnRef
  split_ifs
  · exact .pure _
  · refine (keyOf? table).bind fun found => ?_
    cases found with
    | some key =>
        exact hknown key
    | none =>
        exact (warn rfl).bind fun _ => .pure _
  · refine (keyOf? table).bind fun found => ?_
    cases found with
    | some key =>
        exact hknown key
    | none =>
        exact .pure _

theorem valueOf (predicate : Sql.Expr) (source : ValueSource) :
    Remarks (valueOf predicate source) := by
  cases source with
  | none =>
      exact .pure _
  | text value =>
      exact .pure value
  | operand e =>
      simp only [Reading.valueOf]
      cases e.literalText? with
      | some value =>
          exact .pure value
      | none =>
          dsimp only
          split_ifs
          · exact (warn rfl).bind fun _ => .pure _
          · exact .pure _

/-- What warnings leave alone, a program that only remarks leaves alone. -/
theorem preserves {x : Reading α} (hx : Remarks x)
    (hwarn : ∀ w : Warning, w.dropsPredicate = false → Preserves P (Reading.warn w)) :
    Preserves P x := by
  intro d hd
  rcases hx d with ⟨a, reported, hrun, hreported⟩
  rw [hrun]
  clear hrun
  induction reported generalizing d with
  | nil =>
      simpa [finalState] using hd
  | cons w rest ih =>
      have hrest := ih { d with warnings := d.warnings ++ [w] }
        (hwarn w (hreported w List.mem_cons_self) d hd)
        fun v hv => hreported v (List.mem_cons_of_mem w hv)
      simpa [finalState] using hrest

end Remarks

/-! ## Tables and joins -/

/-- The draft in which a table of the statement has been looked up. -/
def withResolved (d : Draft) (table : NamedTable) : Draft :=
  { d with
    warnings := d.warnings ++ if table.hasQualifier then [.qualifier table.shown] else []
    unresolved :=
      if (d.canvas.catalog.bind fun catalog => catalog.findTable? table.name).isSome ||
          d.unresolved.contains table.name then
        d.unresolved
      else d.unresolved ++ [table.name] }

theorem run_resolveTable (table : NamedTable) (d : Draft) :
    (resolveTable table).run d =
      .ok (d.canvas.canonicalName table.name) (withResolved d table) := by
  cases hqualifier : table.hasQualifier <;>
    cases hfind : d.canvas.catalog.bind fun catalog => catalog.findTable? table.name <;>
      by_cases hin : table.name ∈ d.unresolved <;>
        simp [resolveTable, withResolved, warn, Canvas.canonicalName, hqualifier, hfind, hin]

/-- A property of drafts that is left alone by all warnings but those about dropped predicates, by
the edits that bring in tables and joins, and by the names that the statement goes by. -/
structure TableStable (P : Draft → Prop) : Prop where
  warn : ∀ w : Warning, w.dropsPredicate = false → Preserves P (warn w)
  addTable : ∀ name forced, Stable P (Edit.addTable name forced)
  setAlias : ∀ key aliasName, Stable P (Edit.setAlias key aliasName)
  addJoin : ∀ join, Stable P (Edit.addJoin join)
  names : ∀ d unresolved keys, P d → P { d with unresolved, keys }

theorem preserves_resolveTable (h : TableStable P) (table : NamedTable) :
    Preserves P (resolveTable table) := by
  intro d hd
  rw [run_resolveTable]
  cases hqualifier : table.hasQualifier with
  | false =>
      simp only [finalState, withResolved, hqualifier, Bool.false_eq_true, if_false,
        List.append_nil]
      exact h.names d _ d.keys hd
  | true =>
      simp only [finalState, withResolved, hqualifier, if_true]
      exact h.names _ _ d.keys (h.warn (.qualifier table.shown) rfl d hd)

theorem preserves_bindName (h : TableStable P) (name key : String) :
    Preserves P (bindName name key) := by
  refine .modify fun d hd => ?_
  dsimp only
  split_ifs
  · exact hd
  · exact h.names d d.unresolved _ hd

theorem preserves_addTable (h : TableStable P) (name : String) (isAliased : Bool) :
    Preserves P (addTable name isAliased) := by
  refine (preserves_attempt? (h.addTable name false)).bind fun result => ?_
  cases result with
  | ok table =>
      exact .pure table
  | error rejection =>
      cases rejection with
      | duplicateTable _ =>
          refine (preserves_edit (h.addTable name true)).bind fun table => ?_
          split_ifs
          · exact (h.warn _ rfl).bind fun _ => .pure _
          · exact .pure _
      | _ =>
          exact .throw _

theorem preserves_giveAlias (h : TableStable P) (table : TableRef) (aliasName : String) :
    Preserves P (giveAlias table aliasName) := by
  unfold giveAlias
  split_ifs
  · exact .pure _
  · refine (preserves_attempt? (h.setAlias _ _)).bind fun result => ?_
    cases result with
    | ok table =>
        exact .pure table
    | error rejection =>
        cases rejection with
        | aliasCollision _ =>
            exact (h.warn _ rfl).bind fun _ => .pure _
        | _ =>
            exact .throw _

theorem preserves_registerTable (h : TableStable P) (table : NamedTable) :
    Preserves P (registerTable table) := by
  refine (preserves_resolveTable h table).bind fun name => ?_
  refine (preserves_addTable h name _).bind fun added => ?_
  cases table.aliasName with
  | none =>
      exact (Preserves.pure added).bind fun _ => (preserves_bindName h _ _).bind fun _ => .pure _
  | some aliasName =>
      exact (preserves_giveAlias h added aliasName).bind fun _ =>
        (preserves_bindName h _ _).bind fun _ => .pure _

theorem preserves_joinEquality? (h : TableStable P) (predicates : List Sql.Expr) :
    Preserves P (joinEquality? predicates) := by
  induction predicates with
  | nil =>
      exact .pure _
  | cons predicate rest ih =>
      unfold joinEquality?
      split
      · exact (Preserves.forM (fun _ => h.warn _ rfl) rest).bind fun _ => .pure _
      · exact (h.warn _ rfl).bind fun _ => ih

theorem preserves_addEquality (h : TableStable P) (type : JoinType) (predicate : Sql.Expr)
    (left right : String × String) : Preserves P (addEquality type predicate left right) := by
  refine (preserves_keyOf? left.1).bind fun leftKey => ?_
  refine (preserves_keyOf? right.1).bind fun rightKey => ?_
  split
  · refine (preserves_resolveColumn _ _).bind fun leftColumn => ?_
    refine (preserves_resolveColumn _ _).bind fun rightColumn => ?_
    refine (preserves_attempt? (h.addJoin _)).bind fun result => ?_
    split
    · exact .pure _
    · exact h.warn _ rfl
  · exact h.warn _ rfl

theorem preserves_joinedKey (h : TableStable P) (table : NamedTable) :
    Preserves P (joinedKey table) := by
  have hseen : Preserves P (seenKey? table) := by
    intro d hd
    rcases run_seenKey? table d with ⟨key, hkey⟩
    rw [hkey]
    exact hd
  refine hseen.bind fun key => ?_
  split
  · exact .pure _
  · exact preserves_registerTable h table

theorem preserves_readJoin (h : TableStable P) (j : Sql.Join) : Preserves P (readJoin j) := by
  unfold readJoin
  dsimp only
  split
  · exact h.warn _ rfl
  · exact h.warn _ rfl
  · refine (preserves_joinedKey h _).bind fun key => ?_
    split
    · exact h.warn _ rfl
    · refine (preserves_joinEquality? h _).bind fun equality => ?_
      split
      · exact .pure _
      · exact preserves_addEquality h _ _ _ _

theorem preserves_readTables (h : TableStable P) (s : Sql.Select) : Preserves P (readTables s) := by
  unfold readTables
  split
  · exact (h.warn _ rfl).bind fun _ => .pure _
  · split
    · exact (h.warn _ rfl).bind fun _ => .pure _
    · refine (preserves_registerTable h _).bind fun _ => ?_
      exact (Preserves.forM (preserves_readJoin h) _).bind fun _ => .pure _

/-! ## The other clauses -/

/-- A property of drafts that is left alone by all warnings but those about dropped predicates, and
by the edits of the clauses after the conditions. -/
structure RestStable (P : Draft → Prop) : Prop where
  warn : ∀ w : Warning, w.dropsPredicate = false → Preserves P (warn w)
  addGroup : ∀ column, Stable P (Edit.addGroup column)
  addOrder : ∀ column direction, Stable P (Edit.addOrder column direction)
  setPaging : ∀ paging count, Stable P (Edit.setPaging paging count)

/-- The edits of the SELECT list leave the property alone as well. -/
structure ClauseStable (P : Draft → Prop) : Prop extends RestStable P where
  setColumns : ∀ key columns, Stable P (Edit.setColumns key columns)
  reorderTables : ∀ keys, Stable P (Edit.reorderTables keys)

theorem preserves_columnRef (h : RestStable P) (table column shown : String)
    (keepsUnknown : Bool) : Preserves P (columnRef table column shown keepsUnknown) :=
  (Remarks.columnRef table column shown keepsUnknown).preserves h.warn

theorem preserves_readColumnItem (h : ClauseStable P) (firstKey : String) (place : Nat)
    (c : Coverage) (item : Sql.Expr) (table column : String) :
    Preserves P (readColumnItem firstKey place c item table column) := by
  have hkey : Preserves P (itemKey? firstKey table) := by
    unfold itemKey?
    split_ifs
    · exact .pure _
    · exact preserves_keyOf? _
  refine hkey.bind fun key => ?_
  split
  · exact (h.warn _ rfl).bind fun _ => .pure _
  · split
    · exact .pure _
    · exact (preserves_resolveColumn _ _).bind fun _ => .pure _

theorem preserves_readItem (h : ClauseStable P) (firstKey : String) (place : Nat) (c : Coverage)
    (item : Sql.Expr) : Preserves P (readItem firstKey place c item) := by
  have halias : Preserves P (withoutAlias item) := by
    unfold withoutAlias
    split
    · exact (h.warn _ rfl).bind fun _ => .pure _
    · exact .pure _
  refine halias.bind fun e => ?_
  split
  · exact Preserves.get.bind fun _ => .pure _
  · exact preserves_readColumnItem h _ _ _ _ _ _
  · exact (h.warn _ rfl).bind fun _ => .pure _

theorem preserves_readItemsFrom (h : ClauseStable P) (firstKey : String) (place : Nat)
    (c : Coverage) (items : List Sql.Expr) :
    Preserves P (readItemsFrom firstKey place c items) := by
  induction items generalizing place c with
  | nil =>
      exact .pure c
  | cons item rest ih =>
      exact (preserves_readItem h _ _ _ _).bind fun c' => ih (place + 1) c'

theorem preserves_orderTables (h : ClauseStable P) (places : List (String × Nat)) :
    Preserves P (orderTables places) := by
  refine Preserves.get.bind fun d => ?_
  dsimp only
  split_ifs
  · exact preserves_edit (h.reorderTables _)
  · exact .pure _

theorem preserves_readItems (h : ClauseStable P) (s : Sql.Select) : Preserves P (readItems s) := by
  have hitems : ∀ firstKey, Preserves P (do
      let c ← readItemsFrom firstKey 0 {} s.items
      for entry in c.selections.entries do edit (Edit.setColumns entry.1 (listed entry.2))
      orderTables c.places : Reading Unit) := by
    intro firstKey
    refine (preserves_readItemsFrom h _ _ _ _).bind fun c => ?_
    refine (Preserves.forM ?_ _).bind fun _ => preserves_orderTables h _
    exact fun entry => preserves_edit (h.setColumns _ _)
  unfold readItems
  split_ifs
  · exact (h.warn _ rfl).bind fun _ => Preserves.get.bind fun d => hitems _
  · exact Preserves.get.bind fun d => hitems _

theorem preserves_readGroups (h : RestStable P) (grouping : Sql.Grouping) :
    Preserves P (readGroups grouping) := by
  refine (Preserves.forM (fun e => ?_) _).bind fun _ => .pure _
  unfold readGroup
  split
  · refine (preserves_columnRef h _ _ _ _).bind fun ref => ?_
    exact preserves_edit (h.addGroup ref)
  · exact h.warn _ rfl

theorem preserves_readOrder (h : RestStable P) (items : List Sql.OrderItem) :
    Preserves P (readOrder items) := by
  refine (Preserves.forM (fun item => ?_) _).bind fun _ => .pure _
  unfold readOrderItem
  split
  · refine (preserves_columnRef h _ _ _ _).bind fun ref => ?_
    exact (preserves_edit (h.addOrder ref _)).discard
  · exact h.warn _ rfl

theorem preserves_readCount (h : RestStable P) (paging : Paging) (e : Sql.Expr) :
    Preserves P (readCount paging e) := by
  unfold readCount
  split
  · exact preserves_edit (h.setPaging _ _)
  · exact h.warn _ rfl

/-- The clauses that may be missing, each on its own. -/
theorem readPaging_eq (tail : Sql.Tail) :
    readPaging tail = (do
      forM tail.limit fun limit =>
        match limit.fetch, limit.count with
        | none, some e => readCount .limit e
        | _, _ => warn (.paging Paging.limit.text "")
      forM tail.offset fun offset => readCount .offset offset.count) := by
  unfold readPaging
  cases tail.limit with
  | none =>
      cases tail.offset <;> rfl
  | some limit =>
      rcases limit with ⟨_ | count, options, _ | fetch, groups⟩ <;> cases tail.offset <;> rfl

theorem preserves_readPaging (h : RestStable P) (tail : Sql.Tail) :
    Preserves P (readPaging tail) := by
  rw [readPaging_eq]
  refine (Preserves.optionForM (fun limit => ?_) _).bind fun _ => ?_
  · split
    · exact preserves_readCount h _ _
    · exact h.warn _ rfl
  · exact .optionForM (fun offset => preserves_readCount h _ _) _

/-! ## Whole statements -/

/-- The clauses after the conditions. -/
def readRest (s : Sql.Select) : Reading Unit := do
  forM s.tail.grouping readGroups
  forM s.tail.having fun having => warn (.having having.shown)
  readOrder s.tail.order
  readPaging s.tail

theorem readClauses_eq (s : Sql.Select) :
    readClauses s = (do
      readItems s
      forM s.tail.condition readConditions
      readRest s) := by
  unfold readClauses readRest
  cases s.tail.condition <;> cases s.tail.grouping <;> cases s.tail.having <;> rfl

theorem RestStable.preserves_readRest (h : RestStable P) (s : Sql.Select) :
    Preserves P (readRest s) := by
  refine (Preserves.optionForM (preserves_readGroups h) _).bind fun _ => ?_
  refine (Preserves.optionForM (fun _ => h.warn _ rfl) _).bind fun _ => ?_
  exact (preserves_readOrder h _).bind fun _ => preserves_readPaging h _

theorem preserves_readRest (h : ClauseStable P) (s : Sql.Select) : Preserves P (readRest s) :=
  h.toRestStable.preserves_readRest s

end Reading

end QueryDesigner
