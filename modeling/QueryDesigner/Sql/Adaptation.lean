import QueryDesigner.Decimal.Exact
import QueryDesigner.Sql.Printer

/-!
# Statements for a server that lacks some clauses

A server may know no FULL JOIN, SEMI JOIN, QUALIFY, DISTINCT ON or FETCH, no rows of values among its
sources, and only numbers after LIMIT.  Each of these is written by other means.  Samples of tables
and time zones, which it does not know either, are left out.

* `simplifiedCount` — sums and products of numbers become numbers;
* `valuesQuery` — rows of values become SELECT statements;
* `Select.withoutHalfJoins` — joins that only filter become conditions;
* `Select.withoutQualify`, `Select.withoutDistinctOn` — conditions on windows move to a query
  around the query;
* `Select.withoutFullJoin` — the left query keeps the rows of the left side, the right one adds the
  rows of the right side that meet no row of the left;
* `Expr.adapted`, `Query.adapted` — all of it, wherever it is nested;
* `Expr.sql`, `Statement.sql` — the text in a style.
-/

namespace QueryDesigner
namespace Sql

/-! ## Numbers after LIMIT and OFFSET -/

/-- Whether all numbers in a sum, difference, product or quotient are whole. -/
def isWhole : Expr → Bool
  | .literal (.numeral digits) => digits.text.isNat
  | .paren e => isWhole e
  | .commented _ _ e => isWhole e
  | .unary .negate e => isWhole e
  | .binary _ a b => isWhole a && isWhole b
  | _ => false

/-- The value of a sum, difference, product or quotient of numbers.  Servers disagree on the quotient
of whole numbers. -/
def exactValue? : Expr → Option Decimal.Exact
  | .literal (.numeral digits) => Decimal.Exact.ofDigits? digits.text
  | .paren e => exactValue? e
  | .commented _ _ e => exactValue? e
  | .unary .negate e => (exactValue? e).map Decimal.Exact.neg
  | .binary .add a b => (exactValue? a).bind fun m => (exactValue? b).map fun n => m.add n
  | .binary .sub a b => (exactValue? a).bind fun m => (exactValue? b).map fun n => m.sub n
  | .binary .mul a b => (exactValue? a).bind fun m => (exactValue? b).map fun n => m.mul n
  | .binary .div a b =>
    if isWhole a && isWhole b then none
    else (exactValue? a).bind fun m => (exactValue? b).bind fun n => m.div? n
  | _ => none

/-- A number without parentheses and without arithmetic that can be done. -/
def simplifiedCount : Expr → Expr
  | .literal value => .literal value
  | .commented isLeading comments e => .commented isLeading comments (simplifiedCount e)
  | .paren e => simplifiedCount e
  | e => ((exactValue? e).map fun n => Expr.marker n.text).getD e

/-! ## Rows of values -/

/-- The values of a row. -/
def rowItems (row : Expr) : List Expr :=
  match row.bare with
  | .tuple items => items
  | e => [e]

/-- SELECT statements for rows, of which the first one names the columns. -/
def rowSelects (columns : List Ident) : List Expr → List Query
  | [] => []
  | row :: rest =>
    let items := rowItems row
    let named := if columns.isEmpty then items else List.zipWith Expr.aliased items columns
    .select (.plain named none) :: rowSelects [] rest

/-- All rows of several queries. -/
def unionOfAll : List Query → Query
  | [] => .values [] none
  | first :: rest => rest.foldl (fun left right => .set .union true left right Tail.empty) first

/-- Rows of values as a query. -/
def valuesQuery (rows : List Expr) (aliasName : Option TableAlias) : Query :=
  .wrapped (unionOfAll (rowSelects ((aliasName.map TableAlias.columns).getD []) rows))
    (aliasName.map fun a => { a with columns := [] }) Tail.empty

/-! ## Conditions -/

/-- Whether an expression is put together by logical operators. -/
def isConnected (e : Expr) : Bool :=
  match e.bare with
  | .binary .and .. => true
  | .binary .or .. => true
  | .binary .xor .. => true
  | _ => false

/-- An operand of AND. -/
def conjunct (e : Expr) : Expr := if isConnected e then .paren e else e

/-- A condition with one more that has to hold as well. -/
def conjoined (condition : Option Expr) (other : Expr) : Expr :=
  match condition with
  | none => other
  | some e => .binary .and (conjunct e) (conjunct other)

/-- The condition that a source has a row which satisfies a condition. -/
def existsIn (source : Option TableSource) (condition : Expr) : Expr :=
  .existsRow (.select ⟨[], [], false, [], [], [.number "1"], source,
    { Tail.empty with condition := some condition }⟩)

def withCondition (s : Select) (other : Expr) : Select :=
  { s with tail := { s.tail with condition := some (conjoined s.tail.condition other) } }

/-! ## Joins that only filter -/

/-- The condition that a join stands for, if it only filters the rows before it. -/
def halfJoinCondition? (j : Join) : Option Expr :=
  match j.on, j.words.kind with
  | some on, some .semi => some (existsIn (some j.source) on)
  | some on, some .anti => some (.unary .not (existsIn (some j.source) on))
  | _, _ => none

/-- The joins that remain, and the conditions for the others.  The join right after one that is left
out remains in any case. -/
def splitHalfJoins : List Join → List Join × List Expr
  | [] => ([], [])
  | [j] =>
    match halfJoinCondition? j with
    | some condition => ([], [condition])
    | none => ([j], [])
  | j :: next :: rest =>
    match halfJoinCondition? j with
    | some condition =>
      let (joins, conditions) := splitHalfJoins rest
      (next :: joins, condition :: conditions)
    | none =>
      let (joins, conditions) := splitHalfJoins (next :: rest)
      (j :: joins, conditions)

/-- A SELECT statement with conditions for the joins that only filter. -/
def Select.withoutHalfJoins (s : Select) : Select :=
  let (joins, conditions) := splitHalfJoins s.tail.joins
  conditions.foldl withCondition { s with tail := { s.tail with joins := joins } }

/-! ## FULL JOIN -/

/-- The name by which the columns of a source are found. -/
def TableSource.visibleName : TableSource → String
  | .table path function _ _ aliasName _ _ _ =>
    ((aliasName.bind TableAlias.name).or (if function.isSome then none else path.getLast?)).elim ""
      Ident.text
  | .query (.wrapped _ aliasName _) => ((aliasName.bind TableAlias.name).map Ident.text).getD ""
  | .query (.tables _ aliasName _) => ((aliasName.bind TableAlias.name).map Ident.text).getD ""
  | .unnested _ _ aliasName => ((aliasName.bind TableAlias.name).map Ident.text).getD ""
  | .lateral _ source => source.visibleName
  | _ => ""

/-- The predicate that columns of two tables are equal, unless there are no columns. -/
def sharedPredicate? (left right : String) : List Ident → Option Expr
  | [] => none
  | c :: rest =>
    let equality (c : Ident) : Expr := .binary .eq (.column [⟨left, false⟩] c)
      (.column [⟨right, false⟩] c)
    some (rest.foldl (fun e c => .binary .and e (equality c)) (equality c))

/-- Joins with another side where they keep the rows of both sides. -/
def withSide (side : JoinSide) (joins : List Join) : List Join :=
  joins.map fun j =>
    if j.words.side = some .full then { j with words := { j.words with side := some side } } else j

/-- A SELECT statement with a single FULL JOIN as two queries. -/
def Select.withoutFullJoin (s : Select) : Query :=
  match s.tail.joins.filter fun j => j.words.side = some .full with
  | [j] =>
    let left := (s.source.map TableSource.visibleName).getD ""
    match j.on.or (sharedPredicate? left j.source.visibleName j.shared) with
    | none => .select s
    | some predicate =>
      let first :=
        { s with tail :=
          { s.tail with joins := withSide .left s.tail.joins, order := [], limit := none } }
      let second := { s with tail := { s.tail with joins := withSide .right s.tail.joins } }
      .set .union true (.select first)
        (.select (withCondition second (.unary .not (existsIn s.source predicate)))) Tail.empty
  | _ => .select s

/-! ## Conditions on windows -/

/-- The name of an item of a SELECT list, empty if it has none. -/
def itemName (e : Expr) : Ident :=
  match e.bare with
  | .aliased _ aliasName => aliasName
  | .column _ name => name
  | .literal (.numeral digits) => ⟨digits.text, false⟩
  | .literal (.text value) => ⟨value, false⟩
  | .star _ => ⟨"*", false⟩
  | .columns _ _ => ⟨"*", false⟩
  | .null => ⟨"NULL", false⟩
  | _ => ⟨"", false⟩

/-- A name that is none of those that are taken, in at most the given number of steps. -/
def newNameFrom (taken : List String) (base : String) : Nat → Nat → String
  | 0, n => base ++ "_" ++ toString n
  | steps + 1, n =>
    let name := base ++ "_" ++ toString n
    if taken.contains name then newNameFrom taken base steps (n + 1) else name

/-- A name that is none of those that are taken: the given one, or that with a number. -/
def newName (taken : List String) (base : String) : String :=
  if taken.contains base then newNameFrom taken base taken.length 2 else base

def isStar (e : Expr) : Bool := (itemName e).text == "*"

/-- Items with names for those that have none. -/
def namedItems (taken : List String) : List Expr → List Expr
  | [] => []
  | e :: rest =>
    if (itemName e).text = "" then
      let name := newName taken "_c"
      .aliased e ⟨name, false⟩ :: namedItems (name :: taken) rest
    else e :: namedItems taken rest

/-- An item by its name, in a query around the query. -/
def outerItem (e : Expr) : Expr :=
  match e.bare with
  | .literal value => .literal value
  | .null => .null
  | bare => if isStar bare then .star [] else .column [] (itemName bare)

mutual

/-- The calls with windows and the columns of a condition. -/
def windowParts : Expr → List Expr
  | .column path name => [.column path name]
  | .unary _ e => windowParts e
  | .binary _ left right => windowParts left ++ windowParts right
  | .between _ e low high => windowParts e ++ windowParts low ++ windowParts high
  | .among e items => windowParts e ++ windowPartsOf items
  | .cast e _ => windowParts e
  | .call _ args => windowPartsOf args
  | .form _ parts => windowPartsOf parts
  | .distinct items => windowPartsOf items
  | .inZone moment _ => windowParts moment
  | .paren e => windowParts e
  | .tuple items => windowPartsOf items
  | .ordered e order => windowParts e ++ windowPartsIn order
  | .window call name parts order frame =>
    .window call name parts order frame ::
      (windowParts call ++ windowPartsOf parts ++ windowPartsIn order)
  | .namedWindow call name => .namedWindow call name :: windowParts call
  | .commented _ _ e => windowParts e
  | _ => []

def windowPartsOf : List Expr → List Expr
  | [] => []
  | e :: rest => windowParts e ++ windowPartsOf rest

def windowPartsIn : List OrderItem → List Expr
  | [] => []
  | ⟨e, _, _⟩ :: rest => windowParts e ++ windowPartsIn rest

end

mutual

/-- A condition with names in place of its calls with windows, and the names that are left. -/
def withoutWindows (names : List Ident) : Expr → Expr × List Ident
  | .unary op e =>
    let (e, names) := withoutWindows names e
    (.unary op e, names)
  | .binary op left right =>
    let (left, names) := withoutWindows names left
    let (right, names) := withoutWindows names right
    (.binary op left right, names)
  | .between isSymmetric e low high =>
    let (e, names) := withoutWindows names e
    let (low, names) := withoutWindows names low
    let (high, names) := withoutWindows names high
    (.between isSymmetric e low high, names)
  | .among e items =>
    let (e, names) := withoutWindows names e
    let (items, names) := withoutWindowsIn names items
    (.among e items, names)
  | .cast e type =>
    let (e, names) := withoutWindows names e
    (.cast e type, names)
  | .call name args =>
    let (args, names) := withoutWindowsIn names args
    (.call name args, names)
  | .form words parts =>
    let (parts, names) := withoutWindowsIn names parts
    (.form words parts, names)
  | .inZone moment zone =>
    let (moment, names) := withoutWindows names moment
    (.inZone moment zone, names)
  | .paren e =>
    let (e, names) := withoutWindows names e
    (.paren e, names)
  | .commented isLeading comments e =>
    let (e, names) := withoutWindows names e
    (.commented isLeading comments e, names)
  | .window call name parts order frame =>
    match names with
    | [] => (.window call name parts order frame, [])
    | first :: rest => (.column [] first, rest)
  | .namedWindow call name =>
    match names with
    | [] => (.namedWindow call name, [])
    | first :: rest => (.column [] first, rest)
  | e => (e, names)

def withoutWindowsIn (names : List Ident) : List Expr → List Expr × List Ident
  | [] => ([], names)
  | e :: rest =>
    let (e, names) := withoutWindows names e
    let (rest, names) := withoutWindowsIn names rest
    (e :: rest, names)

end

def isWindow (e : Expr) : Bool :=
  match e with
  | .window .. => true
  | .namedWindow .. => true
  | _ => false

/-- Names for calls with windows. -/
def windowNames (taken : List String) : List Expr → List Ident
  | [] => []
  | _ :: rest =>
    let name := newName taken "_w"
    ⟨name, false⟩ :: windowNames (name :: taken) rest

/-- Columns that are not taken yet, each once. -/
def furtherColumns (taken : List String) : List Expr → List Expr
  | [] => []
  | e :: rest =>
    let name := (itemName e).text
    if taken.contains name then furtherColumns taken rest
    else e :: furtherColumns (name :: taken) rest

/-- A query around a query, which picks the rows that satisfy a condition. -/
def pickedFrom (inner : Query) (items : List Expr) (condition : Expr) : Select :=
  ⟨[], [], false, [], [], items,
    some (.query (.wrapped inner (some ⟨some ⟨"_t", false⟩, [], []⟩) Tail.empty)),
    { Tail.empty with condition := some condition }⟩

/-- A SELECT statement whose condition on windows is checked by a query around it. -/
def Select.withoutQualify (s : Select) (around : Query → Query) : Query :=
  match s.tail.qualify with
  | none => around s.withoutFullJoin
  | some qualify =>
    let taken := s.items.map fun e => (itemName e).text
    let items := namedItems taken s.items
    let parts := windowParts qualify
    let windows := parts.filter isWindow
    let taken := items.map fun e => (itemName e).text
    let names := windowNames taken windows
    let columns :=
      if items.any isStar then []
      else furtherColumns taken (parts.filter fun e => !isWindow e)
    let inner :=
      { s with
        items := items ++ List.zipWith Expr.aliased windows names ++ columns
        tail := { s.tail with qualify := none } }
    .select (pickedFrom (around inner.withoutFullJoin) (items.map outerItem)
      (withoutWindows names qualify).1)

/-- The first row for each of the keys, in the order of the statement, has number one. -/
def rowNumber (keys : List Expr) (order : List OrderItem) : Expr :=
  let order := if order.isEmpty then keys.map fun e => ⟨e, none, false⟩ else order
  .aliased (.window (.function "ROW_NUMBER" []) none keys order none) ⟨"_row_number", false⟩

/-- An item under its own name. -/
def underOwnName (e : Expr) : Expr :=
  match e.bare with
  | .aliased .. => e
  | bare =>
    let name := itemName bare
    .aliased e (if name.text = "" then ⟨"_col", false⟩ else name)

/-- Items up to the first star under their own names. -/
def itemsUnderNames (items : List Expr) : List Expr :=
  items.takeWhile (fun e => !isStar e) |>.map underOwnName |>.append
    (items.dropWhile fun e => !isStar e)

/-- A SELECT statement of which rows count that are the first for their keys. -/
def Select.withoutDistinctOn (s : Select) (around : Query → Query) : Query :=
  match s.distinctOn with
  | [] => s.withoutHalfJoins.withoutQualify around
  | keys =>
    let items := itemsUnderNames s.items
    let inner :=
      { s with
        isDistinct := false
        distinctOn := []
        items := items ++ [rowNumber keys s.tail.order]
        tail := { s.tail with order := [] } }
    let outer :=
      if items.any isStar then [.star []] else items.map fun e => .column [] (itemName e)
    .select (pickedFrom (inner.withoutHalfJoins.withoutQualify around) outer
      (.binary .eq (.column [] ⟨"_row_number", false⟩) (.number "1")))

/-! ## Everywhere

Rows of values become SELECT statements where they are part of a source. -/

mutual

def Expr.adapted (inSource : Bool) : Expr → Expr
  | .star changes => .star (adaptedExprs inSource changes)
  | .columns path changes => .columns path (adaptedExprs inSource changes)
  | .fieldOf path field => .fieldOf path (field.adapted inSource)
  | .unary op e => .unary op (e.adapted inSource)
  | .binary op left right => .binary op (left.adapted inSource) (right.adapted inSource)
  | .between isSymmetric e low high =>
    .between isSymmetric (e.adapted inSource) (low.adapted inSource) (high.adapted inSource)
  | .among e items => .among (e.adapted inSource) (adaptedExprs inSource items)
  | .amongRows e q => .amongRows (e.adapted inSource) (q.adapted inSource)
  | .case subject branches otherwise =>
    .case (adaptedOption inSource subject) (adaptedBranches inSource branches)
      (adaptedOption inSource otherwise)
  | .choice condition yes no =>
    .choice (condition.adapted inSource) (yes.adapted inSource) (adaptedOption inSource no)
  | .cast e type => .cast (e.adapted inSource) type
  | .call name args => .call name (adaptedExprs inSource args)
  | .distinct items => .distinct (adaptedExprs inSource items)
  | .form words parts => .form words (adaptedExprs inSource parts)
  | .interval amount unit => .interval (amount.adapted inSource) unit
  | .inZone moment _ => moment.adapted inSource
  | .paren e => .paren (e.adapted inSource)
  | .tuple items => .tuple (adaptedExprs inSource items)
  | .existsRow q => .existsRow (q.adapted inSource)
  | .allRows q => .allRows (q.adapted inSource)
  | .anyRow e => .anyRow (e.adapted inSource)
  | .query q => .query (q.adapted inSource)
  | .ordered e order => .ordered (e.adapted inSource) (adaptedItems inSource order)
  | .limited e skip limit =>
    .limited (e.adapted inSource) (adaptedOption inSource skip) (limit.adapted inSource)
  | .filtered call condition => .filtered (call.adapted inSource) (condition.adapted inSource)
  | .sorted words order => .sorted words (adaptedItems inSource order)
  | .window call name parts order frame =>
    .window (call.adapted inSource) name (adaptedExprs inSource parts)
      (adaptedItems inSource order) (adaptedOption inSource frame)
  | .namedWindow call name => .namedWindow (call.adapted inSource) name
  | .member owner call => .member (owner.adapted inSource) (call.adapted inSource)
  | .aliased e aliasName => .aliased (e.adapted inSource) aliasName
  | .commented isLeading comments e => .commented isLeading comments (e.adapted inSource)
  | .column path name => .column path name
  | .literal value => .literal value
  | .null => .null
  | .boolean value => .boolean value
  | .marker text => .marker text

def adaptedExprs (inSource : Bool) : List Expr → List Expr
  | [] => []
  | e :: rest => e.adapted inSource :: adaptedExprs inSource rest

def adaptedOption (inSource : Bool) : Option Expr → Option Expr
  | none => none
  | some e => some (e.adapted inSource)

def adaptedBranches (inSource : Bool) : List (Expr × Expr) → List (Expr × Expr)
  | [] => []
  | (condition, value) :: rest =>
    (condition.adapted inSource, value.adapted inSource) :: adaptedBranches inSource rest

def OrderItem.adapted (inSource : Bool) : OrderItem → OrderItem
  | ⟨e, direction, movesNulls⟩ => ⟨e.adapted inSource, direction, movesNulls⟩

def adaptedItems (inSource : Bool) : List OrderItem → List OrderItem
  | [] => []
  | item :: rest => item.adapted inSource :: adaptedItems inSource rest

def Limit.adapted (inSource : Bool) : Limit → Limit
  | ⟨count, options, none, groups⟩ =>
    ⟨(adaptedOption inSource count).map simplifiedCount, options, none,
      adaptedExprs inSource groups⟩
  | ⟨count, _, some _, groups⟩ =>
    ⟨(adaptedOption inSource count).map simplifiedCount, "", none, adaptedExprs inSource groups⟩

def adaptedLimit (inSource : Bool) : Option Limit → Option Limit
  | none => none
  | some limit => some (limit.adapted inSource)

def Offset.adapted (inSource : Bool) : Offset → Offset
  | ⟨count, groups⟩ =>
    ⟨simplifiedCount (count.adapted inSource), adaptedExprs inSource groups⟩

def adaptedOffset (inSource : Bool) : Option Offset → Option Offset
  | none => none
  | some offset => some (offset.adapted inSource)

def TableSource.adapted (inSource : Bool) : TableSource → TableSource
  | .table path function comments partition aliasName hints _ joins =>
    .table path (adaptedOption inSource function) comments (adaptedExprs inSource partition)
      aliasName (adaptedExprs inSource hints) none (adaptedJoins joins)
  | .query q => .query (q.adapted inSource)
  | .unnested arrays withPlaces aliasName =>
    .unnested (adaptedExprs inSource arrays) withPlaces aliasName
  | .lateral kind source => .lateral kind (source.adapted inSource)

/-- A source of a query. -/
def adaptedSource : Option TableSource → Option TableSource
  | none => none
  | some t => some (t.adapted true)

def Join.adapted : Join → Join
  | ⟨words, source, on, shared, comments⟩ =>
    ⟨words, source.adapted true, adaptedOption true on, shared, comments⟩

def adaptedJoins : List Join → List Join
  | [] => []
  | j :: rest => j.adapted :: adaptedJoins rest

def Grouping.adapted (inSource : Bool) : Grouping → Grouping
  | ⟨quantifier, items, sets, withTotals⟩ =>
    ⟨quantifier, adaptedExprs inSource items, adaptedExprs inSource sets, withTotals⟩

def adaptedGrouping (inSource : Bool) : Option Grouping → Option Grouping
  | none => none
  | some g => some (g.adapted inSource)

def Tail.adapted (inSource : Bool) : Tail → Tail
  | ⟨joins, views, condition, connection, grouping, having, sorts, windows, qualify, order, limit,
      offset, locks, _, comments⟩ =>
    ⟨adaptedJoins joins, adaptedExprs inSource views, adaptedOption inSource condition,
      adaptedOption inSource connection, adaptedGrouping inSource grouping,
      adaptedOption inSource having, adaptedExprs inSource sorts, adaptedExprs inSource windows,
      adaptedOption inSource qualify, adaptedItems inSource order,
      adaptedLimit inSource limit, adaptedOffset inSource offset,
      adaptedExprs inSource locks, none, comments⟩

/-- A SELECT statement whose parts are adapted, but not the statement itself. -/
def Select.partsAdapted (inSource : Bool) : Select → Select
  | ⟨comments, hints, isDistinct, distinctOn, modifiers, items, source, tail⟩ =>
    ⟨comments, adaptedExprs inSource hints, isDistinct, adaptedExprs inSource distinctOn, modifiers,
      adaptedExprs inSource items, adaptedSource source, tail.adapted inSource⟩

def Cte.adapted (inSource : Bool) : Cte → Cte
  | ⟨aliasName, q⟩ => ⟨aliasName, q.adapted inSource⟩

def adaptedCtes (inSource : Bool) : List Cte → List Cte
  | [] => []
  | c :: rest => c.adapted inSource :: adaptedCtes inSource rest

def Query.adapted (inSource : Bool) : Query → Query
  | .select s => (s.partsAdapted inSource).withoutDistinctOn id
  | .set op isAll left right tail =>
    .set op isAll (left.adapted inSource) (right.adapted inSource) (tail.adapted inSource)
  | .wrapped q aliasName tail => .wrapped (q.adapted inSource) aliasName (tail.adapted inSource)
  | .tables source aliasName tail =>
    .tables (source.adapted inSource) aliasName (tail.adapted inSource)
  | .values rows aliasName =>
    if inSource then valuesQuery (adaptedExprs true rows) aliasName
    else .values (adaptedExprs false rows) aliasName
  | .withTables isRecursive tables (.select s) =>
    (s.partsAdapted inSource).withoutDistinctOn
      (.withTables isRecursive (adaptedCtes inSource tables))
  | .withTables isRecursive tables q =>
    .withTables isRecursive (adaptedCtes inSource tables) (q.adapted inSource)
  | .into target isTemporary q => .into (target.adapted inSource) isTemporary (q.adapted inSource)

end

/-- A statement whose queries are adapted. -/
def Statement.adapted : Statement → Statement
  | .query q => .query (q.adapted false)
  | .expression e => .expression (e.adapted false)
  | .update source assignments tail =>
    .update (source.adapted false) (adaptedExprs false assignments) (tail.adapted false)
  | .delete targets source others tail =>
    .delete (targets.map (TableSource.adapted false)) (source.map (TableSource.adapted false))
      (others.map (TableSource.adapted false)) (tail.adapted false)
  | .insert hints isIgnoring target columns rows changes =>
    .insert (adaptedExprs false hints) isIgnoring (target.adapted false)
      (adaptedExprs false columns) (rows.map (Query.adapted false)) (adaptedExprs false changes)
  | .describe q => .describe (q.adapted false)
  | .create target q => .create target (q.adapted false)
  | .command text => .command text

/-! ## The text in a style -/

def Expr.sql (s : Style) (e : Expr) : String :=
  (if s.adapts then e.adapted false else e).write s

def OrderItem.sql (s : Style) (item : OrderItem) : String :=
  (if s.adapts then item.adapted false else item).write s

def TableSource.sql (s : Style) (t : TableSource) : String :=
  (if s.adapts then t.adapted false else t).write s

def Join.sql (s : Style) (j : Join) : String := (if s.adapts then j.adapted else j).write s

/-- A statement without blanks at its ends. -/
def Statement.sql (s : Style) (statement : Statement) : String :=
  Text.trim ((if s.adapts then statement.adapted else statement).write s)

/-- Statements with semicolons between them. -/
def scriptText (s : Style) (script : List Statement) : String :=
  String.intercalate "; " (script.map fun statement => statement.sql s)

end Sql
end QueryDesigner
