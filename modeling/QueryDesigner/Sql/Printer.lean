import QueryDesigner.Sql.Name

/-!
# Writing SQL

Everything is written as it is; what a server does not know is changed before.

* `Expr.write` — an expression;
* `TableSource.write`, `Join.write` — what a query reads from;
* `Tail.write`, `Select.write`, `Query.write` — a query;
* `Statement.write` — a statement.
-/

namespace QueryDesigner
namespace Sql

/-! ## Pieces without expressions -/

/-- The words of a join, without `JOIN`. -/
def JoinWords.texts (w : JoinWords) : List String :=
  (w.method.map JoinMethod.text).toList ++ (w.side.map JoinSide.text).toList ++
    (w.kind.map JoinKind.text).toList

/-- A join by its words, the text of its source, which may join it by itself, and the text after
that. -/
def joinText (words : List String) (isApplied : Bool) (source terms : String) : String :=
  match words with
  | [] =>
    if !terms.isEmpty then " JOIN " ++ source ++ terms
    else if isApplied then " " ++ source
    else ", " ++ source
  | ["STRAIGHT_JOIN"] => " STRAIGHT_JOIN " ++ source ++ terms
  | words => " " ++ String.intercalate " " words ++ " JOIN " ++ source ++ terms

/-- Whether the amount of an interval needs no parentheses. -/
def isPlainAmount (e : Expr) : Bool :=
  match e.bare with
  | .column .. => true
  | .literal _ => true
  | .unary .negate _ => true
  | .paren _ => true
  | _ => false

/-- A text with a blank in front of it, or nothing if it is empty. -/
def blankBefore (text : String) : String := if text.isEmpty then "" else " " ++ text

/-- Words and the texts between them. -/
def interleave : List String → List String → String
  | [], parts => String.join parts
  | words, [] => String.join words
  | word :: words, part :: parts => word ++ part ++ interleave words parts

def commaText (texts : List String) : String := String.intercalate ", " texts

/-- Texts with a word in front, or nothing if there are none. -/
def listClause (word : String) (texts : List String) : List String :=
  if texts.isEmpty then [] else [word ++ " " ++ commaText texts]

/-- A negative sign before an operand. -/
def negated (text : String) : String :=
  if text.startsWith "-" then "- " ++ text else "-" ++ text

/-- Advice to the planner. -/
def hintText (hints : List String) : String :=
  if hints.isEmpty then "" else "/*+ " ++ String.intercalate " " hints ++ " */"

/-- A range by the texts of its parts. -/
def rangeText (operand low high : String) : String :=
  operand ++ " BETWEEN " ++ low ++ " AND " ++ high

/-- The direction of an entry of an ORDER BY list. -/
def directionText (s : Style) : Option Bool → String
  | some true => " DESC"
  | some false => if s.showsAscending then " ASC" else ""
  | none => ""

/-- Where nulls are moved to. -/
def nullsWords (direction : Option Bool) : String :=
  if direction = some true then " NULLS FIRST" else " NULLS LAST"

/-- Whether nulls can be moved by a test for null: places in the SELECT list and random numbers
have none. -/
def isTestable (e : Expr) : Bool :=
  match e.bare with
  | .literal (.numeral digits) => !digits.text.isNat
  | .call name _ => Text.upper name.text != "RAND"
  | _ => true

/-- The entry that moves nulls, in front of the entry itself, whose text is given. -/
def nullsText (s : Style) (e : Expr) (direction : Option Bool) (movesNulls : Bool)
    (text : String) : String :=
  if movesNulls && s.adapts && isTestable e then
    "CASE WHEN " ++ text ++ " IS NULL THEN 1 ELSE 0 END" ++
      (if direction = some true then " DESC, " else ", ")
  else ""

/-- A window by the name that it builds on and its other parts, after what it belongs to. -/
def windowText (owner name : String) (parts : List String) : String :=
  if parts.isEmpty && !name.isEmpty then owner ++ " " ++ name
  else
    let parts := if name.isEmpty then parts else name :: parts
    owner ++ " (" ++ String.intercalate " " parts ++ ")"

/-- The several groupings of a query, after its plain groups. -/
def groupingsText (hasItems : Bool) (sets : List String) (withTotals : Bool) : String :=
  let all := sets ++ (if withTotals then ["WITH TOTALS"] else [])
  let text := commaText all
  if text.isEmpty then ""
  else if hasItems && text != "WITH CUBE" && text != "WITH ROLLUP" then ", " ++ text
  else " " ++ text

/-! ## Expressions and queries -/

mutual

def Expr.write (s : Style) : Expr → String
  | .star changes => "*" ++ String.join (blankTexts s changes)
  | .column path name => s.path (path ++ [name])
  | .columns path changes => s.path path ++ ".*" ++ String.join (blankTexts s changes)
  | .fieldOf path field => s.path path ++ "." ++ field.write s
  | .literal value => value.sql
  | .null => "NULL"
  | .boolean true => "TRUE"
  | .boolean false => "FALSE"
  | .marker text => text
  | .unary .not e => "NOT " ++ e.write s
  | .unary .negate e => negated (e.write s)
  | .unary .complement e => "~" ++ e.write s
  | .binary op left right => left.write s ++ " " ++ op.text ++ " " ++ right.write s
  | .between false e low high => rangeText (e.write s) (low.write s) (high.write s)
  | .between true e low high =>
    "(" ++ rangeText (e.write s) (low.write s) (high.write s) ++ " OR " ++
      rangeText (e.write s) (high.write s) (low.write s) ++ ")"
  | .among e items => e.write s ++ " IN (" ++ commaText (exprTexts s items) ++ ")"
  | .amongRows e q => e.write s ++ " IN (" ++ q.write s ++ ")"
  | .case subject branches otherwise =>
    "CASE" ++ optionText s " " subject ++ String.join (branchTexts s branches) ++
      optionText s " ELSE " otherwise ++ " END"
  | .choice condition yes no =>
    "CASE WHEN " ++ condition.write s ++ " THEN " ++ yes.write s ++ optionText s " ELSE " no ++
      " END"
  | .cast e type =>
    if type.isMoment then "TIMESTAMP(" ++ e.write s ++ ")"
    else "CAST(" ++ e.write s ++ " AS " ++ type.castSql ++ ")"
  | .call name args =>
    (if name.quoted then backquoted name.text else name.text) ++ "(" ++
      commaText (exprTexts s args) ++ ")"
  | .distinct items => "DISTINCT" ++ blankBefore (commaText (exprTexts s items))
  | .form words parts => interleave words (exprTexts s parts)
  | .interval amount unit =>
    "INTERVAL " ++
      (if isPlainAmount amount then amount.write s else "(" ++ amount.write s ++ ")") ++
      blankBefore unit
  | .inZone moment zone => moment.write s ++ " AT TIME ZONE " ++ zone.write s
  | .paren e => "(" ++ e.write s ++ ")"
  | .tuple items => "(" ++ commaText (exprTexts s items) ++ ")"
  | .existsRow q => "EXISTS(" ++ q.write s ++ ")"
  | .allRows q => "ALL (" ++ q.write s ++ ")"
  | .anyRow (.query q) =>
    match q with
    | .wrapped .. => "ANY " ++ q.write s
    | .tables .. => "ANY " ++ q.write s
    | _ => "ANY(" ++ q.write s ++ ")"
  | .anyRow (.paren e) => "ANY(" ++ e.write s ++ ")"
  | .anyRow e => "ANY " ++ e.write s
  | .query q => q.write s
  | .ordered e order => e.write s ++ " ORDER BY " ++ commaText (itemTexts s order)
  | .limited e skip limit => e.write s ++ limit.write s (optionText s "" skip)
  | .filtered call condition => call.write s ++ " FILTER(WHERE " ++ condition.write s ++ ")"
  | .sorted words order => words ++ " " ++ commaText (itemTexts s order)
  | .window call name parts order frame =>
    windowText (call.write s ++ " OVER") ((name.map s.ident).getD "")
      (listClause "PARTITION BY" (exprTexts s parts) ++ listClause "ORDER BY" (itemTexts s order) ++
        frameTexts s frame)
  | .namedWindow call name => call.write s ++ " OVER " ++ s.ident name
  | .member owner call => owner.write s ++ "." ++ call.write s
  | .aliased e aliasName => e.write s ++ " AS " ++ s.ident aliasName
  | .commented true comments e => s.before comments (e.write s)
  | .commented false comments e => s.after (e.write s) comments

def exprTexts (s : Style) : List Expr → List String
  | [] => []
  | e :: rest => e.write s :: exprTexts s rest

/-- Texts with a blank in front of each of them. -/
def blankTexts (s : Style) : List Expr → List String
  | [] => []
  | e :: rest => (" " ++ e.write s) :: blankTexts s rest

def optionText (s : Style) (before : String) : Option Expr → String
  | none => ""
  | some e => before ++ e.write s

def frameTexts (s : Style) : Option Expr → List String
  | none => []
  | some e => [e.write s]

def branchTexts (s : Style) : List (Expr × Expr) → List String
  | [] => []
  | (condition, value) :: rest =>
    (" WHEN " ++ condition.write s ++ " THEN " ++ value.write s) :: branchTexts s rest

def OrderItem.write (s : Style) : OrderItem → String
  | ⟨e, direction, movesNulls⟩ =>
    nullsText s e direction movesNulls (e.write s) ++ e.write s ++ directionText s direction ++
      (if movesNulls && !s.adapts then nullsWords direction else "")

def itemTexts (s : Style) : List OrderItem → List String
  | [] => []
  | item :: rest => item.write s :: itemTexts s rest

/-- The windows of a WINDOW clause. -/
def windowTexts (s : Style) : List Expr → List String
  | [] => []
  | .window name base parts order frame :: rest =>
    windowText (name.write s ++ " AS") ((base.map s.ident).getD "")
      (listClause "PARTITION BY" (exprTexts s parts) ++ listClause "ORDER BY" (itemTexts s order) ++
        frameTexts s frame) :: windowTexts s rest
  | .namedWindow name base :: rest =>
    (name.write s ++ " AS " ++ s.ident base) :: windowTexts s rest
  | e :: rest => e.write s :: windowTexts s rest

/-- Rows that are counted together. -/
def groupsText (s : Style) : List Expr → String
  | [] => ""
  | e :: rest => " BY " ++ commaText (e.write s :: exprTexts s rest)

/-- How many rows are kept, and the text for how many are skipped where one clause says both. -/
def Limit.write (s : Style) (skip : String) : Limit → String
  | ⟨count, options, none, groups⟩ =>
    " LIMIT " ++ (if skip.isEmpty then "" else skip ++ ", ") ++ optionText s "" count ++ options ++
      groupsText s groups
  | ⟨count, options, some direction, _⟩ =>
    " FETCH " ++ direction ++ optionText s " " count ++
      (if options.isEmpty then " ROWS ONLY" else options)

def limitText (s : Style) : Option Limit → String
  | none => ""
  | some limit => limit.write s ""

def Offset.write (s : Style) : Offset → String
  | ⟨count, groups⟩ => " OFFSET " ++ count.write s ++ groupsText s groups

def offsetText (s : Style) : Option Offset → String
  | none => ""
  | some offset => offset.write s

def TableSource.write (s : Style) : TableSource → String
  | .table path function comments partition aliasName hints sample joins =>
    s.after (s.path path ++ (if path.isEmpty then "" else functionMark function) ++
        optionText s "" function) comments ++
      (if partition.isEmpty then ""
        else " PARTITION(" ++ commaText (exprTexts s partition) ++ ")") ++
      aliasText s aliasName ++
      String.join (blankTexts s hints) ++
      optionText s " " sample ++
      String.join (joinTexts s joins)
  | .query q => q.write s
  | .unnested arrays withPlaces aliasName =>
    "UNNEST(" ++ commaText (exprTexts s arrays) ++ ")" ++
      (if withPlaces then " WITH ORDINALITY" else "") ++ aliasText s aliasName
  | .lateral kind source => kind.text ++ " " ++ source.write s
where
  functionMark (function : Option Expr) : String := if function.isSome then "." else ""
  aliasText (s : Style) (aliasName : Option TableAlias) : String :=
    (aliasName.map fun a => s.after (" AS " ++ s.tableAlias a) a.comments).getD ""

def Join.write (s : Style) : Join → String
  | ⟨words, source, on, shared, comments⟩ =>
    let terms :=
      match on with
      | some e => " ON " ++ e.write s
      | none => if shared.isEmpty then "" else " USING (" ++ commaText (shared.map s.ident) ++ ")"
    let text := joinText words.texts source.isApplied (source.write s) terms
    let shown := s.comments comments
    if shown.isEmpty then text else " " ++ shown ++ text

def joinTexts (s : Style) : List Join → List String
  | [] => []
  | j :: rest => j.write s :: joinTexts s rest

def Grouping.write (s : Style) : Grouping → String
  | ⟨quantifier, items, sets, withTotals⟩ =>
    "GROUP BY" ++ blankBefore quantifier ++ blankBefore (commaText (exprTexts s items)) ++
      groupingsText (!items.isEmpty) (exprTexts s sets) withTotals

def groupingText (s : Style) (comments : List String) : Option Grouping → String
  | none => ""
  | some g => s.clauseText comments (g.write s)

/-- A clause that is a word before an expression. -/
def clauseOf (s : Style) (comments : List String) (word : String) : Option Expr → String
  | none => ""
  | some e => s.clauseText comments (word ++ " " ++ e.write s)

/-- What follows the SELECT list and the FROM clause. -/
def Tail.write (s : Style) : Tail → String
  | ⟨joins, views, condition, connection, grouping, having, sorts, windows, qualify, order, limit, offset,
      locks, sample, comments⟩ =>
    String.join (joinTexts s joins) ++
      String.join (blankTexts s views) ++
      clauseOf s comments.condition "WHERE" condition ++
      optionText s " " connection ++
      groupingText s comments.grouping grouping ++
      clauseOf s comments.having "HAVING" having ++
      String.join (blankTexts s sorts) ++
      (if windows.isEmpty then "" else " WINDOW " ++ commaText (windowTexts s windows)) ++
      clauseOf s [] "QUALIFY" qualify ++
      (if order.isEmpty then ""
        else s.clauseText comments.order ("ORDER BY " ++ commaText (itemTexts s order))) ++
      (if isFetch limit then offsetText s offset ++ limitText s limit
        else limitText s limit ++ offsetText s offset) ++
      String.join (blankTexts s locks) ++
      optionText s " " sample
where
  isFetch (limit : Option Limit) : Bool := ((limit.map Limit.fetch).getD none).isSome

def Select.write (s : Style) : Select → String
  | ⟨comments, hints, isDistinct, distinctOn, modifiers, items, source, tail⟩ =>
    let head := String.intercalate " " <|
      ["SELECT"] ++
        (if hints.isEmpty then [] else [hintText (exprTexts s hints)]) ++
        (if isDistinct then
          ["DISTINCT" ++ (if distinctOn.isEmpty then ""
            else " ON (" ++ commaText (exprTexts s distinctOn) ++ ")")] else []) ++
        modifiers ++
        (if items.isEmpty then [] else [commaText (exprTexts s items)])
    s.before comments (head ++
      (match source with
        | none => ""
        | some t => s.clauseText (sourceComments tail) ("FROM " ++ t.write s))) ++ tail.write s
where
  sourceComments (tail : Tail) : List String := tail.comments.source

def Cte.write (s : Style) : Cte → String
  | ⟨aliasName, q⟩ => s.tableAlias aliasName ++ " AS (" ++ q.write s ++ ")"

def cteTexts (s : Style) : List Cte → List String
  | [] => []
  | c :: rest => c.write s :: cteTexts s rest

def Query.write (s : Style) : Query → String
  | .select q => q.write s
  | .set op isAll left right tail =>
    left.write s ++ " " ++ op.text ++ (if isAll then " ALL " else " ") ++ right.write s ++
      tail.write s
  | .wrapped q aliasName tail => "(" ++ q.write s ++ ")" ++ aliasAfter s aliasName ++ tail.write s
  | .tables source aliasName tail =>
    "(" ++ source.write s ++ ")" ++ aliasAfter s aliasName ++ tail.write s
  | .values rows none => "VALUES " ++ commaText (exprTexts s rows)
  | .values rows (some aliasName) =>
    let text := "VALUES " ++ commaText (exprTexts s rows)
    (if s.adapts then text else "(" ++ text ++ ")") ++ aliasAfter s (some aliasName)
  | .withTables isRecursive tables q =>
    "WITH " ++ (if isRecursive then "RECURSIVE " else "") ++ commaText (cteTexts s tables) ++ " " ++
      q.write s
  | .into target isTemporary q =>
    "CREATE " ++ (if isTemporary then "TEMPORARY " else "") ++ "TABLE " ++ target.write s ++
      " AS " ++ q.write s
where
  aliasAfter (s : Style) (aliasName : Option TableAlias) : String :=
    (aliasName.map fun a => s.after (" AS " ++ s.tableAlias a) a.comments).getD ""

end

/-! ## Statements -/

/-- A statement on one line. -/
def Statement.write (s : Style) : Statement → String
  | .query q => q.write s
  | .expression e => e.write s
  | .update source assignments tail =>
    "UPDATE " ++ source.write s ++ " SET " ++ commaText (exprTexts s assignments) ++ tail.write s
  | .delete targets source others tail =>
    "DELETE" ++
      (if targets.isEmpty then ""
        else " " ++ commaText (targets.map fun t => t.write s)) ++
      (match source with
        | none => ""
        | some t => " FROM " ++ t.write s) ++
      (if others.isEmpty then "" else " USING " ++ commaText (others.map fun t => t.write s)) ++
      tail.write s
  | .insert hints isIgnoring target columns rows changes =>
    "INSERT" ++ blankBefore (hintText (exprTexts s hints)) ++
      (if isIgnoring then " IGNORE INTO " else " INTO ") ++ target.write s ++
      (if columns.isEmpty then "" else " (" ++ commaText (exprTexts s columns) ++ ")") ++
      ((rows.map fun q => " " ++ q.write s).getD "") ++
      (if changes.isEmpty then ""
        else " ON DUPLICATE KEY UPDATE " ++ commaText (exprTexts s changes))
  | .describe q => "DESCRIBE " ++ q.write s
  | .create target q => target ++ " AS " ++ q.write s
  | .command text => text

end Sql
end QueryDesigner
