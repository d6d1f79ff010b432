import QueryDesigner.Sql.Parser.TypeName
import QueryDesigner.Sql.Parser.Window

/-!
# Function calls

* `Grammar.argument`, `Grammar.arguments` — the arguments of a call;
* `Grammar.specialCall?` — calls with words between their arguments;
* `Grammar.plainCall` — a call by its name, with arguments as usual.
-/

namespace QueryDesigner
namespace Sql

open QueryDesigner.Sql.Parser

/-! ## Arguments -/

namespace Grammar

variable (g : Grammar)

/-- A query, or an expression that may turn out to be one in parentheses. -/
def queryOrExpression : Parser (Option Expr) := do
  match ← g.query with
  | some q => return some (.query q)
  | none =>
    match ← g.assignment with
    | some e =>
      match e.bare with
      | .query q => return some (.query (← g.continued q))
      | _ => return some e
    | none => return none

/-- The names of the values that an argument depends on, and the arrow after them. -/
def lambdaHead? : Parser (Option (List Ident × String)) := attempt do
  let names ←
    if (← accepts "(") then
      let names ← commaList looseName?
      let _ ← expect ")"
      pure names
    else pure [← require looseName?]
  match ← acceptOne? ["->", "=>"] with
  | some arrow => return some (names, arrow.keyword)
  | none => refuse

/-- An argument that depends on values, or one with its name. -/
def lambda? : Parser (Option Expr) := do
  match ← lambdaHead? with
  | none => return none
  | some (names, arrow) =>
    let body ← require g.disjunction
    match names, arrow with
    | [], _ => refuse
    | first :: _, "=>" => return some (.form [first.text ++ " => ", ""] [body])
    | [name], _ => return some (.form ["", " -> ", ""] [.column [] name, body])
    | names, _ =>
      return some (.form ["", " -> ", ""] [.tuple (names.map (Expr.column [])), body])

/-- An expression with its order and the number of values that count. -/
def withOrder (e : Expr) : Parser Expr := do
  let order ← g.order?
  let e := if order.isEmpty then e else .ordered e order
  match ← g.limit? with
  | some (skip, limit) => return .limited e skip limit
  | none => return e

/-- An argument with the words that may follow it. -/
def withSuffixes (e : Expr) : Parser Expr := do
  let e ← withNulls e
  let e ←
    if (← accepts "HAVING") then
      let end' := ((← acceptOne? ["MAX", "MIN"]).map Token.keyword).getD "MAX"
      pure (Expr.form ["", " HAVING " ++ end' ++ " ", ""] [e, ← require g.column])
    else pure e
  g.withOrder e

/-- Arguments of which equal ones count once: all that are left. -/
def distinctItems? : Parser (Option Expr) := do
  if (← acceptOne? ["DISTINCT", "DISTINCTROW"]).isSome then
    return some (.distinct (← exprList g.disjunction))
  else return none

/-- An argument of which equal ones count as often as they come, as they do anyway. -/
def anyItem? : Parser (Option Expr) := do
  let _ ← accept? "ALL"
  g.queryOrExpression

/-- An argument, which may have an alias on request. -/
def argument (mayHaveAlias : Bool) : Parser (Option Expr) := do
  match ← g.lambda? with
  | some e => return some e
  | none =>
    match ← orElse? g.distinctItems? g.anyItem? with
    | none => return none
    | some e =>
      let e ← if mayHaveAlias then g.withAlias true e else pure e
      return some (← g.withSuffixes e)

def arguments (mayHaveAlias : Bool) : Parser (List Expr) := exprList (g.argument mayHaveAlias)

/-! ## Choices -/

/-- `CASE` with its branches. -/
def caseBranch : Parser (Option (Expr × Expr)) := do
  if (← accepts "WHEN") then
    let condition ← require g.disjunction
    let _ ← accept? "THEN"
    let value ← require g.disjunction
    return some (condition, value)
  else return none

def caseExpr : Parser Expr := do
  let subject ← g.disjunction
  let branches ← repeated g.caseBranch
  let otherwise ← if (← accepts "ELSE") then g.disjunction else pure none
  let close ← expect "END"
  if branches.isEmpty then refuse
  else return (Expr.case subject branches otherwise).withComments close.comments

def choiceExpr : Parser Expr := do
  match ← exprList g.expression with
  | [condition, yes] => return .choice condition yes none
  | [condition, yes, no] => return .choice condition yes (some no)
  | _ => refuse

/-- A choice in words: `IF … THEN … ELSE … END`. -/
def spokenChoice? : Parser (Option Expr) := do
  match ← g.disjunction with
  | none => return none
  | some condition =>
    let _ ← accept? "THEN"
    let yes ← require g.disjunction
    let no ← if (← accepts "ELSE") then some <$> require g.disjunction else pure none
    let _ ← accept? "END"
    return some (.choice condition yes no)

/-! ## Casts -/

/-- The name of a character set. -/
def charset : Parser String := do
  let name ← require (takeIf? fun t => isPlainWord t || t.kind == .text)
  return if name.kind == .text then (Literal.text name.text).sql else name.text

/-- A cast that says more about the text. -/
def castWith (e : Expr) (type : TypeName) (word : String) (more : Expr) : Expr :=
  .form ["CAST(", " AS " ++ type.castSql ++ " " ++ word ++ " ", ")"] [e, more]

/-- The character set of a text type. -/
def charsetAfter? : TypeName → Parser (Option String)
  | .named "CHAR" _ _ => do
    if (← acceptOne? ["CHARACTER SET", "CHARSET"]).isSome then return some (← charset)
    else return none
  | _ => return none

def castExpr : Parser Expr := do
  let e ← require g.disjunction
  let _ ← expect "AS"
  let type ← require typeName?
  if (← accepts "COLLATE") then return castWith e type "COLLATE" (← require g.column)
  else if (← acceptOne? ["FORMAT", ","]).isSome then
    let format := Expr.string (← require (takeKind? .text)).text
    if type.isDated then return .function "STR_TO_DATE" [e, formatOf format]
    else return castWith e type "FORMAT" format
  else
    match ← charsetAfter? type with
    | some name => return .cast e (.charset name)
    | none => return .cast e type

def convertExpr : Parser Expr := do
  let e ← require g.bitwise
  if (← accepts "USING") then
    let name ← require (takeIf? isPlainWord)
    return .cast e (.charset name.text)
  else if (← accepts ",") then return .cast e (← require typeName?)
  else refuse

/-! ## Texts -/

def trimExpr : Parser Expr := do
  let place := ((← acceptOne? ["BOTH", "LEADING", "TRAILING"]).map Token.keyword).getD ""
  let first ← g.bitwise
  if (← accepts "FROM") then return trimmed place (← require g.bitwise) first
  else if (← accepts ",") then
    match first with
    | some target => return trimmed place target (some (← require g.bitwise))
    | none => refuse
  else
    match first with
    | some target => return trimmed place target none
    | none => refuse

def substringExpr : Parser Expr := do
  let args ← exprList g.bitwise
  let start ← if (← accepts "FROM") then g.bitwise else pure none
  let size ← if (← accepts "FOR") then g.bitwise else pure none
  let start := if size.isSome then some (start.getD (.number "1")) else start
  let args := args ++ start.toList ++ size.toList
  match canonicalCall? "SUBSTRING" args with
  | some e => return e
  | none => refuse

def positionExpr : Parser Expr := do
  match ← exprList g.bitwise with
  | [part] =>
    let _ ← expect "IN"
    let whole ← require g.bitwise
    return .function "LOCATE" [part, whole]
  | part :: whole :: others => return .function "LOCATE" (part :: whole :: others)
  | [] => refuse

/-- A text with another one in place of a part of it. -/
def overlayExpr : Parser Expr := do
  let e ← require g.bitwise
  let part (word : String) : Parser (Option Expr) := do
    if (← acceptOne? [",", word]).isSome then g.bitwise else return none
  match ← part "PLACING", ← part "FROM", ← part "FOR" with
  | some text, some start, none => return .form ["OVERLAY(", " PLACING ", " FROM ", ")"] [e, text, start]
  | some text, some start, some size =>
    return .form ["OVERLAY(", " PLACING ", " FROM ", " FOR ", ")"] [e, text, start, size]
  | _, _, _ => refuse

/-- Characters by their codes. -/
def charExpr : Parser Expr := do
  let codes ← exprList g.assignment
  if (← accepts "USING") then
    let charset ← charset
    return .form ("CHAR(" :: List.replicate (codes.length - 1) ", " ++ [" USING " ++ charset ++ ")"])
      codes
  else return .function "CHAR" codes

/-- Several values in a row are one text. -/
def joinedValues? : List Expr → Option Expr
  | [] => none
  | [.distinct (first :: second :: others)] =>
    some (.distinct [.function "CONCAT" (first :: second :: others)])
  | [e] => some e
  | es => some (.function "CONCAT" es)

/-- The values of a group as one text: the order after the last one is that of all. -/
def groupContent? (args : List Expr) : Option Expr :=
  match args.getLast? with
  | some (.ordered last order) =>
    (joinedValues? (args.dropLast ++ [last])).map fun e => .ordered e order
  | _ => joinedValues? args

def groupConcat (content separator : Expr) : Expr :=
  .form ["GROUP_CONCAT(", " SEPARATOR ", ")"] [content, separator]

def groupConcatExpr : Parser Expr := do
  let args ← g.arguments false
  let separator ← if (← accepts "SEPARATOR") then g.column else pure none
  match groupContent? args with
  | some content => return groupConcat content (separator.getD (.string ","))
  | none => refuse

/-- The values of a group, the text between them, and their order, which may follow in parentheses
of its own. -/
def stringAggExpr : Parser Expr := do
  let isDistinct := (← acceptOne? ["DISTINCT", "DISTINCTROW"]).isSome
  match ← exprList g.disjunction with
  | [] => refuse
  | first :: others =>
    let content := if isDistinct then Expr.distinct [first] else first
    let _ ← acceptAll [")", "WITHIN", "GROUP", "("]
    return groupConcat (← g.withOrder content) (others.headD (.string ","))

/-! ## Times -/

def extractExpr : Parser Expr := do
  let unit ← require (takeIf? isLooseName)
  if (← acceptOne? ["FROM", ","]).isSome then
    let e ← require g.bitwise
    if Text.lower unit.text = "epoch" then return .function "UNIX_TIMESTAMP" [e]
    else
      let word := if unit.kind == .text then paramText unit else Text.upper unit.text
      return .form ["EXTRACT(" ++ word ++ " FROM ", ")"] [e]
  else refuse

/-! ## Searches -/

/-- The mode of a full-text search. -/
def searchMode : Parser String := do
  if (← acceptAll ["IN", "BOOLEAN", "MODE"]) then return " IN BOOLEAN MODE"
  else if (← acceptAll ["IN", "NATURAL", "LANGUAGE", "MODE"]) then
    if (← acceptAll ["WITH", "QUERY", "EXPANSION"]) then
      return " IN NATURAL LANGUAGE MODE WITH QUERY EXPANSION"
    else return " IN NATURAL LANGUAGE MODE"
  else if (← acceptAll ["WITH", "QUERY", "EXPANSION"]) then return " WITH QUERY EXPANSION"
  else return ""

def matchExpr : Parser Expr := do
  let columns ← exprList g.expression
  let _ ← expect ")"
  let _ ← expect "AGAINST"
  let _ ← expect "("
  let sought ← require g.unary
  let mode ← searchMode
  return .form ["", " AGAINST(", mode ++ ")"] [.function "MATCH" columns, sought]

/-! ## JSON -/

/-- What a JSON function gives where it finds nothing, or fails. -/
def jsonHandling? (event : String) (results : List String) : Parser (Option Expr) := do
  match ← attempt (acceptedResult results) with
  | some e => return some e
  | none =>
    attempt do
      let _ ← expect "DEFAULT"
      let e ← require g.bitwise
      if (← acceptAll ["ON", event]) then return some (.form ["DEFAULT ", " ON " ++ event] [e])
      else refuse
where
  acceptedResult : List String → Parser (Option Expr)
    | [] => return none
    | result :: rest => do
      if (← acceptAll [result, "ON", event]) then return some (.marker (result ++ " ON " ++ event))
      else acceptedResult rest

/-- What a JSON function may give instead of a value. -/
def jsonResults : List String := ["ERROR", "NULL", "TRUE", "FALSE", "EMPTY"]

/-- Parts with blanks between them. -/
def spaced (parts : List Expr) : Expr :=
  .form ("" :: List.replicate (parts.length - 1) " " ++ [""]) parts

def jsonValueExpr : Parser Expr := do
  let e ← require g.bitwise
  let _ ← accept? ","
  match jsonPathOf? (← require g.bitwise) with
  | none => refuse
  | some path =>
    let returning ←
      if (← accepts "RETURNING") then pure [Expr.form ["RETURNING ", ""] [← require g.column]]
      else pure []
    let onEmpty ← g.jsonHandling? "EMPTY" jsonResults
    let onError ← g.jsonHandling? "ERROR" jsonResults
    let clauses := returning ++ onEmpty.toList ++ onError.toList
    return .form ["JSON_VALUE(", ", ", ")"] [e, spaced (path :: clauses)]

/-- A key of a JSON object with its value. -/
def jsonMember? : Parser (Option (List Expr)) := do
  let _ ← accept? "KEY"
  let key ← g.column
  let _ ← acceptOne? [":", ",", "IS"]
  let _ ← accept? "VALUE"
  match key, ← g.bitwise with
  | some key, some value => return some [key, value]
  | none, none => return none
  | _, _ => refuse

def jsonObjectExpr (name : String) : Parser Expr := do
  let members ← commaList g.jsonMember?
  let handling ← g.jsonHandling? "NULL" ["NULL", "ABSENT"]
  let items := members.flatten
  match handling with
  | none => return .function name items
  | some handling =>
    return .form [name ++ "(", " ", ")"]
      [.form ("" :: List.replicate (items.length - 1) ", " ++ [""]) items, handling]

/-- The columns of a table that is read from a JSON value, in at most the given depth. -/
def jsonColumns : Nat → Parser Expr
  | 0 => refuse
  | depth + 1 => do
    let _ ← accept? "COLUMNS"
    let _ ← expect "("
    let columns ← commaList (column depth)
    let _ ← expect ")"
    return .form ("COLUMNS(" :: List.replicate (columns.length - 1) ", " ++ [")"]) columns
where
  path? : Parser (List Expr) := do
    if (← accepts "PATH") then
      match ← takeKind? .text with
      | some t => return [.form ["PATH ", ""] [.string t.text]]
      | none => return []
    else return []
  column (depth : Nat) : Parser (Option Expr) := do
    if (← accepts "NESTED") then
      let path ← path?
      return some (spaced ([.marker "NESTED"] ++ path ++ [← jsonColumns depth]))
    else
      match ← looseName? with
      | none => return none
      | some name =>
        if (← acceptAll ["FOR", "ORDINALITY"]) then
          return some (spaced [.column [] name, .marker "FOR ORDINALITY"])
        else
          let type := (← typeName?).map fun type => Expr.marker type.sql
          return some (spaced (.column [] name :: type.toList ++ (← path?)))

def jsonTableExpr : Parser Expr := do
  let e ← require g.bitwise
  let path ← if (← accepts ",") then takeKind? .text else pure none
  let onError ← g.jsonHandling? "ERROR" ["ERROR", "NULL"]
  let onEmpty ← g.jsonHandling? "EMPTY" ["ERROR", "NULL"]
  let columns ← jsonColumns (← get).length
  let clauses := onError.toList ++ onEmpty.toList ++ [columns]
  match path with
  | some path => return .form ["JSON_TABLE(", ", ", ")"] [e, spaced (.string path.text :: clauses)]
  | none => return .form ["JSON_TABLE(", " ", ")"] [e, spaced clauses]

/-! ## All calls -/

/-- A query after a word that compares with its rows. -/
def rowsExpr (make : Query → Expr) (name : String) : Parser Expr := do
  match ← g.query with
  | some q => return make q
  | none =>
    match name, ← g.arguments false with
    | "EXISTS", [.query q] => return .existsRow q
    | _, args =>
      match canonicalCall? name args with
      | some e => return e
      | none => refuse

/-- The values of a new row, by the name of a column. -/
def newValueExpr : Parser Expr := do
  return .function "VALUES" ((← name?).map (Expr.column [])).toList

/-- The reader of the arguments of a call with words in it. -/
def specialCall? : String → Option (Parser Expr)
  | "IF" => some g.choiceExpr
  | "CAST" => some g.castExpr
  | "TRY_CAST" => some g.castExpr
  | "SAFE_CAST" => some g.castExpr
  | "CONVERT" => some g.convertExpr
  | "TRY_CONVERT" => some g.convertExpr
  | "EXTRACT" => some g.extractExpr
  | "TRIM" => some g.trimExpr
  | "SUBSTRING" => some g.substringExpr
  | "SUBSTR" => some g.substringExpr
  | "MID" => some g.substringExpr
  | "POSITION" => some g.positionExpr
  | "OVERLAY" => some g.overlayExpr
  | "CHAR" => some g.charExpr
  | "CHR" => some g.charExpr
  | "GROUP_CONCAT" => some g.groupConcatExpr
  | "STRING_AGG" => some g.stringAggExpr
  | "MATCH" => some g.matchExpr
  | "JSON_VALUE" => some g.jsonValueExpr
  | "JSON_OBJECT" => some (g.jsonObjectExpr "JSON_OBJECT")
  | "JSON_OBJECTAGG" => some (g.jsonObjectExpr "JSON_OBJECTAGG")
  | "JSON_TABLE" => some g.jsonTableExpr
  | "VALUES" => some newValueExpr
  | "EXISTS" => some (g.rowsExpr .existsRow "EXISTS")
  | "ALL" => some (g.rowsExpr .allRows "ALL")
  | "SOME" => some (g.rowsExpr (fun q => .anyRow (.query q)) "SOME")
  | _ => none

/-- A call by its name, with arguments as usual.  Only the arguments of functions that are not known
may have aliases. -/
def plainCall (name : Token) : Parser Expr := do
  let word := Text.upper name.text
  let isKnown := (functionInfo? word).isSome
  let args ← g.arguments (!isKnown)
  if name.kind == .name && !isKnown then return .call ⟨name.text, true⟩ args
  else
    match canonicalCall? word args with
    | some e => return e
    | none => refuse

end Grammar

end Sql
end QueryDesigner
