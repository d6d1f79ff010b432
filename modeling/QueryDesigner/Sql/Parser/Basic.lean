import QueryDesigner.Sql.Syntax
import QueryDesigner.Sql.Token

/-!
# Parsers over tokens

* `Parser` — reads from the front of a list of tokens, or refuses it;
* `accept?`, `expect`, `attempt` — the steps of which parsers are made;
* `commaList` — items separated by commas;
* `isNameToken`, `nameAfter?` — which tokens are names, and where;
* `Grammar` — the parsers for parts that may be nested in each other.

A parser whose result is an option finds nothing, and reads nothing, where there is none; it refuses
only what has begun and cannot be finished.
-/

namespace QueryDesigner
namespace Sql

abbrev Parser (α : Type) := StateT (List Token) Option α

namespace Parser

/-! ## Steps -/

def refuse : Parser α := fun _ => none

/-- The next token, which is left where it is. -/
def current? : Parser (Option Token) := do return (← get).head?

/-- The keyword of the next token, empty if it has none. -/
def keyword : Parser String := do
  return ((← current?).map Token.keyword).getD ""

/-- The keyword of the token after the next one. -/
def keywordAhead : Parser String := do
  return ((← get)[1]?.map Token.keyword).getD ""

def isKind (kind : TokenKind) : Parser Bool := do
  return ((← current?).map fun t => t.kind == kind).getD false

/-- Takes the next token if it satisfies a test. -/
def takeIf? (p : Token → Bool) : Parser (Option Token) := do
  match ← get with
  | t :: rest => if p t then set rest; return some t else return none
  | [] => return none

def accept? (keyword : String) : Parser (Option Token) := takeIf? fun t => t.is keyword

def acceptOne? (keywords : List String) : Parser (Option Token) :=
  takeIf? fun t => keywords.contains t.keyword

def accepts (keyword : String) : Parser Bool := do return (← accept? keyword).isSome

def takeKind? (kind : TokenKind) : Parser (Option Token) := takeIf? fun t => t.kind == kind

/-- Takes several keywords that stand in a row, or none of them. -/
def acceptAll (keywords : List String) : Parser Bool := do
  let tokens ← get
  if (tokens.take keywords.length).map Token.keyword = keywords then
    set (tokens.drop keywords.length)
    return true
  else return false

def expect (keyword : String) : Parser Token := do
  match ← accept? keyword with
  | some t => return t
  | none => refuse

/-- What has to be there. -/
def require (p : Parser (Option α)) : Parser α := do
  match ← p with
  | some a => return a
  | none => refuse

/-- The first of two parsers that finds something. -/
def orElse? (p q : Parser (Option α)) : Parser (Option α) := do
  match ← p with
  | some a => return some a
  | none => q

/-- A parser that finds nothing where another one refuses. -/
def attempt (p : Parser (Option α)) : Parser (Option α) := fun tokens =>
  match p tokens with
  | some result => some result
  | none => some (none, tokens)

/-- Whether a parser would find something here; nothing is read. -/
def wouldFind (p : Parser (Option α)) : Parser Bool := fun tokens =>
  match p tokens with
  | some (some _, _) => some (true, tokens)
  | _ => some (false, tokens)

/-! ## Lists -/

/-- Items separated by commas, in at most the given number of steps.  The comments of a comma
belong to the item before it.  An item that is left out counts for nothing. -/
def commaListFrom (note : List String → α → α) (item : Parser (Option α)) :
    Nat → Parser (List α)
  | 0 => refuse
  | steps + 1 => do
    let first ← item
    match ← accept? "," with
    | none => return first.toList
    | some comma =>
      return (first.map (note comma.comments)).toList ++ (← commaListFrom note item steps)

/-- Items separated by commas.  Each step takes a comma, so there are no more than tokens. -/
def commaList (item : Parser (Option α)) : Parser (List α) := do
  commaListFrom (fun _ a => a) item ((← get).length + 1)

/-- Expressions separated by commas. -/
def exprList (item : Parser (Option Expr)) : Parser (List Expr) := do
  commaListFrom (fun comments e => e.withComments comments) item ((← get).length + 1)

/-- As many items as there are, in at most the given number of steps. -/
def repeatedFrom (item : Parser (Option α)) : Nat → Parser (List α)
  | 0 => return []
  | steps + 1 => do
    match ← item with
    | none => return []
    | some a => return a :: (← repeatedFrom item steps)

/-- As many items as there are, each of which takes at least one token. -/
def repeated (item : Parser (Option α)) : Parser (List α) := do
  repeatedFrom item (← get).length

/-! ## Names -/

/-- The keywords that are never names on their own. -/
def reservedWords : List String :=
  ["SELECT", "FROM", "WHERE", "AND", "OR", "NOT", "XOR", "IN", "LIKE", "ILIKE", "RLIKE", "REGEXP",
    "GLOB", "BETWEEN", "ON", "JOIN", "INNER", "CROSS", "OUTER", "STRAIGHT_JOIN", "USING", "HAVING",
    "UNION", "EXCEPT", "INTERSECT", "INTO", "VALUES", "DISTINCT", "DISTINCTROW", "AS", "THEN",
    "ELSE", "WHEN", "INSERT", "CREATE", "DROP", "ALTER", "WITH", "FOR", "FETCH", "FORCE", "IGNORE",
    "GRANT", "REVOKE", "ROLLBACK", "UNCACHE", "QUALIFY", "RETURNING", "LATERAL", "TABLESAMPLE",
    "MOD", "OVER", "KEY", "SEPARATOR", "NOTNULL", "CHARSET"]

/-- The keywords that name functions, but nothing else. -/
def functionWords : List String :=
  ["INSERT", "LIKE", "ILIKE", "GLOB", "RLIKE", "REGEXP", "XOR", "MOD", "VALUES", "CHARSET"]

/-- The keywords that are names, but not of functions. -/
def bareWords : List String :=
  ["ASC", "DESC", "DEFAULT", "LIMIT", "END", "DIV", "DELETE", "UPDATE", "IS", "ESCAPE", "FULL",
    "NATURAL", "PARTITION", "USE", "SHOW", "DESCRIBE", "EXPLAIN", "BEGIN", "START", "COMMIT",
    "LOCK", "KILL", "LOAD", "COLUMN", "CONSTRAINT", "CUBE", "ROLLUP", "TEMPORARY", "ANTI", "SEMI",
    "ASOF", "CACHE", "COMMENT", "COPY", "PRAGMA", "REFERENCES", "ROWS", "UNIQUE", "VIEW",
    "PROCEDURE", "FUNCTION", "TRIGGER", "NAMESPACE", "SESSION", "SETTINGS", "OVERLAPS", "OVERWRITE",
    "PERCENT", "PIVOT", "UNPIVOT", "RECURSIVE", "RENAME", "TEMP", "VOLATILE", "KEEP", "OPERATOR",
    "ORDINALITY", "EXECUTE", "ANALYZE", "AUTO_INCREMENT", "AUTOINCREMENT"]

/-- The keywords that may not follow a table as its other name without `AS`. -/
def afterTableWords : List String :=
  ["ANTI", "ASOF", "FULL", "LEFT", "LOCK", "NATURAL", "RIGHT", "SEMI", "WINDOW", "FORCE", "IGNORE",
    "USE", "LIMIT", "OFFSET"]

/-- A name between backquotes, or a word that is no keyword and not among the excluded ones. -/
def isNameToken (excluded : List String) (t : Token) : Bool :=
  match t.kind with
  | .name => true
  | .variable => true
  | .word => !reservedWords.contains t.keyword && !excluded.contains t.keyword
  | _ => false

/-- A token that may name a function. -/
def isCallable (t : Token) : Bool :=
  isNameToken bareWords t || functionWords.contains t.keyword

/-- A word that is no keyword at all. -/
def isPlainWord (t : Token) : Bool :=
  t.kind == .word && isNameToken bareWords t && (typeWords.lookup t.keyword).isNone &&
    !(["ALL", "ANY", "SOME", "EXISTS", "CASE", "SET", "TABLE", "INDEX", "INTERVAL"].contains
      t.keyword)

/-- Any token but a sign, `SELECT`, `MOD` and `NOT` is a name after `AS` and after a point. -/
def isLooseName (t : Token) : Bool :=
  match t.kind with
  | .sign => 1 < t.text.length && t.text != "=="
  | .hint => false
  | _ => !(["SELECT", "MOD", "NOT"].contains t.keyword)

/-- The name that a token spells. -/
def identOf (t : Token) : Ident := ⟨t.text, t.kind == .name || t.kind == .text⟩

def nameToken? (excluded : List String) : Parser (Option Token) := takeIf? (isNameToken excluded)

def name? : Parser (Option Ident) := do return (← nameToken? []).map identOf

def looseName? : Parser (Option Ident) := do return (← takeIf? isLooseName).map identOf

/-- The name that follows in an alias: any name after `AS`, otherwise only what is no keyword; a
quoted text is a name as well. -/
def nameAfter? (excluded : List String) (afterAs : Bool) : Parser (Option Token) :=
  takeIf? fun t => if afterAs then isLooseName t else isNameToken excluded t || t.kind == .text

/-- Names between parentheses. -/
def nameList : Parser (List Ident) := do
  let _ ← expect "("
  let names ← commaList name?
  let _ ← expect ")"
  return names

end Parser

/-- The parsers for parts that may be nested in each other. -/
structure Grammar where
  /-- A constant, a name, a call or parentheses, with the points after it. -/
  column : Parser (Option Expr)
  /-- What a sign or a prefix operator may stand before. -/
  unary : Parser (Option Expr)
  factor : Parser (Option Expr)
  equality : Parser (Option Expr)
  bitwise : Parser (Option Expr)
  term : Parser (Option Expr)
  disjunction : Parser (Option Expr)
  assignment : Parser (Option Expr)
  /-- An expression that may have an alias. -/
  expression : Parser (Option Expr)
  /-- A query that does not start with a parenthesis. -/
  query : Parser (Option Query)
  /-- A single query, which may be in parentheses. -/
  operand : Parser (Option Query)
  /-- What may follow a query: operators with further queries, order and paging. -/
  continued : Query → Parser Query
  source : Parser (Option TableSource)
  joins : Parser (List Join)

/-- The grammar of nothing at all: every part is refused. -/
def Grammar.nothing : Grammar :=
  { column := Parser.refuse
    unary := Parser.refuse
    factor := Parser.refuse
    equality := Parser.refuse
    bitwise := Parser.refuse
    term := Parser.refuse
    disjunction := Parser.refuse
    assignment := Parser.refuse
    expression := Parser.refuse
    query := Parser.refuse
    operand := Parser.refuse
    continued := fun _ => Parser.refuse
    source := Parser.refuse
    joins := Parser.refuse }

end Sql
end QueryDesigner
