import QueryDesigner.Sql.Quoted
import QueryDesigner.Sql.Syntax
import QueryDesigner.Text.Blank
import QueryDesigner.Text.LetterCase

/-!
# Writing names, constants and comments

* `Style` — the choices that a writer of SQL makes;
* `Style.ident` — a name, between backquotes where it has to be;
* `Literal.sql` — a constant;
* `Style.after`, `Style.before` — text with comments beside it.
-/

namespace QueryDesigner
namespace Sql

/-- The choices that a writer of SQL makes. -/
structure Style where
  /-- Names without quotes are written in lower case. -/
  foldsNames : Bool := false
  showsComments : Bool := true
  /-- `ASC` is written where it was read. -/
  showsAscending : Bool := true
  /-- Names that are reserved words are put between backquotes. -/
  quotesReserved : Bool := true
  /-- What the server does not know is written by other means. -/
  adapts : Bool := true
  deriving DecidableEq, Repr

namespace Style

/-- As the text was read. -/
def verbatim : Style := {}

/-- As two texts are compared: names in lower case. -/
def folded : Style := { foldsNames := true }

/-- As single clauses are compared. -/
def clause : Style := { quotesReserved := false, adapts := false }

/-- What remains of a statement besides comments and directions that go without saying. -/
def essential : Style :=
  { showsComments := false, showsAscending := false, quotesReserved := false, adapts := false }

end Style

/-! ## Names -/

/-- The words that are names only between backquotes. -/
def reservedNames : List String :=
  ["accessible", "add", "all", "alter", "analyze", "and", "as", "asc", "asensitive", "before",
    "between", "bigint", "binary", "blob", "both", "by", "call", "cascade", "case", "change",
    "char", "character", "check", "collate", "column", "condition", "constraint", "continue",
    "convert", "create", "cross", "cube", "cume_dist", "current_date", "current_time",
    "current_timestamp", "current_user", "cursor", "database", "databases", "day_hour",
    "day_microsecond", "day_minute", "day_second", "dec", "decimal", "declare", "default",
    "delayed", "delete", "dense_rank", "desc", "describe", "deterministic", "distinct",
    "distinctrow", "div", "double", "drop", "dual", "each", "else", "elseif", "empty", "enclosed",
    "escaped", "except", "exists", "exit", "explain", "false", "fetch", "first_value", "float",
    "float4", "float8", "for", "force", "foreign", "from", "fulltext", "function", "generated",
    "get", "grant", "group", "grouping", "groups", "having", "high_priority", "hour_microsecond",
    "hour_minute", "hour_second", "if", "ignore", "in", "index", "infile", "inner", "inout",
    "insensitive", "insert", "int", "int1", "int2", "int3", "int4", "int8", "integer", "intersect",
    "interval", "into", "io_after_gtids", "io_before_gtids", "is", "iterate", "join", "json_table",
    "key", "keys", "kill", "lag", "last_value", "lateral", "lead", "leading", "leave", "left",
    "like", "limit", "linear", "lines", "load", "localtime", "localtimestamp", "lock", "long",
    "longblob", "longtext", "loop", "low_priority", "master_bind", "master_ssl_verify_server_cert",
    "match", "maxvalue", "mediumblob", "mediumint", "mediumtext", "middleint",
    "minute_microsecond", "minute_second", "mod", "modifies", "natural", "not",
    "no_write_to_binlog", "nth_value", "ntile", "null", "numeric", "of", "on", "optimize",
    "optimizer_costs", "option", "optionally", "or", "order", "out", "outer", "outfile", "over",
    "partition", "percent_rank", "precision", "primary", "procedure", "purge", "range", "rank",
    "read", "reads", "read_write", "real", "recursive", "references", "regexp", "release",
    "rename", "repeat", "replace", "require", "resignal", "restrict", "return", "revoke", "right",
    "rlike", "row", "rows", "row_number", "schema", "schemas", "second_microsecond", "select",
    "sensitive", "separator", "set", "show", "signal", "smallint", "spatial", "specific", "sql",
    "sqlexception", "sqlstate", "sqlwarning", "sql_big_result", "sql_calc_found_rows",
    "sql_small_result", "ssl", "starting", "stored", "straight_join", "system", "table",
    "terminated", "then", "tinyblob", "tinyint", "tinytext", "to", "trailing", "trigger", "true",
    "undo", "union", "unique", "unlock", "unsigned", "update", "usage", "use", "using", "utc_date",
    "utc_time", "utc_timestamp", "values", "varbinary", "varchar", "varcharacter", "varying",
    "virtual", "when", "where", "while", "window", "with", "write", "xor", "year_month",
    "zerofill"]

/-- A name between backquotes. -/
def backquoted (name : String) : String :=
  "`" ++ String.ofList (doubled '`' name.toList) ++ "`"

namespace Style

variable (s : Style)

/-- A name.  Quotes stay where they were read. -/
def ident (i : Ident) : String :=
  if i.quoted then backquoted i.text
  else
    let text := if s.foldsNames then Text.lower i.text else i.text
    if s.quotesReserved && reservedNames.contains (Text.lower i.text) then backquoted text
    else String.ofList (doubled '`' text.toList)

/-- Names with points between them. -/
def path (names : List Ident) : String := String.intercalate "." (names.map s.ident)

/-- The other name of a table, with the names of its columns. -/
def tableAlias (aliasName : TableAlias) : String :=
  let columns :=
    if aliasName.columns.isEmpty then ""
    else "(" ++ String.intercalate ", " (aliasName.columns.map s.ident) ++ ")"
  (aliasName.name.map s.ident).getD "" ++ columns

end Style

/-! ## Constants -/

/-- A constant as it is written. -/
def Literal.sql : Literal → String
  | .numeral digits => digits.text
  | .text value => String.ofList (writeText value.toList)
  | .national value => "N" ++ String.ofList (writeText value.toList)
  | .hex digits => "x'" ++ digits ++ "'"
  | .bits digits => "b'" ++ digits ++ "'"

/-! ## Comments -/

/-- The characters with a blank between `a` and `b` wherever they meet. -/
def parted (a b : Char) : List Char → List Char
  | c :: d :: rest =>
    if c = a ∧ d = b then c :: ' ' :: parted a b (d :: rest) else c :: parted a b (d :: rest)
  | cs => cs

/-- The characters of a comment in which no comment starts or ends. -/
def withoutMarks (cs : List Char) : List Char := parted '/' '*' (parted '*' '/' cs)

/-- A comment with a blank at each end. -/
def paddedComment (cs : List Char) : List Char :=
  let cs := if (cs.head?.map Text.isBlank).getD true then cs else ' ' :: cs
  if (cs.getLast?.map Text.isBlank).getD true then cs else cs ++ [' ']

def commentText (comment : String) : String :=
  "/*" ++ String.ofList (withoutMarks (paddedComment comment.toList)) ++ "*/"

namespace Style

variable (s : Style)

/-- All comments that hold something, with blanks between them. -/
def comments (comments : List String) : String :=
  if s.showsComments then
    String.intercalate " " ((comments.filter fun c => !c.isEmpty).map commentText)
  else ""

/-- Text with comments behind it. -/
def after (text : String) (comments : List String) : String :=
  let shown := s.comments comments
  if shown.isEmpty then text else text ++ " " ++ shown

/-- Text with comments in front of it. -/
def before (comments : List String) (text : String) : String :=
  let shown := s.comments comments
  if shown.isEmpty then text else shown ++ " " ++ text

/-- A clause, with a blank and the comments of its keyword in front of it. -/
def clauseText (comments : List String) (text : String) : String :=
  " " ++ s.before comments text

end Style

end Sql
end QueryDesigner
