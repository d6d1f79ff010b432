/-!
# Types by name

* `TypeName` — a type as it stands after `AS`;
* `typeWords` — the words for types, each with the name of its type;
* `TypeName.sql` — a type as it is written;
* `TypeName.castSql` — the type under which a value is cast: whole numbers and texts of any length
  have one name each.
-/

namespace QueryDesigner
namespace Sql

inductive TypeName where
  /-- A type by its name, with what stands in parentheses after it. -/
  | named (name : String) (params : List String) (isUnsigned : Bool)
  | array (item : TypeName)
  /-- Text in a character set. -/
  | charset (name : String)
  deriving DecidableEq, Repr

/-- The words for types, in capitals, each with the name of its type. -/
def typeWords : List (String × String) :=
  [("INT", "INT"), ("INTEGER", "INT"), ("INT4", "INT"), ("INT32", "INT"), ("TINYINT", "TINYINT"),
    ("INT1", "TINYINT"), ("BYTE", "TINYINT"), ("SMALLINT", "SMALLINT"), ("INT2", "SMALLINT"),
    ("INT16", "SMALLINT"), ("SHORT", "SMALLINT"), ("MEDIUMINT", "MEDIUMINT"),
    ("BIGINT", "BIGINT"), ("INT8", "BIGINT"), ("INT64", "BIGINT"), ("LONG", "BIGINT"),
    ("SIGNED", "BIGINT"), ("SIGNED INTEGER", "BIGINT"), ("UNSIGNED", "UBIGINT"),
    ("UNSIGNED INTEGER", "UBIGINT"), ("UINT", "UINT"), ("BOOL", "BOOLEAN"),
    ("BOOLEAN", "BOOLEAN"), ("BIT", "BIT"), ("SERIAL", "SERIAL"), ("DEC", "DECIMAL"),
    ("DECIMAL", "DECIMAL"), ("NUMERIC", "DECIMAL"), ("NUMBER", "DECIMAL"), ("FIXED", "DECIMAL"),
    ("REAL", "FLOAT"), ("FLOAT", "FLOAT"), ("FLOAT4", "FLOAT"), ("DOUBLE", "DOUBLE"),
    ("FLOAT8", "DOUBLE"), ("DOUBLE PRECISION", "DOUBLE"), ("CHAR", "CHAR"),
    ("CHARACTER", "CHAR"), ("NCHAR", "NCHAR"), ("VARCHAR", "VARCHAR"), ("VARCHAR2", "VARCHAR"),
    ("CHAR VARYING", "VARCHAR"), ("CHARACTER VARYING", "VARCHAR"), ("NVARCHAR", "NVARCHAR"),
    ("NVARCHAR2", "NVARCHAR"), ("BPCHAR", "BPCHAR"), ("TEXT", "TEXT"), ("STRING", "TEXT"),
    ("STR", "TEXT"), ("CLOB", "TEXT"), ("LONGVARCHAR", "TEXT"), ("TINYTEXT", "TINYTEXT"),
    ("MEDIUMTEXT", "MEDIUMTEXT"), ("LONGTEXT", "LONGTEXT"), ("BINARY", "BINARY"),
    ("VARBINARY", "VARBINARY"), ("BYTEA", "VARBINARY"), ("BLOB", "BLOB"),
    ("TINYBLOB", "TINYBLOB"), ("MEDIUMBLOB", "MEDIUMBLOB"), ("LONGBLOB", "LONGBLOB"),
    ("DATE", "DATE"), ("TIME", "TIME"), ("TIMETZ", "TIMETZ"), ("DATETIME", "DATETIME"),
    ("TIMESTAMP", "TIMESTAMPTZ"), ("TIMESTAMPTZ", "TIMESTAMPTZ"),
    ("TIMESTAMPLTZ", "TIMESTAMPLTZ"), ("TIMESTAMP_LTZ", "TIMESTAMPLTZ"),
    ("TIMESTAMPNTZ", "TIMESTAMPNTZ"), ("TIMESTAMP_NTZ", "TIMESTAMPNTZ"), ("YEAR", "YEAR"),
    ("ENUM", "ENUM"), ("SET", "SET"), ("JSON", "JSON"), ("JSONB", "JSONB"), ("UUID", "UUID"),
    ("GEOMETRY", "GEOMETRY"), ("GEOGRAPHY", "GEOGRAPHY"), ("VECTOR", "VECTOR"),
    ("INET", "INET"), ("OBJECT", "OBJECT"), ("VARIANT", "VARIANT"), ("NULL", "NULL"),
    ("UNKNOWN", "UNKNOWN")]

namespace TypeName

/-- The types that have a form without sign. -/
def signedTypes : List String :=
  ["TINYINT", "SMALLINT", "MEDIUMINT", "INT", "BIGINT", "DECIMAL", "DOUBLE"]

/-- The type that a word with its parameters names. -/
def ofWord (word : String) (params : List String) : TypeName :=
  match (typeWords.lookup word).getD word with
  | "UBIGINT" => .named "BIGINT" params true
  | "UINT" => .named "INT" params true
  | name => .named name params false

/-- The same type without sign, if there is one. -/
def unsigned? : TypeName → Option TypeName
  | .named name params false =>
    if signedTypes.contains name then some (.named name params true) else none
  | _ => none

/-- The names under which some types are written. -/
def writtenNames : List (String × String) :=
  [("NCHAR", "CHAR"), ("NVARCHAR", "VARCHAR"), ("TIMESTAMPTZ", "TIMESTAMP"),
    ("TIMESTAMPLTZ", "TIMESTAMP"), ("TIMESTAMPNTZ", "DATETIME")]

/-- A name with its parameters. -/
def withParams (name : String) (params : List String) : String :=
  if params.isEmpty then name else name ++ "(" ++ String.intercalate ", " params ++ ")"

/-- A type as it is written. -/
def sql : TypeName → String
  | .named "VARCHAR" [] _ => "TEXT"
  | .named name params isUnsigned =>
    withParams ((writtenNames.lookup name).getD name) params ++
      (if isUnsigned then " UNSIGNED" else "")
  | .array item => "ARRAY<" ++ item.sql ++ ">"
  | .charset name => "CHAR CHARACTER SET " ++ name

/-- The names under which values are cast. -/
def castNames : List (String × String) :=
  [("INT", "SIGNED"), ("TINYINT", "SIGNED"), ("SMALLINT", "SIGNED"), ("MEDIUMINT", "SIGNED"),
    ("BIGINT", "SIGNED"), ("BOOLEAN", "SIGNED"), ("VARCHAR", "CHAR"), ("TEXT", "CHAR"),
    ("TINYTEXT", "CHAR"), ("MEDIUMTEXT", "CHAR"), ("LONGTEXT", "CHAR"), ("TINYBLOB", "CHAR"),
    ("MEDIUMBLOB", "CHAR"), ("LONGBLOB", "CHAR")]

/-- A type as it is written in a cast. -/
def castSql : TypeName → String
  | .named "BIGINT" params true => withParams "UNSIGNED" params
  | .named name params false =>
    match castNames.lookup name with
    | some castName => withParams castName params
    | none => (TypeName.named name params false).sql
  | type => type.sql

/-- Values of these types are made by a function. -/
def isMoment : TypeName → Bool
  | .named name _ _ => name == "TIMESTAMPTZ" || name == "TIMESTAMPLTZ"
  | _ => false

/-- Values of these types hold a date. -/
def isDated : TypeName → Bool
  | .named name _ _ =>
    ["DATE", "DATETIME", "TIMESTAMPTZ", "TIMESTAMPLTZ", "TIMESTAMPNTZ"].contains name
  | _ => false

end TypeName

end Sql
end QueryDesigner
