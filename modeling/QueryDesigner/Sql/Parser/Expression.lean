import QueryDesigner.Sql.Parser.Constant

/-!
# Expressions

* `Grammar.field?` — constants, names, calls and what stands in parentheses;
* `Grammar.columnExpr` — a field with the points and brackets after it;
* `Grammar.unaryExpr` — an atom with the operators before it;
* `chain` — operators of one level, which bind to the left;
* `Grammar.bitwiseExpr`, `Grammar.rangeExpr`, `Grammar.assignmentExpr` — the levels, from the
  tightest to the loosest;
* `Grammar.expressionItem` — an expression with its alias.

The comments of an operator belong to its right operand.
-/

namespace QueryDesigner
namespace Sql

open QueryDesigner.Sql.Parser

namespace Grammar

variable (g : Grammar)

/-! ## Stars -/

/-- A change to the columns that a star stands for. -/
def starChange? (words : List String) (shown : String) : Parser (Option Expr) := do
  if (← acceptOne? words).isSome then
    if (← accepts "(") then
      let items ← exprList g.expression
      let _ ← expect ")"
      return if items.isEmpty then none else some (.listForm shown items)
    else
      match ← g.disjunction with
      | none => return none
      | some e => return some (.listForm shown [← g.withAlias true e])
  else return none

/-- The changes to the columns that a star stands for. -/
def starChanges : Parser (List Expr) := do
  let left ← g.starChange? ["EXCEPT", "EXCLUDE"] "EXCEPT"
  let replaced ← g.starChange? ["REPLACE"] "REPLACE"
  let renamed ← g.starChange? ["RENAME"] "RENAME"
  return left.toList ++ replaced.toList ++ renamed.toList

def star? : Parser (Option Expr) := do
  match ← accept? "*" with
  | none => return none
  | some t => return some ((Expr.star (← g.starChanges)).withComments t.comments)

/-! ## Parentheses -/

/-- Whether the last token between two places of the text is a comma. -/
def endsWithComma (before after : List Token) : Bool :=
  ((before.take (before.length - after.length)).getLast?.map fun t => t.is ",").getD false

/-- What stands between parentheses: a query, several values, or an expression. -/
def content : Parser Expr := do
  match ← g.query with
  | some q => return .query (.wrapped q none Tail.empty)
  | none =>
    let before ← get
    let items ← exprList g.expression
    match items with
    | [] => return .tuple []
    | [e] =>
      match e.bare with
      | .query q => return .query (.wrapped (← g.continued q) none Tail.empty)
      | _ => return if endsWithComma before (← get) then .tuple [e] else .paren e
    | _ => return .tuple items

/-- Whether an expression is a call of a function of many rows. -/
def isAggregate (e : Expr) : Bool :=
  match e.bare with
  | .call name _ => aggregates.contains name.text
  | .form ("GROUP_CONCAT(" :: _) _ => true
  | _ => false

def parenthesized? : Parser (Option Expr) := do
  match ← accept? "(" with
  | none => return none
  | some opening =>
    let inner ← g.content
    let closing ← expect ")"
    let e := inner.withComments (opening.comments ++ closing.comments)
    match inner with
    | .paren call => if isAggregate call then return some (← g.overClause e) else return some e
    | _ => return some e

/-! ## Calls and names -/

/-- Words that are calls without parentheses. -/
def nullaryCalls : List String :=
  ["CURRENT_DATE", "CURRENT_TIMESTAMP", "CURRENT_TIME", "CURRENT_USER", "LOCALTIME",
    "LOCALTIMESTAMP", "UTC_DATE", "UTC_TIME", "UTC_TIMESTAMP"]

/-- A call with its arguments and its window. -/
def call? : Parser (Option Expr) := do
  match ← get with
  | name :: opening :: rest =>
    if isCallable name && opening.is "(" then
      set rest
      let call ← (g.specialCall? (Text.upper name.text)).getD (g.plainCall name)
      let closing ← expect ")"
      return some (← g.overClause (call.withComments (name.comments ++ closing.comments)))
    else return none
  | _ => return none

/-- A call between braces. -/
def bracedCall? : Parser (Option Expr) := do
  if (← acceptAll ["\x7b", "FN"]) then
    let e ← g.call?
    let _ ← accept? "\x7d"
    match e with
    | some e => return some e
    | none => refuse
  else return none

/-- A moment between braces. -/
def bracedMoment? : Parser (Option Expr) := do
  match ← get with
  | opening :: word :: rest =>
    match if opening.is "\x7b" then moments.lookup word.keyword else none with
    | none => return none
    | some function =>
      set rest
      let text ← takeKind? .text
      let _ ← expect "\x7d"
      return some (.function function (text.map fun t => Expr.string t.text).toList)
  | _ => return none
where
  moments : List (String × String) := [("D", "DATE"), ("T", "TIME"), ("TS", "TIMESTAMP")]

/-- A word that is an expression of its own, whatever follows it. -/
def keywordExpr? : Parser (Option Expr) := do
  match ← keyword with
  | "CASE" =>
    if (← keywordAhead) = "." then return none
    else
      let word ← expect "CASE"
      let e ← g.caseExpr
      return some (← g.overClause (e.withComments word.comments))
  | "PRIOR" =>
    if (← isKind .phrase) then
      let _ ← expect "PRIOR"
      return some (← g.overClause (.form ["PRIOR ", ""] [← require g.bitwise]))
    else return none
  | "CONNECT_BY_ROOT" =>
    let _ ← expect "CONNECT_BY_ROOT"
    let e ← require g.column
    return some (← g.overClause (.form ["CONNECT_BY_ROOT ", ""] [e]))
  | "NEXT" =>
    if (← acceptAll ["NEXT", "VALUE", "FOR"]) then
      return some (.form ["NEXT VALUE FOR ", ""] [← require g.column])
    else return none
  | "ANY" =>
    let _ ← expect "ANY"
    let e ← require g.bitwise
    return some (← g.overClause (.anyRow e))
  | "IF" =>
    if (← keywordAhead) = "(" then return none
    else
      let tokens ← get
      let _ ← expect "IF"
      match ← g.spokenChoice? with
      | some e => return some (← g.overClause e)
      | none =>
        set tokens
        return none
  | _ => return none

/-- A word that is a call without parentheses. -/
def nullaryCall? : Parser (Option Expr) := do
  let word ← keyword
  if nullaryCalls.contains word && (← keywordAhead) ≠ "(" then
    let t ← expect word
    return (canonicalCall? word []).map fun e => e.withComments t.comments
  else return none

def columnName? : Parser (Option Expr) := do
  return (← nameToken? []).map fun t => (Expr.column [] (identOf t)).withComments t.comments

/-- Constants and what stands in parentheses. -/
def primary? : Parser (Option Expr) :=
  [constant?, fraction?, g.star?, introduced?, g.parenthesized?].foldr orElse? (return none)

/-- Constants, names, calls and what stands in parentheses. -/
def field? : Parser (Option Expr) :=
  [g.primary?, g.keywordExpr?, nullaryCall?, g.call?, g.bracedCall?, userVariable?,
    columnName?].foldr orElse? (return none)

/-! ## Points and other operators after a field -/

/-- The most names before the last point of a column. -/
def maxPath : Nat := 3

/-- What a name after a point makes of the expression before it. -/
def named (owner : Expr) (name : Ident) : Expr :=
  match owner with
  | .column path last =>
    if path.length < maxPath then .column (path ++ [last]) name
    else .member owner (.column [] name)
  | e => .member e (.column [] name)

/-- What a constant or a star after a point makes of the expression before it. -/
def withField (owner field : Expr) : Expr :=
  match owner, field with
  | .column path last, .star changes => .columns (path ++ [last]) changes
  | .column path last, field =>
    if path.length < maxPath then .fieldOf (path ++ [last]) field else .member owner field
  | e, field => .member e field

/-- A call after a point keeps its name as it is. -/
def qualifiedCall? : Parser (Option Expr) := do
  match ← get with
  | name :: opening :: rest =>
    if isLooseName name && opening.is "(" then
      set rest
      let args ← g.arguments true
      let closing ← expect ")"
      let call := Expr.call (identOf name) args
      return some (← g.overClause (call.withComments (name.comments ++ closing.comments)))
    else return none
  | _ => return none

/-- The comments of an expression. -/
def outerComments : Expr → List String
  | .commented _ comments _ => comments
  | _ => []

/-- The part after a point. -/
def afterPoint (owner : Expr) : Parser Expr := do
  let comments := outerComments owner
  if let some e ← orElse? g.keywordExpr? nullaryCall? then
    return (Expr.member owner.bare e).withComments comments
  else if let some call ← g.qualifiedCall? then
    return (Expr.member owner.bare call).withComments comments
  else if let some field ← g.primary? then
    return (withField owner.bare field.bare).withComments (comments ++ outerComments field)
  else
    let t ← require (takeIf? isLooseName)
    return (named owner.bare (identOf t)).withComments (comments ++ t.comments)

/-- The operand of an operator on JSON values, given the operators after a field. -/
def jsonOperand (operators : Expr → Parser Expr) : Parser Expr := do
  match ← g.field? with
  | some (.column path name) =>
    if (← keyword) = "." then operators (.column path name) else return .column path name
  | some e => return e
  | none => require g.bitwise

/-- A name that needs no backquotes if it is an ordinary word. -/
def plainIdent (name : String) : Ident :=
  let isWord :=
    match name.toList with
    | [] => false
    | c :: cs => (c.isAlpha || c == '_') && cs.all fun c => Text.isWordChar c
  ⟨name, !isWord⟩

/-- A field of a record: its value under its name. -/
def recordField (e : Expr) : Expr :=
  match e with
  | .form ["", " : ", ""] [key, value] => .aliased value (plainIdent (keyName key))
  | .binary .eq key value => .aliased value (plainIdent (keyName key))
  | e => e
where
  keyName (key : Expr) : String :=
    match key.bare with
    | .column _ name => name.text
    | .literal (.text name) => name
    | .literal (.numeral digits) => digits.text
    | _ => ""

/-- A place in an array, or a range of them. -/
def arrayPlace? : Parser (Option Expr) := do
  match ← g.disjunction with
  | none => return none
  | some e =>
    let e ← g.withAlias true e
    if (← accepts ":") then return some (.form ["", " : ", ""] [e, ← require g.disjunction])
    else return some e

/-- Places between brackets after an expression. -/
def bracketed (e : Expr) (places : List Expr) : Expr :=
  match e.bare with
  | .column [] ⟨name, false⟩ =>
    if ["ARRAY", "LIST"].contains (Text.upper name) then .function (Text.upper name) places
    else placesOf e places
  | _ => placesOf e places
where
  placesOf (e : Expr) (places : List Expr) : Expr :=
    .form ("" :: "[" :: List.replicate (places.length - 1) ", " ++ ["]"]) (e :: places)

/-- What stands before a closing bracket. -/
def places (closing : String) : Parser (List Expr) := do
  let places ← exprList g.arrayPlace?
  let _ ← expect closing
  return places

/-- A record by its fields, after the opening brace.  What stands before the brace does not
count. -/
def record : Parser Expr := do
  return .function "STRUCT" ((← g.places "\x7d").map recordField)

/-- The path of an operator on JSON values. -/
def jsonPathAfter (operators : Expr → Parser Expr) : Parser Expr := do
  match jsonPathOf? (← g.jsonOperand operators) with
  | some path => return path
  | none => refuse

/-- An operator after a field, if there is one, given the operators after that. -/
def columnOperator? (operators : Expr → Parser Expr) (e : Expr) : Parser (Option Expr) := do
  match ← acceptOne? [".", "::", "->", "->>", "#>", "#>>", "?", "\x7b", "["] with
  | none => return none
  | some t =>
    match t.keyword with
    | "." => return some (← g.afterPoint e)
    | "::" => return some (.cast e (← require typeName?))
    | "->" => return some (.function "JSON_EXTRACT" [e, ← g.jsonPathAfter operators])
    | "->>" => return some (.binary .jsonText (jsonValue e) (← g.jsonPathAfter operators))
    | "#>" => return some (.function "JSONB_EXTRACT" [e, ← g.jsonOperand operators])
    | "#>>" => return some (.function "JSONB_EXTRACT_SCALAR" [e, ← g.jsonOperand operators])
    | "?" => return some (.function "JSONB_CONTAINS" [e, ← g.jsonOperand operators])
    | "\x7b" => return some (← g.record)
    | _ => return some (bracketed e (← g.places "]"))

/-- An expression with all the operators after it, in at most the given number of steps. -/
def columnOperatorsFrom : Nat → Expr → Parser Expr
  | 0, e => return e
  | steps + 1, e => do
    match ← g.columnOperator? (columnOperatorsFrom steps) e with
    | none => return e
    | some e => columnOperatorsFrom steps e

def columnOperators (e : Expr) : Parser Expr := do
  g.columnOperatorsFrom (← get).length e

/-- An array by its items, or a record by its fields. -/
def array? : Parser (Option Expr) := do
  if (← accepts "[") then return some (.function "ARRAY" (← g.places "]"))
  else if (← accepts "\x7b") then return some (← g.record)
  else return none

/-- A field with the operators after it. -/
def columnExpr : Parser (Option Expr) := do
  match ← orElse? g.field? (orElse? bracedMoment? g.array?) with
  | none => return none
  | some e => return some (← g.columnOperators e)

/-! ## Operators before an atom -/

/-- The word for bytes before a column is a cast. -/
def bytes? : Parser (Option Expr) := do
  if (← keyword) = "BINARY" then
    match ← typeBeforeText? with
    | none => return none
    | some type => return some (.cast (← require g.columnExpr) type)
  else return none

/-- An expression with the time zones after it, in at most the given number of steps. -/
def zonesFrom : Nat → Expr → Parser Expr
  | 0, e => return e
  | steps + 1, e => do
    if (← acceptAll ["AT", "TIME", "ZONE"]) then
      zonesFrom steps (.inZone e (← require g.unary))
    else return e

/-- The tightest expressions. -/
def atom? : Parser (Option Expr) := do
  match ← orElse? g.interval? typedConstant? with
  | some e => return some (← g.columnOperators e)
  | none => orElse? g.bytes? g.columnExpr

/-- An atom with the operators before and after it. -/
def unaryExpr : Parser (Option Expr) := do
  match ← acceptOne? ["+", "-", "~", "NOT", "!"] with
  | none =>
    match ← g.atom? with
    | none => return none
    | some e => return some (← g.zonesFrom (← get).length e)
  | some t =>
    match t.keyword with
    | "+" => g.unary
    | "-" => return some (.unary .negate (← require g.unary))
    | "~" => return some (.unary .complement (← require g.unary))
    | _ => return some (.unary .not (← require g.equality))

/-! ## Operators between operands -/

/-- What an operator makes of its operands. -/
abbrev Combination := Expr → Expr → Expr

/-- A collation is no column. -/
def collationOf (e : Expr) : Expr :=
  match e with
  | .column [] ⟨name, false⟩ => .marker name
  | e => e

def collated : Combination := fun e collation => .binary .collate e (collationOf collation)

/-- The whole part of a quotient. -/
def wholeQuotient : Combination := fun a b => .cast (.binary .div a b) (.named "INT" [] false)

/-- The first operand that is not null. -/
def firstNonNull : Combination := fun a b => .function "COALESCE" [a, b]

/-- The operator of a table that the next token stands for, with its comments. -/
def operator? (table : List (String × Combination)) :
    Parser (Option (Combination × List String)) := do
  match ← takeIf? fun t => (table.lookup t.keyword).isSome with
  | none => return none
  | some t => return (table.lookup t.keyword).map fun op => (op, t.comments)

/-- Operators of one level that bind to the left, in at most the given number of steps. -/
def chainFrom (operator : Parser (Option (Combination × List String)))
    (operand : Parser (Option Expr)) : Nat → Expr → Parser Expr
  | 0, left => return left
  | steps + 1, left => do
    match ← operator with
    | none => return left
    | some (combine, comments) =>
      let right ← require operand
      chainFrom operator operand steps (combine left (right.withCommentsBefore comments))

/-- Operators of one level that bind to the left.  Where one of them stands first, there is no
expression. -/
def chain (operator : Parser (Option (Combination × List String)))
    (operand : Parser (Option Expr)) : Parser (Option Expr) := do
  match ← operand with
  | some left => return some (← chainFrom operator operand (← get).length left)
  | none => if (← wouldFind operator) then refuse else return none

/-- The operators of products. -/
def factorOperators : List (String × Combination) :=
  [("*", .binary .mul), ("/", .binary .div), ("<->", .binary .distance), ("DIV", wholeQuotient)]

/-- Factors with operators between them, in at most the given number of steps.  A word for an
operator is a name where no operand follows it. -/
def factorsFrom : Nat → Expr → Parser Expr
  | 0, left => return left
  | steps + 1, left => do
    let tokens ← get
    match ← operator? factorOperators with
    | none => return left
    | some (combine, comments) =>
      match ← g.unaryExpr with
      | some right => factorsFrom steps (combine left (right.withCommentsBefore comments))
      | none =>
        if (tokens.head?.map fun t => t.kind == .word).getD false then
          set tokens
          return left
        else refuse

/-- Factors.  Where an operator stands first, there is no expression. -/
def factorExpr : Parser (Option Expr) := do
  match ← g.unaryExpr with
  | some left => return some (← g.factorsFrom (← get).length left)
  | none => if (← wouldFind (operator? factorOperators)) then refuse else return none

def termExpr : Parser (Option Expr) :=
  chain (operator? [("+", .binary .add), ("-", .binary .sub), ("%", .binary .mod),
    ("MOD", .binary .mod), ("COLLATE", collated)]) g.factorExpr

/-- An operator on bits.  A shift is two signs. -/
def bitOperator? : Parser (Option (Combination × List String)) := do
  if (← acceptAll ["<", "<"]) then return some (.binary .shiftLeft, [])
  else if (← acceptAll [">", ">"]) then return some (.binary .shiftRight, [])
  else
    return (← operator? [("&", .binary .bitAnd), ("|", .binary .bitOr), ("^", .binary .bitXor),
      ("??", firstNonNull)]).map fun op => (op.1, [])

def bitwiseExpr : Parser (Option Expr) := chain bitOperator? g.termExpr

/-! ## Tests -/

/-- A pattern may be followed by the character that escapes in it. -/
def escaped (e : Expr) : Parser Expr := do
  if (← accepts "ESCAPE") then
    let mark ← require (takeIf? fun t => t.kind == .text || t.is "NULL")
    return .binary .escape e ((constantOf? mark).getD .null)
  else return e

/-- A range.  Its lower end comes first, unless it is said that the ends are symmetric. -/
def betweenTest (e : Expr) : Parser Expr := do
  let isSymmetric := ((← acceptOne? ["SYMMETRIC", "ASYMMETRIC"]).map fun t =>
    t.is "SYMMETRIC").getD false
  let low ← require g.bitwiseExpr
  let _ ← accept? "AND"
  let high ← require g.bitwiseExpr
  return .between isSymmetric e low high

/-- A list of values or the rows of a query. -/
def amongItems (e : Expr) (closing : String) : Parser Expr := do
  let items ← exprList g.queryOrExpression
  let close ← expect closing
  let test :=
    match items with
    | [.query q] => Expr.amongRows e q
    | _ => .among e items
  return test.withComments close.comments

/-- The items of arrays. -/
def itemsOfArrays? : Parser (Option Expr) := do
  if (← acceptAll ["UNNEST", "("]) then
    let arrays ← exprList g.equality
    let _ ← expect ")"
    return some (.function "UNNEST" arrays)
  else return none

/-- A list of values, or the rows of a query, or a column or an array that holds them. -/
def amongTest (e : Expr) : Parser Expr := do
  if (← accepts "(") then g.amongItems e ")"
  else if (← accepts "[") then g.amongItems e "]"
  else
    match ← g.itemsOfArrays? with
    | some items => return .form ["", " IN (SELECT ", ")"] [e, items]
    | none =>
      match ← g.columnExpr with
      | some column => return .form ["", " IN ", ""] [e, column]
      | none => return .among e []

/-- A function of one value. -/
def callOf (name : String) (e : Expr) : Expr := .function name [e]

/-- The tests that compare with a pattern or a range. -/
def patternTests : List (String × Combination) :=
  [("LIKE", .binary .like), ("~~", .binary .like), ("GLOB", .binary .glob),
    ("~~~", .binary .glob), ("SIMILAR TO", .binary .similar), ("OVERLAPS", .binary .overlaps),
    ("&<", .binary .extendsLeft), ("&>", .binary .extendsRight), ("-|-", .binary .adjacent),
    ("ILIKE", likeInAnyCase), ("~~*", likeInAnyCase), ("RLIKE", likeExpression),
    ("REGEXP", likeExpression), ("~*", likeExpressionInAnyCase)]
where
  likeInAnyCase : Combination := fun e pattern =>
    .binary .like (callOf "LOWER" e) (callOf "LOWER" pattern)
  likeExpression : Combination := fun e pattern => .function "REGEXP_LIKE" [e, pattern]
  likeExpressionInAnyCase : Combination := fun e pattern => .function "REGEXP_I_LIKE" [e, pattern]

/-- A test by one of the words for tests, if there is one. -/
def wordTest? (e : Expr) : Parser (Option Expr) := do
  match ← operator? patternTests with
  | some (combine, _) => return some (← escaped (combine e (← require g.bitwiseExpr)))
  | none =>
    match ← acceptOne? ["BETWEEN", "IN", "SOUNDS LIKE", "MEMBER OF", "ISNULL"] with
    | none => return none
    | some t =>
      match t.keyword with
      | "BETWEEN" => return some (← g.betweenTest e)
      | "IN" => return some (← g.amongTest e)
      | "SOUNDS LIKE" =>
        return some (.binary .eq (callOf "SOUNDEX" e) (callOf "SOUNDEX" (← require g.termExpr)))
      | "MEMBER OF" =>
        let _ ← expect "("
        let whole ← require g.expression
        let _ ← expect ")"
        return some (.form ["", " MEMBER OF(", ")"] [e, whole])
      | _ => return some (.binary .is e .null)

/-- The test that a text holds JSON. -/
def jsonTest : Parser Expr := do
  let kind := ((← acceptOne? ["VALUE", "SCALAR", "ARRAY", "OBJECT"]).map fun t =>
    " " ++ t.keyword).getD ""
  let keys := ((← acceptOne? ["WITH", "WITHOUT"]).map fun t => " " ++ t.keyword).getD ""
  let unique := if (← accepts "UNIQUE") then " UNIQUE KEYS" else ""
  let _ ← accept? "KEYS"
  return .marker ("JSON" ++ kind ++ keys ++ unique)

/-- What is asked after `IS`, if it can be read. -/
def isTest? (e : Expr) : Parser (Option Expr) := do
  let tokens ← get
  if (← accepts "IS") then
    let negated := (← acceptOne? ["NOT", "!"]).isSome
    if (← acceptAll ["DISTINCT", "FROM"]) then
      let other ← require g.bitwiseExpr
      let test := Expr.binary .same e other
      return some (if negated then test else .unary .not test)
    else
      let other ←
        match ← acceptOne? ["NULL", "UNKNOWN"] with
        | some t => pure (some (Expr.null.withComments t.comments))
        | none => if (← accepts "JSON") then some <$> jsonTest else g.bitwiseExpr
      match other with
      | none =>
        set tokens
        return none
      | some other =>
        let test := Expr.binary .is e other
        return some (← g.columnOperators (if negated then .unary .not test else test))
  else return none

/-- The test after an expression and an optional `NOT`, if there is one. -/
def rangeTest? (negated : Bool) (e : Expr) : Parser (Option Expr) := do
  if (← keyword) = "IS" then g.isTest? e
  else
    match ← g.wordTest? e with
    | some test => return some test
    | none =>
      if negated then
        return some (if (← accepts "NULL") then .binary .is e .null else e)
      else return some e

/-- An expression with a test after it. -/
def rangeExpr : Parser (Option Expr) := do
  match ← g.bitwiseExpr with
  | none => return none
  | some e =>
    let negated := (← acceptOne? ["NOT", "!"]).isSome
    match ← g.rangeTest? negated e with
    | none => return some e
    | some test =>
      let test ← if (← accepts "NOTNULL") then pure (.unary .not (.binary .is test .null))
        else pure test
      let test := if negated then .unary .not test else test
      match ← g.isTest? test with
      | some further => return some further
      | none => return some test

/-! ## The looser levels -/

def comparisonExpr : Parser (Option Expr) :=
  chain (operator? [(">", .binary .gt), ("<", .binary .lt), (">=", .binary .ge),
    ("<=", .binary .le)]) g.rangeExpr

def equalityExpr : Parser (Option Expr) :=
  chain (operator? [("=", .binary .eq), ("==", .binary .eq), ("<>", .binary .ne),
    ("!=", .binary .ne), ("<=>", .binary .same)]) g.comparisonExpr

def conjunctionExpr : Parser (Option Expr) :=
  chain (operator? [("AND", .binary .and), ("&&", .binary .and), ("XOR", .binary .xor)])
    g.equalityExpr

def disjunctionExpr : Parser (Option Expr) :=
  chain (operator? [("OR", .binary .or), ("||", .binary .or)]) g.conjunctionExpr

/-- An expression, or an assignment of one, which binds to the right. -/
def assignmentExpr : Parser (Option Expr) := do
  match ← g.disjunctionExpr with
  | none => return none
  | some left =>
    match ← accept? ":=" with
    | none => return some left
    | some t =>
      let right ← require g.assignment
      return some (.binary .assign left (right.withCommentsBefore t.comments))

/-- An expression, and its alias if it has one. -/
def expressionItem : Parser (Option Expr) := do
  match ← g.assignmentExpr with
  | none => return none
  | some e => return some (← g.withAlias false e)

end Grammar

end Sql
end QueryDesigner
