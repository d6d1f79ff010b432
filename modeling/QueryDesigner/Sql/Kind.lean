import QueryDesigner.Sql.Lexer

/-!
# Kinds of statements

* `StatementKind` — the kinds that are told apart;
* `StatementKind.ofTokens` — the kind that the first word of a statement announces;
* `StatementKind.ofText` — the same for a text.
-/

namespace QueryDesigner
namespace Sql

inductive StatementKind where
  | select
  | insert
  | update
  | delete
  | replace
  | create
  | alter
  | drop
  | truncate
  | rename
  | show_
  | describe
  | explain
  | with_
  | use
  | set
  /-- Blanks and comments only. -/
  | empty
  /-- Any other first word, or text that falls into no tokens. -/
  | other
  deriving DecidableEq, Repr

namespace StatementKind

def text : StatementKind → String
  | select => "SELECT"
  | insert => "INSERT"
  | update => "UPDATE"
  | delete => "DELETE"
  | replace => "REPLACE"
  | create => "CREATE"
  | alter => "ALTER"
  | drop => "DROP"
  | truncate => "TRUNCATE"
  | rename => "RENAME"
  | show_ => "SHOW"
  | describe => "DESCRIBE"
  | explain => "EXPLAIN"
  | with_ => "WITH"
  | use => "USE"
  | set => "SET"
  | empty => "EMPTY"
  | other => "OTHER"

/-- The kinds that a first word announces. -/
def announced : List StatementKind :=
  [select, insert, update, delete, replace, create, alter, drop, truncate, rename, show_, describe,
    explain, with_, use, set]

/-- The kind that a word in capitals announces. -/
def ofWord (word : String) : StatementKind :=
  if word = "DESC" then describe
  else (announced.find? fun kind => kind.text == word).getD other

/-- Opening parentheses and semicolons may stand before the first word. -/
def isSkipped (t : Token) : Bool := t.is "(" || t.is ";"

/-- The kind of a statement.  What stands between quotes counts like a word. -/
def ofTokens (tokens : List Token) : StatementKind :=
  match tokens.dropWhile isSkipped with
  | [] => empty
  | t :: _ => ofWord (Text.upper t.text)

def ofText (s : String) : StatementKind :=
  match tokens? s with
  | some tokens => ofTokens tokens
  | none => other

theorem ofWord_text {kind : StatementKind} (h : kind ∈ announced) : ofWord kind.text = kind := by
  simp only [announced, List.mem_cons, List.not_mem_nil, or_false] at h
  rcases h with h | h | h | h | h | h | h | h | h | h | h | h | h | h | h | h <;> subst h <;> rfl

end StatementKind

end Sql
end QueryDesigner
