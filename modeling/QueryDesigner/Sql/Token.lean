import QueryDesigner.Text.Digit
import QueryDesigner.Text.LetterCase

/-!
# Tokens of SQL text

* `TokenKind` — what a token is;
* `Lexeme` — a token by itself;
* `Token` — a token with its place in the text and the comments that belong to it;
* `Token.keyword` — the word or sign that the grammar sees in a token.
-/

namespace QueryDesigner
namespace Sql

inductive TokenKind where
  /-- A word without quotes: a name or a keyword. -/
  | word
  /-- A word right after an at sign. -/
  | variable
  /-- Two words that are one keyword, such as `GROUP BY`. -/
  | phrase
  /-- A name between backquotes. -/
  | name
  /-- A text between single or double quotes. -/
  | text
  /-- A text marked as national. -/
  | national
  | hex
  | bits
  | number
  /-- One of the signs of the language. -/
  | sign
  /-- A comment that advises the planner. -/
  | hint
  /-- The rest of a statement that is taken as it stands. -/
  | verbatim
  deriving DecidableEq, Repr

/-- A token by itself: its content, without quotes and with escapes resolved. -/
structure Lexeme where
  kind : TokenKind
  text : String
  startsWithDigit : kind = .number → Text.startsWithDigit text = true
  deriving DecidableEq, Repr

/-- A token that is no number. -/
def Lexeme.of (kind : TokenKind) (text : String)
    (h : (kind == .number) = false := by exact Eq.refl false) : Lexeme :=
  ⟨kind, text, fun heq => absurd heq (ne_of_beq_false h)⟩

/-- A token where it stands, with the comments that belong to it. -/
structure Token extends Lexeme where
  start : Nat
  stop : Nat
  comments : List String := []
  deriving DecidableEq, Repr

namespace Token

/-- The word, in capitals, or the sign that the grammar sees.  Quoted tokens and numbers are no
keywords. -/
def keyword (t : Token) : String :=
  match t.kind with
  | .word => Text.upper t.text
  | .phrase => t.text
  | .sign => t.text
  | _ => ""

def is (t : Token) (keyword : String) : Bool := t.keyword == keyword

end Token

end Sql
end QueryDesigner
