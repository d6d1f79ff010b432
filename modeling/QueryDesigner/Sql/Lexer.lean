import QueryDesigner.Sql.Quoted
import QueryDesigner.Sql.Token
import QueryDesigner.Text.Blank
import QueryDesigner.Text.Digit
import QueryDesigner.Text.Numeral
import QueryDesigner.Text.WordChar

/-!
# Reading tokens

Text is cut into blanks, comments and tokens, each cut looking at nothing but the text from there
on.  Then comments are handed to the tokens that they stand beside.

* `Piece`, `readPiece?` — one cut;
* `pieces?` — all cuts of a text, with their places;
* `withComments` — tokens with the comments beside them;
* `withCommands` — statements that are not looked into any further;
* `tokens?` — the tokens of a text, unless a quote or a comment is left open.
-/

namespace QueryDesigner
namespace Sql

/-- A cut of SQL text. -/
inductive Piece where
  | blank (hasBreak : Bool)
  | comment (text : String) (isHint : Bool)
  | token (lexeme : Lexeme)
  deriving DecidableEq, Repr

/-! ## Words and signs -/

/-- The characters that are signs or quotes: a word ends before them. -/
def isSign (c : Char) : Bool :=
  ['(', ')', '[', ']', '{', '}', '&', '^', ':', ',', '-', '.', '>', '<', '%', '!', '|', '+', ';',
    '/', '\\', '*', '~', '?', '@', '=', '\'', '"', '`', '#'].contains c

/-- The characters of which words are made. -/
def isWordPart (c : Char) : Bool := !Text.isBlank c && !isSign c

/-- The signs of several characters, longer ones first. -/
def longSigns : List String :=
  ["<=>", "->>", "<->", "-|-", "#>>", "~~~", "~~*", "?::", "<=", ">=", "<>", "!=", ":=", "||", "|>",
    "&&", "&<", "&>", "->", "#>", "::", "==", "=>", "@@", "??", "~~", "~*"]

/-- The pairs of words that are one keyword. -/
def phrases : List String :=
  ["GROUP BY", "ORDER BY", "PARTITION BY", "CLUSTER BY", "SORT BY", "DISTRIBUTE BY", "CONNECT BY",
    "START WITH", "CHARACTER SET", "FOREIGN KEY", "PRIMARY KEY", "GROUPING SETS", "SIMILAR TO",
    "LOCK TABLES", "UNLOCK TABLES", "MEMBER OF", "SOUNDS LIKE", "SIGNED INTEGER",
    "UNSIGNED INTEGER", "DOUBLE PRECISION", "CHAR VARYING", "CHARACTER VARYING", "PARTITIONED BY"]

/-- A word, or two words that are one keyword, and what follows. -/
def readWord (cs : List Char) : Piece × List Char :=
  let word := String.ofList (cs.takeWhile isWordPart)
  let rest := cs.dropWhile isWordPart
  let next := Text.dropBlanks rest
  let both := Text.upper word ++ " " ++ Text.upper (String.ofList (next.takeWhile isWordPart))
  if next.length < rest.length ∧ phrases.contains both then
    (.token (.of .phrase both), next.dropWhile isWordPart)
  else (.token (.of .word word), rest)

/-- A sign and what follows: the longest one that fits. -/
def readSign (c : Char) (rest : List Char) : Piece × List Char :=
  match longSigns.find? fun s => s.toList.isPrefixOf (c :: rest) with
  | some sign => (.token (.of .sign sign), (c :: rest).drop sign.toList.length)
  | none => (.token (.of .sign (String.ofList [c])), rest)

/-! ## Numbers -/

/-- How far a number has been read: whether a point was met, and whether an exponent was met and
may still have a sign. -/
structure NumberPart where
  point : Bool := false
  exponent : Bool := false
  signed : Bool := false
  deriving DecidableEq, Repr

/-- Whether a character continues a number, given the characters after it, and how far the number
has then been read. -/
def NumberPart.next? (p : NumberPart) (c : Char) (rest : List Char) : Option NumberPart :=
  if Text.isDigit c then some p
  else if c = '.' ∧ !p.point then some { p with point := true }
  else if (c = '-' ∨ c = '+') ∧ p.exponent ∧ !p.signed then
    if (rest.head?.map Text.isDigit).getD false then some { p with signed := true } else none
  else if (c = 'e' ∨ c = 'E') ∧ !p.exponent then some { p with exponent := true }
  else none

/-- The characters that continue a number, and what follows them. -/
def numberTail (p : NumberPart) : List Char → List Char × List Char
  | [] => ([], [])
  | c :: rest =>
    match p.next? c rest with
    | some p => ((c :: (numberTail p rest).1), (numberTail p rest).2)
    | none => ([], c :: rest)

def isHexDigit (c : Char) : Bool :=
  c.isDigit || ('a' ≤ c && c ≤ 'f') || ('A' ≤ c && c ≤ 'F')

def isBit (c : Char) : Bool := c == '0' || c == '1'

/-- A number in another base, after its mark.  If its digits do not fit the base it is a name. -/
def readRadix (kind : TokenKind) (letter mark : Char) (digit : Char → Bool) (cs : List Char)
    (h : (kind == .number) = false := by exact Eq.refl false) : Piece × List Char :=
  let digits := cs.takeWhile isWordPart
  let whole := '0' :: mark :: digits
  if Text.isRadixNumeral letter digit whole then
    (.token (.of kind (String.ofList digits) h), cs.dropWhile isWordPart)
  else (.token (.of .name (String.ofList whole)), cs.dropWhile isWordPart)

/-- A decimal number and what follows.  With letters right after it, it is a word. -/
def readNumber (c : Char) (h : Text.isDigit c = true) (rest : List Char) : Piece × List Char :=
  let (digits, after) := numberTail {} rest
  if (after.head?.map fun d => Text.isLetter d || d == '_').getD false then
    (.token (.of .word (String.ofList (c :: digits ++ after.takeWhile isWordPart))),
      after.dropWhile isWordPart)
  else
    (.token ⟨.number, String.ofList (c :: digits), fun _ => by simp [Text.startsWithDigit, h]⟩, after)

/-! ## Quotes and comments -/

/-- A token whose content runs up to a closing quote. -/
def quotedPiece (kind : TokenKind) (content : Option (List Char × List Char))
    (h : (kind == .number) = false := by exact Eq.refl false) : Option (Piece × List Char) :=
  content.map fun (text, rest) => (.token (.of kind (String.ofList text) h), rest)

/-- A quoted number in another base.  It may hold nothing. -/
def quotedRadix (kind : TokenKind) (letter : Char) (digit : Char → Bool) (cs : List Char)
    (h : (kind == .number) = false := by exact Eq.refl false) : Option (Piece × List Char) :=
  match readText? '\'' cs with
  | some (digits, rest) =>
    if digits.isEmpty || Text.isRadixNumeral letter digit digits then
      some (.token (.of kind (String.ofList digits) h), rest)
    else none
  | none => none

def isLineEnd (c : Char) : Bool := c == '\n' || c == '\x0d'

/-- The comment up to the end of the line. -/
def lineComment (cs : List Char) : Piece × List Char :=
  (.comment (String.ofList (cs.takeWhile fun c => !isLineEnd c)) false,
    cs.dropWhile fun c => !isLineEnd c)

/-- The text up to the end mark of a comment, and what follows the mark. -/
def blockComment? : List Char → Option (List Char × List Char)
  | [] => none
  | '*' :: '/' :: rest => some ([], rest)
  | c :: rest => (blockComment? rest).map fun (text, after) => (c :: text, after)

def commentPiece (isHint : Bool) (content : Option (List Char × List Char)) :
    Option (Piece × List Char) :=
  content.map fun (text, rest) => (.comment (String.ofList text) isHint, rest)

/-! ## Cutting -/

/-- The piece that a text starts with, and what follows it.  There is none if the text is empty or
starts with a quote or a comment that is left open. -/
def readPiece? : List Char → Option (Piece × List Char)
  | [] => none
  | '-' :: '-' :: rest => some (lineComment rest)
  | '#' :: '>' :: rest => some (readSign '#' ('>' :: rest))
  | '#' :: rest => some (lineComment rest)
  | '/' :: '*' :: '+' :: rest => commentPiece true (blockComment? rest)
  | '/' :: '*' :: rest => commentPiece false (blockComment? rest)
  | '\'' :: rest => quotedPiece .text (readText? '\'' rest)
  | '"' :: rest => quotedPiece .text (readText? '"' rest)
  | '`' :: rest => quotedPiece .name (readName? rest)
  | 'n' :: '\'' :: rest => quotedPiece .national (readText? '\'' rest)
  | 'N' :: '\'' :: rest => quotedPiece .national (readText? '\'' rest)
  | 'n' :: '"' :: rest => quotedPiece .national (readText? '"' rest)
  | 'N' :: '"' :: rest => quotedPiece .national (readText? '"' rest)
  | 'x' :: '\'' :: rest => quotedRadix .hex 'x' isHexDigit rest
  | 'X' :: '\'' :: rest => quotedRadix .hex 'x' isHexDigit rest
  | 'b' :: '\'' :: rest => quotedRadix .bits 'b' isBit rest
  | 'B' :: '\'' :: rest => quotedRadix .bits 'b' isBit rest
  | '0' :: 'x' :: rest => some (readRadix .hex 'x' 'x' isHexDigit rest)
  | '0' :: 'X' :: rest => some (readRadix .hex 'x' 'X' isHexDigit rest)
  | '0' :: 'b' :: rest => some (readRadix .bits 'b' 'b' isBit rest)
  | '0' :: 'B' :: rest => some (readRadix .bits 'b' 'B' isBit rest)
  | c :: rest =>
    if Text.isBlank c then
      let blanks := c :: rest.takeWhile Text.isBlank
      some (.blank (blanks.any isLineEnd), rest.dropWhile Text.isBlank)
    else if h : Text.isDigit c = true then some (readNumber c h rest)
    else if isSign c then some (readSign c rest)
    else some (readWord (c :: rest))

/-- A piece with the places where it starts and stops. -/
structure Cut where
  piece : Piece
  start : Nat
  stop : Nat
  deriving DecidableEq, Repr

/-- The cuts of a text that starts at the given place.  Every cut takes at least one character, so
as many steps as there are characters suffice. -/
def cutsFrom? : Nat → Nat → List Char → Option (List Cut)
  | _, _, [] => some []
  | 0, _, _ :: _ => none
  | steps + 1, start, c :: cs =>
    match readPiece? (c :: cs) with
    | none => none
    | some (piece, rest) =>
      let stop := start + ((c :: cs).length - rest.length)
      (cutsFrom? steps stop rest).map fun cuts => ⟨piece, start, stop⟩ :: cuts

/-- All cuts of a text. -/
def cuts? (cs : List Char) : Option (List Cut) := cutsFrom? cs.length 0 cs

/-! ## Comments beside tokens -/

/-- The tokens read so far, the latest first, and the comments that still look for a token. -/
structure Attaching where
  tokens : List Token := []
  pending : List String := []
  /-- No line break was met since the latest token. -/
  sameLine : Bool := false
  deriving DecidableEq, Repr

/-- After these words a hint is more than a comment. -/
def precedesHint (t : Token) : Bool :=
  ["SELECT", "INSERT", "UPDATE", "DELETE"].contains t.keyword

/-- A token that follows another one: a word after an at sign names a variable. -/
def lexemeAfter (previous : List Token) (lexeme : Lexeme) : Lexeme :=
  match previous, lexeme.kind with
  | t :: _, .word => if t.is "@" then .of .variable lexeme.text else lexeme
  | _, _ => lexeme

/-- One more cut.  A comment belongs to the token before it on the same line, else to the next
token. -/
def Attaching.add (a : Attaching) (cut : Cut) : Attaching :=
  match cut.piece with
  | .blank hasBreak => { a with sameLine := a.sameLine && !hasBreak }
  | .token lexeme =>
    ⟨⟨lexemeAfter a.tokens lexeme, cut.start, cut.stop, a.pending⟩ :: a.tokens, [], true⟩
  | .comment text isHint =>
    match a.tokens with
    | [] => { a with pending := a.pending ++ [text] }
    | t :: earlier =>
      if isHint && precedesHint t then
        ⟨⟨.of .hint text, cut.start, cut.stop, []⟩ :: a.tokens, a.pending, true⟩
      else if a.sameLine then
        ⟨{ t with comments := t.comments ++ (a.pending ++ [text]) } :: earlier, [], true⟩
      else { a with pending := a.pending ++ [text] }

/-- The tokens with all comments: those left over belong to the last one. -/
def Attaching.finish (a : Attaching) : List Token :=
  match a.tokens with
  | [] => []
  | t :: earlier => ({ t with comments := t.comments ++ a.pending } :: earlier).reverse

def withComments (cuts : List Cut) : List Token := (cuts.foldl Attaching.add {}).finish

/-! ## Commands -/

/-- The words with which a statement starts that is not looked into. -/
def commandWords : List String :=
  ["CALL", "OPTIMIZE", "PREPARE", "VACUUM", "EXECUTE", "FETCH", "RENAME", "REPLACE", "LOCK TABLES",
    "UNLOCK TABLES"]

/-- After these a statement starts. -/
def precedesStatement (t : Token) : Bool := [";", "BEGIN", "START"].contains t.keyword

/-- Where the statement ends that the tokens continue. -/
def statementEnd (size : Nat) (tokens : List Token) : Nat :=
  ((tokens.find? fun t => t.is ";").map Token.start).getD size

/-- How the next token is taken. -/
inductive CommandState where
  | atStart
  | inside
  | skipping
  deriving DecidableEq, Repr

/-- The rest of a command as one token, unless it is blank or ends right there. -/
def commandRest (source : List Char) (t : Token) (rest : List Token) : List Token :=
  let stop := statementEnd source.length rest
  let text := Text.trimChars ((source.drop t.stop).take (stop - t.stop))
  if text = [] then [] else [⟨.of .verbatim (String.ofList text), t.stop, stop, []⟩]

/-- The tokens of which commands keep only their first one and the rest of their text. -/
def withCommands (source : List Char) : CommandState → List Token → List Token
  | _, [] => []
  | .skipping, t :: rest =>
    if t.is ";" then t :: withCommands source .atStart rest
    else withCommands source .skipping rest
  | .atStart, t :: rest =>
    if commandWords.contains t.keyword ∧ source[t.stop]? ≠ some ';' then
      t :: (commandRest source t rest ++ withCommands source .skipping rest)
    else t :: withCommands source (if precedesStatement t then .atStart else .inside) rest
  | .inside, t :: rest =>
    t :: withCommands source (if precedesStatement t then .atStart else .inside) rest

/-- The tokens of a text, unless a quote or a comment is left open. -/
def tokens? (s : String) : Option (List Token) :=
  (cuts? s.toList).map fun cuts => withCommands s.toList .atStart (withComments cuts)

end Sql
end QueryDesigner
