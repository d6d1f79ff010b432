/-!
# Quoted text and names

* `readText?` — the content of a text literal whose opening quote has been read;
* `readName?` — the same for a name between backquotes;
* `escaped?` — the character that a backslash sequence stands for;
* `doubled` — a text in which a character is written twice;
* `writeText` — a text literal.
-/

namespace QueryDesigner
namespace Sql

/-- The character that a backslash and the given character stand for. -/
def escaped? : Char → Option Char
  | 'a' => some '\x07'
  | 'b' => some '\x08'
  | 'f' => some '\x0c'
  | 'n' => some '\n'
  | 'r' => some '\x0d'
  | 't' => some '\t'
  | 'v' => some '\x0b'
  | '\\' => some '\\'
  | _ => none

/-- Before these characters a backslash stands for itself. -/
def keepsBackslash (c : Char) : Bool := c == '0' || c == 'Z' || c == '%' || c == '_'

/-- The content of a text literal and what follows it.  The quote is written twice or after a
backslash; without a closing quote there is no literal. -/
def readText? (quote : Char) : List Char → Option (List Char × List Char)
  | [] => none
  | '\\' :: c :: rest =>
    let content := ((escaped? c).map fun e => [e]).getD
      (if c ≠ quote ∧ keepsBackslash c then ['\\', c] else [c])
    (readText? quote rest).map fun (text, after) => (content ++ text, after)
  | c :: rest =>
    if c = quote then
      match rest with
      | d :: rest' =>
        if d = quote then (readText? quote rest').map fun (text, after) => (quote :: text, after)
        else some ([], rest)
      | [] => some ([], [])
    else (readText? quote rest).map fun (text, after) => (c :: text, after)

/-- The content of a name and what follows it.  A backquote is written twice; a backslash stands for
itself. -/
def readName? : List Char → Option (List Char × List Char)
  | [] => none
  | '`' :: '`' :: rest => (readName? rest).map fun (name, after) => ('`' :: name, after)
  | '`' :: rest => some ([], rest)
  | c :: rest => (readName? rest).map fun (name, after) => (c :: name, after)

/-- The characters with every `quote` written twice. -/
def doubled (quote : Char) (cs : List Char) : List Char :=
  cs.flatMap fun c => if c = quote then [quote, quote] else [c]

/-- The sequence that stands for a character which is not written as it is. -/
def escapeOf? : Char → Option Char
  | '\x07' => some 'a'
  | '\x08' => some 'b'
  | '\x0c' => some 'f'
  | '\n' => some 'n'
  | '\x0d' => some 'r'
  | '\t' => some 't'
  | '\x0b' => some 'v'
  | '\\' => some '\\'
  | _ => none

/-- A text literal: single quotes are doubled, control characters become sequences. -/
def writeText (cs : List Char) : List Char :=
  '\'' :: (doubled '\'' cs).flatMap (fun c =>
    match escapeOf? c with
    | some e => ['\\', e]
    | none => [c]) ++ ['\'']

theorem escaped?_escapeOf? {c e : Char} (h : escapeOf? c = some e) : escaped? e = some c := by
  unfold escapeOf? at h
  split at h <;> simp at h <;> subst h <;> rfl

end Sql
end QueryDesigner
