/-!
# References to columns

A reference is a text, either `column` or `key.column`.

* `qualifier?` — the part before the last full stop;
* `refersTo` — whether a reference starts with a key and a full stop;
* `requalify` — the reference with one key in place of another.
-/

namespace QueryDesigner
namespace Reference

/-- The characters before the last full stop, if there is one. -/
def qualifierChars? : List Char → Option (List Char)
  | [] => none
  | c :: rest =>
    match qualifierChars? rest with
    | some before => some (c :: before)
    | none => if c = '.' then some [] else none

/-- The key that a reference starts with, if any: all before its last full stop. -/
def qualifier? (ref : String) : Option String := (qualifierChars? ref.toList).map String.ofList

/-- A key and the full stop after it. -/
def lead (key : String) : List Char := key.toList ++ ['.']

/-- Whether a reference starts with a key and a full stop. -/
def refersTo (ref key : String) : Bool := (lead key).isPrefixOf ref.toList

/-- The reference with `new` in place of the key `old`; other references are left alone. -/
def requalify (ref old new : String) : String :=
  if refersTo ref old then new ++ String.ofList (ref.toList.drop old.toList.length) else ref

/-- A column of the table with that key. -/
def qualified (key column : String) : String := key ++ "." ++ column

end Reference
end QueryDesigner
