/-!
# Formats of dates and times

A format is text with codes in it.  Some codes have two spellings, and some stand for several
others.

* `timeCodes` — the codes that are written differently than they may be read;
* `timeFormat` — a format with every code in the spelling in which it is written.
-/

namespace QueryDesigner
namespace Sql

/-- The codes that are written differently than they may be read, longer ones first. -/
def timeCodes : List (String × String) :=
  [("%H:%i:%s", "%T"), ("%H:%i:%S", "%T"), ("%-m", "%c"), ("%-d", "%e"), ("%-H", "%k"),
    ("%-I", "%l"), ("%S", "%s"), ("%I", "%h"), ("%A", "%W"), ("%B", "%M")]

/-- The characters of a format after so many that belong to a code which has been written. -/
def timeFormatFrom : Nat → List Char → List Char
  | _, [] => []
  | left + 1, _ :: rest => timeFormatFrom left rest
  | 0, c :: rest =>
    match timeCodes.find? fun code => code.1.toList.isPrefixOf (c :: rest) with
    | some (read, written) => written.toList ++ timeFormatFrom (read.length - 1) rest
    | none => c :: timeFormatFrom 0 rest

/-- A format with every code in the spelling in which it is written.  The empty format is written as
a word. -/
def timeFormat (format : String) : String :=
  if format.isEmpty then "None" else String.ofList (timeFormatFrom 0 format.toList)

end Sql
end QueryDesigner
