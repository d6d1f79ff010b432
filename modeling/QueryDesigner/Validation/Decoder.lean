import QueryDesigner.Datum
import QueryDesigner.Text.Numeral
import QueryDesigner.Text.LetterCase
import QueryDesigner.Validation.Issue

/-!
# Decoding data

A decoder turns data into a value or lists every issue that it finds, in the order of the fields.

* `Decoded`, `Decoder` — the outcome of decoding and a decoder;
* `Decoded.both` — two outcomes together: the issues of both are kept;
* `text`, `integer`, `natural`, `boolean`, `oneOf` — decoders of single values;
* `optional`, `list`, `dictionary` — decoders built from others;
* `required`, `defaulted` — decoders of the fields of a record.
-/

namespace QueryDesigner
namespace Validation

/-- A value, or the issues that prevent one. -/
abbrev Decoded (α : Type) := Except (List Issue) α

abbrev Decoder (α : Type) := Datum → Decoded α

namespace Decoded

/-- Two outcomes together.  When both fail the issues of the first come first. -/
def both (f : Decoded (α → β)) (x : Decoded α) : Decoded β :=
  match f, x with
  | .ok f, .ok x => .ok (f x)
  | .ok _, .error issues => .error issues
  | .error issues, .ok _ => .error issues
  | .error first, .error second => .error (first ++ second)

/-- An outcome seen from one step further out. -/
def under (step : Step) (x : Decoded α) : Decoded α :=
  x.mapError fun issues => issues.map (Issue.under step)

/-- A single fault. -/
def fail (fault : Fault) : Decoded α := .error [Issue.here fault]

/-- The outcomes of a list of items, numbered from `position`, all issues kept. -/
def collect (decode : Decoder α) (position : Nat) : List Datum → Decoded (List α)
  | [] => .ok []
  | d :: rest =>
    both ((under (.index position) (decode d)).map List.cons) (collect decode (position + 1) rest)

/-- The outcomes of the fields of a dictionary, all issues kept. -/
def collectFields (decode : Decoder α) : List (String × Datum) → Decoded (List (String × α))
  | [] => .ok []
  | (name, d) :: rest =>
    both ((under (.field name) (decode d)).map fun v vs => (name, v) :: vs)
      (collectFields decode rest)

end Decoded

namespace Decoder

open Decoded

/-- Text; nothing else is turned into text. -/
def text : Decoder String
  | .text s => .ok s
  | _ => fail .notText

/-- The whole numbers that a floating-point number of an integer field may hold. -/
def integerOfFloat (x : Float) : Decoded Int :=
  if x.isNaN || x.isInf then fail .infiniteInteger
  else if x.floor != x then fail .fractionalInteger
  else if x.abs < 9223372036854775808.0 then .ok x.toInt64.toInt
  else fail .fractionalInteger

/-- Integers, truth values as one and zero, whole floating-point numbers, and text that reads as an
integer. -/
def integer : Decoder Int
  | .integer n => .ok n
  | .bool b => .ok (if b then 1 else 0)
  | .float x => integerOfFloat x
  | .text s =>
    match Text.readPlainInteger? s with
    | some n => .ok n
    | none => fail .unreadableInteger
  | _ => fail .notInteger

/-- Integers that are not negative. -/
def natural : Decoder Nat := fun d =>
  (integer d).bind fun n => if n < 0 then fail .belowZero else .ok n.toNat

/-- The words that stand for a truth value, in any letter case. -/
def booleanWord? (s : String) : Option Bool :=
  let word := Text.lower s
  if ["0", "off", "f", "false", "n", "no"].contains word then some false
  else if ["1", "on", "t", "true", "y", "yes"].contains word then some true
  else none

/-- Truth values, the numbers one and zero, and words for them. -/
def boolean : Decoder Bool
  | .bool b => .ok b
  | .integer n => if n = 0 then .ok false else if n = 1 then .ok true else fail .unreadableBoolean
  | .float x =>
    if x == 0 then .ok false
    else if x == 1 then .ok true
    else if x.floor == x then fail .unreadableBoolean
    else fail .notBoolean
  | .text s =>
    match booleanWord? s with
    | some b => .ok b
    | none => fail .unreadableBoolean
  | _ => fail .notBoolean

/-- One of several words, each standing for a value. -/
def oneOf (choices : List (String × α)) : Decoder α
  | .text s =>
    match choices.lookup s with
    | some v => .ok v
    | none => fail (.notOneOf (choices.map Prod.fst))
  | _ => fail (.notOneOf (choices.map Prod.fst))

/-- Null stands for the absence of a value. -/
def optional (decode : Decoder α) : Decoder (Option α)
  | .null => .ok none
  | d => (decode d).map some

def list (decode : Decoder α) : Decoder (List α)
  | .list items => collect decode 0 items
  | _ => fail .notList

def dictionary (decode : Decoder α) : Decoder (List (String × α))
  | .object fields => collectFields decode fields
  | _ => fail .notDictionary

/-- A record of the named type: its fields are handed on. -/
def record (type : String) (decode : List (String × Datum) → Decoded α) : Decoder α
  | .object fields => decode fields
  | _ => fail (.notRecord type)

/-- Text in capitals with single spaces between its words; other data is left alone. -/
def keyword : Datum → Datum
  | .text s => .text (Text.upper (String.intercalate " " (Text.words s)))
  | d => d

end Decoder

/-- A field that must be present. -/
def required (fields : List (String × Datum)) (name : String) (decode : Decoder α) : Decoded α :=
  match fields.lookup name with
  | some d => Decoded.under (.field name) (decode d)
  | none => .error [⟨[.field name], .missing⟩]

/-- A field with a default, which is not decoded. -/
def defaulted (fields : List (String × Datum)) (name : String) (default : α) (decode : Decoder α) :
    Decoded α :=
  match fields.lookup name with
  | some d => Decoded.under (.field name) (decode d)
  | none => .ok default

end Validation
end QueryDesigner
