import QueryDesigner.Text.Blank
import QueryDesigner.Text.Digit
import QueryDesigner.Text.WordChar

/-!
# Paths into JSON values

A path is a text of its own: keys after points, places between brackets.

* `PathToken`, `pathTokens?` — the tokens of a path, with their places in the text;
* `PathStep` — a step of a path;
* `readPath` — the steps of a path;
* `PathStep.sql` — a step as it is written: a key without quotes wherever it can do without;
* `canonicalPath?` — a path as it is written.
-/

namespace QueryDesigner
namespace Sql

/-! ## Tokens -/

inductive PathTokenKind where
  | word
  /-- A key between double quotes. -/
  | key
  /-- A key between single quotes. -/
  | text
  | number
  | sign
  deriving DecidableEq, Repr

structure PathToken where
  kind : PathTokenKind
  text : List Char
  start : Nat
  stop : Nat
  deriving DecidableEq, Repr

/-- The signs of paths and the quotes: a word ends before them. -/
def isPathSign (c : Char) : Bool :=
  ['(', ')', '[', ']', ':', ',', '-', '.', '?', '@', '\'', '"', '$', '*'].contains c

/-- The content of a quoted key and what follows it.  A quote may stand after a backslash. -/
def readKey? (quote : Char) : List Char → Option (List Char × List Char)
  | [] => none
  | '\\' :: '\\' :: rest =>
    (readKey? quote rest).map fun (key, after) => ('\\' :: '\\' :: key, after)
  | '\\' :: c :: rest =>
    if c = quote then (readKey? quote rest).map fun (key, after) => (c :: key, after)
    else (readKey? quote (c :: rest)).map fun (key, after) => ('\\' :: key, after)
  | c :: rest =>
    if c = quote then some ([], rest)
    else (readKey? quote rest).map fun (key, after) => (c :: key, after)

/-- The kind and the content of the token that a path starts with, and what follows it. -/
def readPathToken? : List Char → Option (PathTokenKind × List Char × List Char)
  | [] => none
  | '\'' :: rest => (readKey? '\'' rest).map fun (text, after) => (.text, text, after)
  | '"' :: rest => (readKey? '"' rest).map fun (key, after) => (.key, key, after)
  | '.' :: '.' :: rest => some (.sign, ['.', '.'], rest)
  | c :: rest =>
    if isPathSign c then some (.sign, [c], rest)
    else if Text.isDigit c then
      some (.number, c :: rest.takeWhile Text.isDigit, rest.dropWhile Text.isDigit)
    else
      let continues (d : Char) : Bool := !Text.isBlank d && !isPathSign d
      some (.word, c :: rest.takeWhile continues, rest.dropWhile continues)

/-- The tokens of a path that starts at the given place.  Every token takes a character. -/
def pathTokensFrom? : Nat → Nat → List Char → Option (List PathToken)
  | _, _, [] => some []
  | 0, _, _ :: _ => none
  | steps + 1, start, c :: rest =>
    if Text.isBlank c then pathTokensFrom? steps (start + 1) rest
    else
      match readPathToken? (c :: rest) with
      | none => none
      | some (kind, text, after) =>
        let stop := start + ((c :: rest).length - after.length)
        (pathTokensFrom? steps stop after).map fun ts => ⟨kind, text, start, stop⟩ :: ts

/-- The tokens of a path, unless a quote is left open. -/
def pathTokens? (cs : List Char) : Option (List PathToken) := pathTokensFrom? cs.length 0 cs

def PathToken.is (t : PathToken) (sign : String) : Bool :=
  t.kind == .sign && t.text == sign.toList

/-! ## Steps -/

/-- A place between brackets. -/
inductive PathPlace where
  | key (name : List Char)
  | every
  | number (value : Int)
  /-- A condition or a computation, as it stands. -/
  | computed (text : List Char)
  /-- The places from one to another, each of which may be missing. -/
  | range (bounds : List (Option PathPlace))

inductive PathStep where
  | key (name : List Char)
  | everyKey
  /-- A star without a point. -/
  | every
  /-- A key at any depth. -/
  | anyDepth (name : List Char)
  | place (place : PathPlace)
  | places (places : List PathPlace)

/-- The characters of a text between two places. -/
def between (cs : List Char) (start stop : Nat) : List Char := (cs.drop start).take (stop - start)

/-- The tokens of a key without quotes: words, and minus signs between them. -/
def isBareKey (t : PathToken) : Bool := t.kind == .word || t.is "-"

/-- A key without quotes that starts after the given place and ends before the next other token. -/
def bareKey (cs : List Char) (start : Nat) (tokens : List PathToken) :
    List Char × List PathToken :=
  let rest := tokens.dropWhile isBareKey
  (between cs start ((rest.head?.map PathToken.start).getD cs.length), rest)

/-- The tokens up to the bracket that closes the one before them. -/
def beforeClosing : Nat → List PathToken → List PathToken
  | _, [] => []
  | depth, t :: rest =>
    if t.is "]" then
      match depth with
      | 0 => []
      | depth + 1 => t :: beforeClosing depth rest
    else t :: beforeClosing (if t.is "[" then depth + 1 else depth) rest

/-- A condition or a computation: everything before the closing bracket. -/
def computedPlace (cs : List Char) (opening : PathToken) (rest : List PathToken) :
    PathPlace × List PathToken :=
  let inner := beforeClosing 0 rest
  let after := rest.drop inner.length
  let stop := (after.head?.map PathToken.start).getD cs.length
  (.computed (between cs opening.start stop), after)

/-- A single place, if there is one. -/
def readPlace (cs : List Char) : List PathToken → Option PathPlace × List PathToken
  | [] => (none, [])
  | t :: rest =>
    match t.kind with
    | .text => (some (.key t.text), rest)
    | .key => (some (.key t.text), rest)
    | .number => (some (.number (Text.decimalNumber t.text)), rest)
    | .word => (none, t :: rest)
    | .sign =>
      if t.is "*" then (some .every, rest)
      else if t.is "?" || t.is "(" then
        let (place, rest) := computedPlace cs t rest
        (some place, rest)
      else if t.is "-" then
        match rest with
        | n :: rest' =>
          if n.kind == .number then (some (.number (-(Text.decimalNumber n.text))), rest')
          else (none, t :: rest)
        | [] => (none, [t])
      else (none, t :: rest)

/-- A place after a colon, if there is a colon. -/
def readBound (cs : List Char) : List PathToken → List (Option PathPlace) × List PathToken
  | [] => ([], [])
  | t :: rest =>
    if t.is ":" then
      let (place, rest) := readPlace cs rest
      ([place], rest)
    else ([], t :: rest)

/-- A place or a range of places, if there is one. -/
def readRange (cs : List Char) (tokens : List PathToken) : Option PathPlace × List PathToken :=
  let (first, tokens) := readPlace cs tokens
  let (second, tokens) := readBound cs tokens
  let (third, tokens) := readBound cs tokens
  if second.isEmpty && third.isEmpty then (first, tokens)
  else (some (.range (first :: second ++ third)), tokens)

/-- Whether a further place counts: the first place of all does not. -/
def PathPlace.counts : PathPlace → Bool
  | .number n => n != 0
  | .key name => !name.isEmpty
  | _ => true

/-- Further places after commas, in at most the given number of steps. -/
def readPlaces (cs : List Char) : Nat → List PathToken → List PathPlace × List PathToken
  | 0, tokens => ([], tokens)
  | steps + 1, tokens =>
    match tokens with
    | [] => ([], [])
    | t :: rest =>
      if t.is "," then
        let (place, rest) := readRange cs rest
        let (others, rest) := readPlaces cs steps rest
        ((place.filter PathPlace.counts).toList ++ others, rest)
      else ([], t :: rest)

/-- What stands between brackets, after the opening one. -/
def readBracket? (cs : List Char) (tokens : List PathToken) :
    Option (PathStep × List PathToken) :=
  match readRange cs tokens with
  | (none, _) => none
  | (some first, tokens) =>
    match readPlaces cs tokens.length tokens with
    | (others, close :: rest) =>
      if close.is "]" then
        match first, others with
        | .key name, [] => some (.key name, rest)
        | place, [] => some (.place place, rest)
        | place, others => some (.places (place :: others), rest)
      else none
    | (_, []) => none

/-- The key after a point. -/
def readAfterPoint? (cs : List Char) (point : PathToken) (tokens : List PathToken) :
    Option (PathStep × List PathToken) :=
  let isDeep := point.is ".."
  match tokens with
  | [] => if isDeep then some (.anyDepth [], []) else none
  | t :: rest =>
    if isBareKey t then
      let (key, rest) := bareKey cs point.stop (t :: rest)
      some (if isDeep then .anyDepth key else .key key, rest)
    else if t.kind == .key then
      if isDeep then some (.anyDepth t.text, rest)
      else if t.text.isEmpty then none
      else some (.key t.text, rest)
    else if t.is "*" then some (if isDeep then .anyDepth ['*'] else .everyKey, rest)
    else if isDeep then some (.anyDepth [], t :: rest)
    else none

/-- The first step of the tokens, whose predecessor stops at the given place. -/
def readStep? (cs : List Char) (before : Nat) (t : PathToken) (rest : List PathToken) :
    Option (PathStep × List PathToken) :=
  if t.is "." || t.is ".." || t.is ":" then readAfterPoint? cs t rest
  else if t.is "[" then readBracket? cs rest
  else if isBareKey t then
    let (key, rest) := bareKey cs before (t :: rest)
    some (.key key, rest)
  else if t.kind == .key then some (.key t.text, rest)
  else if t.is "*" then some (.every, rest)
  else none

/-- The steps of a path, of which there are no more than tokens.  Every step ends before the next
token. -/
def readSteps (cs : List Char) : Nat → Nat → List PathToken → Option (List PathStep)
  | _, _, [] => some []
  | 0, _, _ :: _ => none
  | steps + 1, before, t :: rest =>
    match readStep? cs before t rest with
    | none => none
    | some (step, rest') =>
      let taken := (t :: rest).take ((t :: rest).length - rest'.length)
      let stop := (taken.getLast?.map PathToken.stop).getD before
      (readSteps cs steps stop rest').map fun others => step :: others

/-- The steps of a path.  The sign for the whole value may stand first. -/
def readPath (cs : List Char) (tokens : List PathToken) : Option (List PathStep) :=
  match tokens with
  | t :: rest =>
    if t.is "$" then readSteps cs tokens.length t.stop rest
    else readSteps cs tokens.length 0 (t :: rest)
  | [] => some []

/-! ## Writing -/

/-- Whether a key can do without quotes. -/
def isPlainKey : List Char → Bool
  | [] => false
  | c :: rest =>
    (c == '_' || ('a' ≤ c && c ≤ 'z') || ('A' ≤ c && c ≤ 'Z')) && rest.all Text.isWordChar

/-- A key between double quotes. -/
def quotedKey (name : List Char) : String :=
  "\"" ++ String.ofList (name.flatMap fun c => if c = '"' then ['\\', '"'] else [c]) ++ "\""

mutual

def PathPlace.sql : PathPlace → String
  | .key name => quotedKey name
  | .every => "*"
  | .number n => toString n
  | .computed text => String.ofList text
  | .range bounds => String.intercalate ":" (boundTexts bounds)

def boundText : Option PathPlace → String
  | none => ""
  | some place => place.sql

def boundTexts : List (Option PathPlace) → List String
  | [] => []
  | bound :: rest => boundText bound :: boundTexts rest

end

def PathStep.sql : PathStep → String
  | .key name =>
    "." ++ if isPlainKey name then String.ofList name else quotedKey name
  | .everyKey => ".*"
  | .every => "*"
  | .anyDepth name => ".." ++ String.ofList name
  | .place p => "[" ++ p.sql ++ "]"
  | .places ps => "[" ++ String.intercalate "," (ps.map PathPlace.sql) ++ "]"

/-- What a text is as a path. -/
inductive PathText where
  /-- A quote is left open. -/
  | broken
  /-- It is no path. -/
  | other
  | path (text : String)
  deriving DecidableEq, Repr

/-- A path as it is written: it starts at the whole value. -/
def canonicalPath (text : String) : PathText :=
  let cs := text.toList
  match pathTokens? cs with
  | none => .broken
  | some tokens =>
    match readPath cs tokens with
    | none => .other
    | some steps => .path ("$" ++ String.join (steps.map PathStep.sql))

end Sql
end QueryDesigner
