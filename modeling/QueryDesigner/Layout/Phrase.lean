import QueryDesigner.Layout.Glyph

/-!
# Rewriting at phrases

* `rewrite` — replacement of whatever a rule matches, from left to right;
* `Phrase`, `matchPhrase?` — words with blanks between them;
* `breakBefore`, `indentAfter` — the rules that put line breaks before and after phrases.
-/

namespace QueryDesigner
namespace Layout

/-- A rule looks at the glyph before a place and at the glyphs from there on.  If it matches it
gives the glyphs to put in place of what it matched, and the glyphs after that. -/
abbrev Rule := Option Glyph → List Glyph → Option (List Glyph × List Glyph)

/-- The last glyph that is not among the ones left. -/
def lastTaken (all left : List Glyph) : Option Glyph :=
  (all.take (all.length - left.length)).getLast?

/-- The glyphs after a rule was applied wherever it matches, in at most the given number of
steps. -/
def rewriteFrom (rule : Rule) (before : Option Glyph) : Nat → List Glyph → List Glyph
  | _, [] => []
  | 0, gs => gs
  | steps + 1, g :: rest =>
    match rule before (g :: rest) with
    | some (replacement, after) =>
      replacement ++ rewriteFrom rule (lastTaken (g :: rest) after) steps after
    | none => g :: rewriteFrom rule (some g) steps rest

/-- The glyphs after a rule was applied wherever it matches.  Every match takes at least one
glyph. -/
def rewrite (rule : Rule) (gs : List Glyph) : List Glyph := rewriteFrom rule none gs.length gs

/-! ## Phrases -/

/-- Words with blanks between them. -/
abbrev Phrase := List String

def Phrase.text (p : Phrase) : String := String.intercalate " " p

/-- The glyphs after one or more blanks. -/
def afterBlanks? (gs : List Glyph) : Option (List Glyph) :=
  match gs with
  | g :: rest => if g.isBlank then some (rest.dropWhile Glyph.isBlank) else none
  | [] => none

/-- The glyphs after a word that they start with. -/
def afterWord? : List Char → List Glyph → Option (List Glyph)
  | [], gs => some gs
  | c :: word, .char d :: gs => if c = d then afterWord? word gs else none
  | _ :: _, _ => none

/-- The glyphs after a phrase that they start with. -/
def matchPhrase? : Phrase → List Glyph → Option (List Glyph)
  | [], gs => some gs
  | [word], gs => afterWord? word.toList gs
  | word :: words, gs => do
    matchPhrase? words (← afterBlanks? (← afterWord? word.toList gs))

/-- The glyphs after a phrase that ends where a word ends. -/
def wholePhrase? (p : Phrase) (gs : List Glyph) : Option (List Glyph) := do
  let rest ← matchPhrase? p gs
  if (rest.head?.map Glyph.isWord).getD false then none else some rest

/-! ## Line breaks -/

/-- The blanks in front of an indented line. -/
def indent : String := "    "

/-- A line break in place of the blanks before one of some phrases. -/
def breakBefore (phrases : List Phrase) : Rule := fun _ gs => do
  let rest ← afterBlanks? gs
  phrases.findSome? fun p =>
    (wholePhrase? p rest).map fun after => (.char '\n' :: glyphs p.text, after)

/-- An indented line in place of the blanks after a phrase that starts a line. -/
def indentAfter (p : Phrase) : Rule := fun _ gs =>
  match gs with
  | .char '\n' :: rest => do
    let after ← afterBlanks? (← matchPhrase? p rest)
    some (glyphs ("\n" ++ p.text ++ "\n" ++ indent), after)
  | _ => none

end Layout
end QueryDesigner
