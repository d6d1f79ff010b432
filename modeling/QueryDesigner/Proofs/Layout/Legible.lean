import Mathlib
import QueryDesigner.Proofs.Layout.Protect
import QueryDesigner.Proofs.Layout.Relaid

/-!
# Literals that the lexer reads whole

The formatter and the lexer each have their own idea of where a quoted literal ends: a backslash
means something to the lexer only.  Where it reads each literal of the formatter to its end, it does
so whatever follows, unless one more quote does.

* `content?` — what the lexer reads after an opening quote;
* `isWhole`, `Closes`, `exists_closes` — a literal that is read to its end;
* `Legible` — glyphs whose literals are of that kind;
* `Legible.char`, `Legible.literal` — quotes without an end, and literals.
-/

namespace QueryDesigner
namespace Layout

/-! ## Reading to the end -/

/-- The content of a literal whose opening quote has been read by the lexer, and what follows. -/
def content? (quote : Char) (cs : List Char) : Option (List Char × List Char) :=
  if quote = '`' then Sql.readName? cs else Sql.readText? quote cs

/-- The lexer reads a literal to its end. -/
def isWhole : List Char → Bool
  | [] => false
  | quote :: body => (content? quote body).map Prod.snd == some []

/-- Before anything but one more quote the lexer reads some content.  One more quote goes on with
the literal. -/
structure Closes (quote : Char) (body content : List Char) : Prop where
  apart : ∀ rest, rest.head? ≠ some quote → content? quote (body ++ rest) = some (content, rest)
  twice : ∀ rest, content? quote (body ++ quote :: rest) =
    (content? quote rest).map fun (text, after) => (content ++ quote :: text, after)

section Closing

variable {quote : Char} {body content cs : List Char}

theorem readName?_cons_of_ne {c : Char} (hc : c ≠ '`') (cs : List Char) :
    Sql.readName? (c :: cs) = (Sql.readName? cs).map fun (name, after) => (c :: name, after) := by
  conv_lhs => unfold Sql.readName?
  split
  next heq => cases heq
  next heq => exact absurd (List.cons.inj heq).1 hc
  next heq => exact absurd (List.cons.inj heq).1 hc
  next heq =>
      obtain ⟨rfl, rfl⟩ := List.cons.inj heq
      rfl

theorem content?_name (cs : List Char) : content? '`' cs = Sql.readName? cs := if_pos rfl

theorem content?_text (hquote : quote ≠ '`') (cs : List Char) :
    content? quote cs = Sql.readText? quote cs := if_neg hquote

/-- What is read before the rest of a literal is read before all of it. -/
theorem Closes.grow (taken shown : List Char) (h : Closes quote body content)
    (hread : ∀ cs, content? quote (taken ++ cs) =
      (content? quote cs).map fun (text, after) => (shown ++ text, after)) :
    Closes quote (taken ++ body) (shown ++ content) where
  apart := by
    intro rest hrest
    rw [List.append_assoc, hread, h.apart rest hrest]
    rfl
  twice := by
    intro rest
    rw [List.append_assoc, hread, h.twice, Option.map_map]
    simp [Function.comp_def]

theorem closes_name : Closes '`' ['`'] [] where
  apart := by
    intro rest hrest
    rw [content?_name, List.singleton_append]
    unfold Sql.readName?
    split
    next heq => cases heq
    next tail heq =>
        obtain ⟨-, rfl⟩ := List.cons.inj heq
        exact absurd rfl hrest
    next heq =>
        obtain ⟨-, rfl⟩ := List.cons.inj heq
        rfl
    next hne heq => exact absurd (List.cons.inj heq).1.symm (hne)
  twice := by
    intro rest
    rw [content?_name, content?_name]
    rfl

theorem closes_of_readName? (h : Sql.readName? body = some (content, [])) :
    Closes '`' body content := by
  fun_induction Sql.readName? body generalizing content with
  | case1 =>
      cases h
  | case2 rest ih =>
      rcases Option.map_eq_some_iff.1 h with ⟨⟨name, after⟩, hrest, heq⟩
      cases heq
      exact (ih hrest).grow ['`', '`'] ['`'] fun _ => rfl
  | case3 rest =>
      cases h
      exact closes_name
  | case4 c rest _ hc ih =>
      rcases Option.map_eq_some_iff.1 h with ⟨⟨name, after⟩, hrest, heq⟩
      cases heq
      exact (ih hrest).grow [c] [c] fun cs => readName?_cons_of_ne hc cs

theorem closes_text (hquote : quote ≠ '\\') (hname : quote ≠ '`') : Closes quote [quote] [] where
  apart := by
    intro rest hrest
    rw [content?_text hname, List.singleton_append, Sql.readText?_closing hquote hrest]
  twice := by
    intro rest
    rw [content?_text hname, content?_text hname, List.singleton_append,
      Sql.readText?_twice hquote]
    rfl

theorem closes_of_readText? (hquote : quote ≠ '\\') (hname : quote ≠ '`')
    (h : Sql.readText? quote body = some (content, [])) : Closes quote body content := by
  fun_induction Sql.readText? quote body generalizing content with
  | case1 =>
      cases h
  | case2 c rest =>
      rename_i shown ih
      rcases Option.map_eq_some_iff.1 h with ⟨⟨text, after⟩, hrest, heq⟩
      cases heq
      exact (ih hrest).grow ['\\', c] _ fun cs => by
        rw [content?_text hname, content?_text hname]
        rfl
  | case3 rest _ ih =>
      rcases Option.map_eq_some_iff.1 h with ⟨⟨text, after⟩, hrest, heq⟩
      cases heq
      exact (ih hrest).grow [quote, quote] [quote] fun cs => by
        rw [content?_text hname, content?_text hname]
        exact Sql.readText?_twice hquote
  | case4 =>
      cases h
  | case5 =>
      cases h
      exact closes_text hquote hname
  | case6 c rest hbackslash hc ih =>
      rcases Option.map_eq_some_iff.1 h with ⟨⟨text, after⟩, hrest, heq⟩
      cases heq
      -- A backslash at the end would leave the literal open.
      have hplain : c ≠ '\\' := by
        rintro rfl
        cases rest with
        | nil =>
            cases hrest
        | cons d rest =>
            exact hbackslash d rest rfl rfl
      exact (ih hrest).grow [c] [c] fun cs => by
        rw [content?_text hname, content?_text hname]
        exact Sql.readText?_cons_of_ne hplain hc

theorem exists_closes (hquote : isQuote quote = true) (h : isWhole (quote :: body) = true) :
    ∃ content, Closes quote body content := by
  rw [isWhole, beq_iff_eq, Option.map_eq_some_iff] at h
  rcases h with ⟨⟨content, rest⟩, hread, rfl⟩
  refine ⟨content, ?_⟩
  rcases isQuote_cases hquote with rfl | rfl | rfl
  · exact closes_of_readText? (by decide) (by decide) hread
  · exact closes_of_readText? (by decide) (by decide) hread
  · exact closes_of_readName? hread

/-- Without one more quote nothing is read. -/
theorem content?_eq_none (h : quote ∉ cs) : content? quote cs = none := by
  by_cases hname : quote = '`'
  · subst hname
    rw [content?_name]
    fun_induction Sql.readName? cs with
    | case1 =>
        rfl
    | case2 =>
        exact absurd List.mem_cons_self h
    | case3 =>
        exact absurd List.mem_cons_self h
    | case4 c rest _ _ ih =>
        rw [ih fun hmem => h (List.mem_cons_of_mem c hmem)]
        rfl
  · rw [content?_text hname]
    fun_induction Sql.readText? quote cs with
    | case1 =>
        rfl
    | case2 c rest =>
        rename_i ih
        rw [ih fun hmem => h (List.mem_cons_of_mem _ (List.mem_cons_of_mem _ hmem))]
        rfl
    | case3 =>
        exact absurd List.mem_cons_self h
    | case4 =>
        exact absurd List.mem_cons_self h
    | case5 =>
        exact absurd List.mem_cons_self h
    | case6 c rest _ _ ih =>
        rw [ih fun hmem => h (List.mem_cons_of_mem c hmem)]
        rfl

end Closing

/-! ## Legible glyphs -/

variable {literals : List (List Char)} {gs : List Glyph}

theorem Settled.suffix {gs' : List Glyph} (h : Settled literals gs) (hsuffix : gs' <:+ gs) :
    Settled literals gs' := by
  rcases hsuffix with ⟨taken, rfl⟩
  induction taken with
  | nil =>
      exact h
  | cons g taken ih =>
      exact ih (settled_cons_iff.1 h).2

/-- Glyphs with literals that the lexer reads to their ends. -/
structure Legible (literals : List (List Char)) (gs : List Glyph) : Prop where
  settled : Settled literals gs
  whole : ∀ text ∈ literals, isWhole text = true

namespace Legible

theorem suffix (h : Legible literals gs) {gs' : List Glyph} (hsuffix : gs' <:+ gs) :
    Legible literals gs' := ⟨h.settled.suffix hsuffix, h.whole⟩

theorem tail {g : Glyph} (h : Legible literals (g :: gs)) : Legible literals gs :=
  h.suffix (List.suffix_cons g gs)

/-- A quote on its own is not closed. -/
theorem char {quote : Char} (h : Legible literals (.char quote :: gs))
    (hquote : isQuote quote = true) : content? quote (fill literals gs) = none :=
  content?_eq_none ((literal?_eq_none_iff hquote).1 (settled_cons_iff.1 h.settled).1)

/-- A literal is read to its end. -/
theorem literal {index : Nat} (h : Legible literals (.literal index :: gs)) :
    ∃ quote body content, isQuote quote = true ∧ Closes quote body content ∧
      ∀ hs, fill literals (.literal index :: hs) = quote :: (body ++ fill literals hs) := by
  rcases (settled_cons_iff.1 h.settled).1 with ⟨text, hget, hliteral⟩
  rcases literal?_eq_some hliteral with ⟨-, quote, body, hquote, rfl, -⟩
  rcases exists_closes hquote (h.whole _ (List.mem_of_getElem? hget)) with ⟨content, hcloses⟩
  exact ⟨quote, body, content, hquote, hcloses, fun hs => by simp [Glyph.read, hget]⟩

end Legible

/-! ## The text of legible glyphs -/

theorem fill_append (gs hs : List Glyph) :
    fill literals (gs ++ hs) = fill literals gs ++ fill literals hs := List.flatMap_append

theorem fill_map_char (cs : List Char) : fill literals (cs.map .char) = cs := by
  rw [fill, List.flatMap_map]
  exact List.flatMap_singleton' cs

theorem isStop_of_isQuote {c : Char} (h : isQuote c = true) : Sql.isStop c = true := by
  rcases isQuote_cases h with rfl | rfl | rfl
  all_goals decide

theorem isBlank_eq_false_of_isQuote {c : Char} (h : isQuote c = true) : Text.isBlank c = false := by
  rcases isQuote_cases h with rfl | rfl | rfl
  all_goals decide

theorem dropBlanks_fill_append {bs : List Glyph} (hbs : Blanks bs) (gs : List Glyph) :
    Text.dropBlanks (fill literals (bs ++ gs)) = Text.dropBlanks (fill literals gs) := by
  rw [fill_append]
  refine List.dropWhile_append_of_pos fun c hc => ?_
  rcases List.mem_flatMap.1 hc with ⟨b, hb, hread⟩
  have hblank := hbs b hb
  cases b with
  | char d =>
      obtain rfl : c = d := by simpa [Glyph.read] using hread
      exact hblank
  | literal index =>
      cases hblank

namespace Legible

theorem dropBlanks_fill (h : Legible literals gs) :
    Text.dropBlanks (fill literals gs) = fill literals (gs.dropWhile Glyph.isBlank) := by
  induction gs with
  | nil =>
      rfl
  | cons g rest ih =>
      cases g with
      | char c =>
          cases hc : Text.isBlank c with
          | true =>
              have hglyph : (Glyph.char c).isBlank = true := hc
              rw [List.dropWhile_cons_of_pos hglyph, ← ih h.tail]
              exact List.dropWhile_cons_of_pos hc
          | false =>
              rw [List.dropWhile_cons_of_neg (by simp [Glyph.isBlank, hc])]
              exact Sql.dropBlanks_cons_of_ink hc _
      | literal index =>
          rcases h.literal with ⟨quote, body, content, hquote, -, hfill⟩
          rw [List.dropWhile_cons_of_neg (by simp [Glyph.isBlank]), hfill]
          exact Sql.dropBlanks_cons_of_ink (isBlank_eq_false_of_isQuote hquote) _

theorem stops_fill (h : Legible literals gs) (hstops : ∀ g ∈ gs.head?, g.isSolid = false) :
    Sql.Stops (fill literals gs) := by
  cases gs with
  | nil =>
      exact Sql.stops_nil
  | cons g rest =>
      intro c hc
      cases g with
      | char d =>
          obtain rfl : d = c := Option.some.inj hc
          have hd := hstops _ rfl
          simpa [Glyph.isSolid] using hd
      | literal index =>
          rcases h.literal with ⟨quote, body, content, hquote, -, hfill⟩
          rw [hfill] at hc
          obtain rfl : quote = c := Option.some.inj hc
          exact isStop_of_isQuote hquote

/-- No glyph stands for nothing. -/
theorem eq_nil (h : Legible literals gs) (hfill : fill literals gs = []) : gs = [] := by
  cases gs with
  | nil =>
      rfl
  | cons g rest =>
      cases g with
      | char c =>
          cases hfill
      | literal index =>
          rcases h.literal with ⟨quote, body, content, -, -, hliteral⟩
          rw [hliteral] at hfill
          cases hfill

/-- What is no quote is no literal. -/
theorem exists_char (h : Legible literals gs) {c : Char} {cs : List Char}
    (hquote : isQuote c = false) (hfill : fill literals gs = c :: cs) :
    ∃ gs', gs = .char c :: gs' ∧ cs = fill literals gs' := by
  cases gs with
  | nil =>
      cases hfill
  | cons g rest =>
      cases g with
      | char d =>
          obtain ⟨rfl, rfl⟩ := List.cons.inj hfill
          exact ⟨rest, rfl, rfl⟩
      | literal index =>
          rcases h.literal with ⟨quote, body, content, hquote', -, hfill'⟩
          rw [hfill'] at hfill
          rw [(List.cons.inj hfill).1, hquote] at hquote'
          cases hquote'

end Legible

end Layout
end QueryDesigner
