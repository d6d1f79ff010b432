import QueryDesigner.Proofs.Canvas.Step
import QueryDesigner.Proofs.Text.Trim

/-!
# Aliases are trimmed

A request for an alias is trimmed, and the alias of one more table of a name is made from the name
as the catalog spells it.

* `Edit.requestedAlias_requestedAlias` — an alias that was given can be asked for again;
* `Canvas.blankStart_nameFor` — the name under which a table comes in does not start with a blank;
* `Query.flush_numbered` — nor does such a name with a number, and it ends in a digit;
* `Query.Trimmed` — every table has an alias that can be asked for;
* `Canvas.Step.trimmed`, `Canvas.trimmed_afterAll` — the step lemma and the run lemma.
-/

namespace QueryDesigner

namespace Edit

theorem requestedAlias_of_flush {s : String} (hne : s ≠ "") (h : Text.Flush s.toList) :
    requestedAlias (some s) = some s := by
  simp [requestedAlias, Text.trim_eq_self h, aliasOf, hne]

/-- An alias that was given can be asked for again. -/
@[simp] theorem requestedAlias_requestedAlias (request : Option String) :
    requestedAlias (requestedAlias request) = requestedAlias request := by
  cases request with
  | none =>
      rfl
  | some s =>
      by_cases hblank : Text.trim s = ""
      · -- A blank request gives no alias, and neither does no request.
        simp [requestedAlias, aliasOf, hblank]
      · have hgiven : requestedAlias (some s) = some (Text.trim s) := by
          simp [requestedAlias, aliasOf, hblank]
        rw [hgiven]
        exact requestedAlias_of_flush hblank (Text.flush_trim s)

end Edit

/-! ## The aliases of tables that come in -/

namespace Canvas

/-- The catalog spells a name with other letters, and the first one of them is a blank only if the
first one of the name is. -/
theorem blankStart_canonicalName (c : Canvas) (name : String) :
    Text.blankStart (c.canonicalName name).toList = Text.blankStart name.toList := by
  cases hfind : c.catalog.bind fun catalog => catalog.findTable? name with
  | none =>
      simp [canonicalName, hfind]
  | some t =>
      rcases Option.bind_eq_some_iff.1 hfind with ⟨catalog, _, htable⟩
      have hsame : Text.sameLetters t.name name = true := by
        unfold Catalog.findTable? at htable
        split_ifs at htable
        simpa using List.find?_some htable
      simpa [canonicalName, hfind] using Text.blankStart_eq_of_sameLetters hsame

theorem blankStart_nameFor {c : Canvas} {name : String} (hname : Text.trim name ≠ "") :
    Text.blankStart (c.nameFor name).toList = some false := by
  rw [nameFor, blankStart_canonicalName]
  exact (Text.flush_trim name).blankStart (by simpa using hname)

end Canvas

namespace Query

variable {q : Query}

theorem flush_numbered {name : String} (h : Text.blankStart name.toList = some false) (n : Nat) :
    Text.Flush (numbered name n).toList := by
  have hchars : (numbered name n).toList = name.toList ++ '_' :: Nat.toDigits 10 n := by
    simp [numbered, Nat.toList_repr]
  have hblanks : ∀ c ∈ '_' :: Nat.toDigits 10 n, Text.isBlank c = false := by
    intro c hc
    rcases List.mem_cons.1 hc with rfl | hdigit
    · decide
    · have hascii := Nat.isDigit_of_mem_toDigits (by decide) (by decide) hdigit
      exact Text.isBlank_eq_false_of_asciiDigit hascii
  rw [hchars]
  exact Text.flush_append h (List.cons_ne_nil _ _) hblanks

/-- Every table has an alias that can be asked for: none, or a text that is not empty and has no
blanks at its ends. -/
def Trimmed (q : Query) : Prop :=
  ∀ t ∈ q.tables, Edit.requestedAlias t.aliasName = t.aliasName

namespace Trimmed

theorem empty : ({} : Query).Trimmed := by simp [Trimmed]

theorem of_tables {r : Query} (h : q.Trimmed) (htables : ∀ t ∈ r.tables, t ∈ q.tables) :
    r.Trimmed := fun t ht => h t (htables t ht)

theorem withTable {t : TableRef} (h : q.Trimmed)
    (ht : Edit.requestedAlias t.aliasName = t.aliasName) : (q.withTable t).Trimmed := by
  intro u hu
  rcases List.mem_append.1 hu with hu | hu
  · exact h u hu
  · rw [List.mem_singleton.1 hu]
    exact ht

theorem withAlias {key : String} {request : Option String} {table : TableRef} (h : q.Trimmed)
    (hfind : q.findTable? key = some table) :
    (q.withAlias key (Edit.requestedAlias request)).Trimmed := by
  rcases tables_withAlias (Edit.requestedAlias request) hfind with ⟨before, after, hsplit, hnew⟩
  intro t ht
  rw [hnew, List.mem_append, List.mem_cons] at ht
  rcases ht with ht | rfl | ht
  · exact h t (by simp [hsplit, ht])
  · exact Edit.requestedAlias_requestedAlias request
  · exact h t (by simp [hsplit, ht])

theorem renamed (h : q.Trimmed) (old new : String) (request : Option String) :
    (q.renamed old new (Edit.requestedAlias request)).Trimmed := by
  intro t ht
  rcases List.mem_map.1 ht with ⟨u, hu, rfl⟩
  by_cases hkey : u.key = old
  · simp [hkey]
  · simpa [hkey] using h u hu

end Trimmed

end Query

namespace Canvas

variable {c c' : Canvas}

theorem requestedAlias_incoming {name : String} (hname : Text.trim name ≠ "") :
    Edit.requestedAlias (c.incoming (c.nameFor name)).aliasName =
      (c.incoming (c.nameFor name)).aliasName := by
  cases hused : c.query.usesName (c.nameFor name) with
  | false =>
      simp [incoming, hused, Edit.requestedAlias]
  | true =>
      have hflush : Text.Flush (c.query.selfJoinAlias (c.nameFor name)).toList :=
        Query.flush_numbered (blankStart_nameFor hname) _
      have hne : c.query.selfJoinAlias (c.nameFor name) ≠ "" := Query.numbered_ne_empty _ _
      simpa [incoming, hused] using Edit.requestedAlias_of_flush hne hflush

theorem Step.trimmed {given : List String} (h : c.Step given c') :
    c.query.Keyed → c.query.Trimmed → c'.query.Trimmed := by
  intro hkeyed hc
  cases h with
  | tableIn hname =>
      exact hc.withTable (requestedAlias_incoming hname)
  | toggledIn _ hname =>
      exact hc.withTable (requestedAlias_incoming hname)
  | tableOut key =>
      exact hc.of_tables fun t ht => List.mem_of_mem_filter ht
  | aliased hfind _ =>
      exact hc.withAlias hfind
  | renamed _ _ _ =>
      exact hc.renamed _ _ _
  | reordered hperm =>
      -- The tables are looked up by their keys, so that keys have to identify them.
      exact hc.of_tables fun t ht => (hkeyed.distinct.tables_inOrder hperm).2.mem_iff.1 ht
  | allSelected s =>
      exact hc.of_tables fun t ht => Query.tables_withEverySelection c.query s ▸ ht
  | referred htables _ _ _ =>
      exact hc.of_tables fun t ht => htables ▸ ht
  | cleared =>
      exact .empty
  | stays | selected _ _ | joined _ =>
      exact hc

theorem trimmed_afterAll {events : List Event} :
    c.query.Keyed → c.query.Trimmed → (c.afterAll events).query.Trimmed := by
  intro hkeyed hc
  induction events generalizing c with
  | nil =>
      exact hc
  | cons e rest ih =>
      refine ih (keyed_after e hkeyed) ?_
      cases e with
      | mutate m =>
          exact (m.step c).trimmed hkeyed hc
      | attach catalog =>
          exact hc

end Canvas

end QueryDesigner
