import Mathlib
import QueryDesigner.Proofs.Parser.Part

/-!
# Texts of plain SELECT statements

* `AreQuiet` — tokens none of which changes how the next one is taken;
* `PlainSelect.areQuiet` — the tokens of a plain SELECT statement are such tokens;
* `statements?_of_spells`, `decompile_of_spells` — a text that spells a plain SELECT statement and a
  semicolon is that statement, and it is decompiled as such.
-/

namespace QueryDesigner
namespace Sql

open QueryDesigner.Sql.Parser

/-! ## Quiet tokens -/

/-- No token changes how the next one is taken. -/
def AreQuiet (ls : List Lexeme) : Prop := ∀ l ∈ ls, l.IsQuiet

namespace AreQuiet

variable {l : Lexeme} {ls ms : List Lexeme}

theorem nil : AreQuiet [] := fun _ h => by cases h

theorem cons (hl : l.IsQuiet) (hls : AreQuiet ls) : AreQuiet (l :: ls) :=
  List.forall_mem_cons.2 ⟨hl, hls⟩

theorem append (hls : AreQuiet ls) (hms : AreQuiet ms) : AreQuiet (ls ++ ms) :=
  List.forall_mem_append.2 ⟨hls, hms⟩

theorem flatMap {α : Type} {xs : List α} {f : α → List Lexeme} (h : ∀ x ∈ xs, AreQuiet (f x)) :
    AreQuiet (xs.flatMap f) := by
  intro l hl
  obtain ⟨x, hx, hmem⟩ := List.mem_flatMap.1 hl
  exact h x hx l hmem

theorem separated {items : List (List Lexeme)} (h : ∀ ls ∈ items, AreQuiet ls) :
    AreQuiet (separated items) := by
  induction items with
  | nil => exact nil
  | cons ls items ih =>
      obtain ⟨hls, hitems⟩ := List.forall_mem_cons.1 h
      cases items with
      | nil => exact hls
      | cons ms items => exact hls.append (cons (by decide) (ih hitems))

theorem listRow {word : String} (hword : (Lexeme.of .phrase word).IsQuiet)
    {items : List (List Lexeme)} (h : ∀ ls ∈ items, AreQuiet ls) : AreQuiet (listRow word items) := by
  cases items with
  | nil => exact nil
  | cons ls items => exact cons hword (separated h)

end AreQuiet

theorem IsName.isQuiet {w : String} (hw : IsName w) : (Lexeme.of .word w).IsQuiet :=
  hw.upper_notMem (by decide +kernel)

theorem Ref.areQuiet {r : Ref} (hr : r.IsNamed) : AreQuiet r.lexemes := by
  cases r with
  | bare column => exact .cons (IsName.isQuiet hr) .nil
  | qualified key column => exact .cons hr.1.isQuiet (.cons (by decide) (.cons hr.2.isQuiet .nil))

theorem Numeral.isQuiet (n : Numeral) : n.lexeme.IsQuiet := by
  have hnot : "" ∉ ["@", ";", "BEGIN", "START"] := by decide
  exact hnot

theorem Constant.areQuiet (k : Constant) : AreQuiet k.lexemes := by
  have hnot : "" ∉ ["@", ";", "BEGIN", "START"] := by decide
  cases k with
  | text value => exact .cons hnot .nil
  | number isNegative digits =>
      cases isNegative with
      | false => exact .cons digits.isQuiet .nil
      | true => exact .cons (by decide) (.cons digits.isQuiet .nil)

theorem areQuiet_negation (isNegated : Bool) : AreQuiet (negation isNegated) := by
  cases isNegated with
  | false => exact .nil
  | true => exact .cons (by decide) .nil

theorem Check.areQuiet (check : Check) : AreQuiet check.lexemes := by
  cases check with
  | compare comparison k => exact .cons (by cases comparison <;> decide) k.areQuiet
  | like isNegated k => exact (areQuiet_negation _).append (.cons (by decide) k.areQuiet)
  | among isNegated items =>
      have hitems : AreQuiet (separated (items.map Constant.lexemes)) :=
        .separated (List.forall_mem_map.2 fun k _ => k.areQuiet)
      exact (areQuiet_negation _).append
        (.cons (by decide) (.cons (by decide) (hitems.append (.cons (by decide) .nil))))
  | between isNegated low high =>
      exact (areQuiet_negation _).append
        (.cons (by decide) (low.areQuiet.append (.cons (by decide) high.areQuiet)))
  | isNull isNegated =>
      exact .cons (by decide) ((areQuiet_negation _).append (.cons (by decide) .nil))

theorem Test.areQuiet {t : Test} (ht : t.IsWritten) : AreQuiet t.lexemes :=
  (Ref.areQuiet ht.named).append t.check.areQuiet

theorem areQuiet_whereRow {tests : List Test} (h : ∀ t ∈ tests, t.IsWritten) :
    AreQuiet (whereRow tests) := by
  cases tests with
  | nil => exact .nil
  | cons first others =>
      obtain ⟨hfirst, hothers⟩ := List.forall_mem_cons.1 h
      exact .cons (by decide) ((Test.areQuiet hfirst).append
        (.flatMap fun t ht => .cons (by decide) (Test.areQuiet (hothers t ht))))

theorem SourceTable.areQuiet {t : SourceTable} (ht : t.IsNamed) : AreQuiet t.lexemes := by
  obtain ⟨name, aliasName⟩ := t
  cases aliasName with
  | none => exact .cons ht.name.isQuiet .nil
  | some s =>
      exact .cons ht.name.isQuiet (.cons (by decide) (.cons (ht.aliasName s rfl).isQuiet .nil))

theorem TableJoin.areQuiet {j : TableJoin} (hj : j.IsNamed) : AreQuiet j.lexemes :=
  .cons (by cases j.word <;> decide) (.cons (by decide) ((SourceTable.areQuiet hj.table).append
    (.cons (by decide) ((Ref.areQuiet hj.left).append (.cons (by decide) (Ref.areQuiet hj.right))))))

theorem Page.areQuiet (page : Page) : AreQuiet page.lexemes := by
  obtain ⟨limit, offset⟩ := page
  cases offset with
  | none => exact .cons (by decide) (.cons limit.isQuiet .nil)
  | some n =>
      exact .cons (by decide) (.cons limit.isQuiet (.cons (by decide) (.cons n.isQuiet .nil)))

theorem SortEntry.areQuiet {s : SortEntry} (hs : s.column.IsNamed) : AreQuiet s.lexemes :=
  (Ref.areQuiet hs).append (.cons (by cases s.isDescending <;> decide) .nil)

theorem Item.areQuiet {i : Item} (hi : i.IsNamed) : AreQuiet i.lexemes := by
  have hlast : i.last.IsQuiet := by
    cases i with
    | all key => exact (by decide : (Lexeme.of .sign "*").IsQuiet)
    | column key name => exact hi.2.isQuiet
  exact .cons hi.key.isQuiet (.cons (by decide) (.cons hlast .nil))

theorem PlainSelect.areQuiet {p : PlainSelect} (hp : p.IsWritten) : AreQuiet p.lexemes := by
  have hpage : AreQuiet (p.page.elim [] Page.lexemes) := by
    cases p.page with
    | none => exact .nil
    | some page => exact page.areQuiet
  have hclauses : AreQuiet p.clauseRow :=
    (areQuiet_whereRow hp.tests).append
      ((AreQuiet.listRow (by decide)
          (List.forall_mem_map.2 fun r hr => Ref.areQuiet (hp.groups r hr))).append
        ((AreQuiet.listRow (by decide)
          (List.forall_mem_map.2 fun s hs => SortEntry.areQuiet (hp.orders s hs))).append hpage))
  exact .cons (by decide) ((AreQuiet.separated
    (List.forall_mem_map.2 fun i hi => Item.areQuiet (hp.items i hi))).append
      (.cons (by decide) ((SourceTable.areQuiet hp.source).append
        ((AreQuiet.flatMap fun j hj => TableJoin.areQuiet (hp.joins j hj)).append hclauses))))

/-! ## Texts -/

section Texts

variable {p : PlainSelect} (hp : p.IsWritten) {s : String}
  (hs : Spells s.toList (p.lexemes ++ [.of .sign ";"]) [])
include hp hs

theorem exists_row_of_statement : ∃ ts, tokens? s = some ts ∧ Row ts (p.lexemes ++ [.of .sign ";"]) := by
  refine exists_row_of_spells hs ?_ ?_
  · rw [List.dropLast_concat]
    exact PlainSelect.areQuiet hp
  · intro l hl
    obtain rfl := Option.some.inj hl
    decide +kernel

theorem statements?_of_spells : statements? s = some [some (.query (.select p.select))] := by
  obtain ⟨ts, htokens, hrow⟩ := exists_row_of_statement hp hs
  obtain ⟨us, hsplit, hus⟩ := splitStatements_of_row (PlainSelect.areQuiet hp) hrow
  rw [statements?, htokens, Option.bind_eq_bind, Option.bind_some, hsplit, List.mapM_cons,
    statementOf?_row hp hus]
  rfl

theorem ofText_of_spells : StatementKind.ofText s = .select := by
  obtain ⟨ts, htokens, hrow⟩ := exists_row_of_statement hp hs
  rw [StatementKind.ofText, htokens]
  cases hrow with
  | cons _ a b hrow =>
      have hkept : StatementKind.isSkipped ⟨.of .word "SELECT", a, b, []⟩ = false := by
        simp only [StatementKind.isSkipped, Token.is, Token.keyword_mk]
        decide
      simp only [StatementKind.ofTokens, List.dropWhile_cons, hkept, Bool.false_eq_true, if_false]
      decide

/-- A plain SELECT statement is decompiled into what is read of it, and nothing in it is too much for a
query. -/
theorem decompile_of_spells {catalog : Option Catalog} {d : Draft}
    (hread : (Reading.readSelect p.select).run { canvas := .ofQuery {} catalog } = .ok () d) :
    decompile s catalog = .ok
      { canvas := d.canvas
        kind := .select
        warnings := d.warnings
        unsupported := []
        unresolved := d.unresolved } := by
  have hnodes : Reading.readNodes ((Statement.query (.select p.select)).nodes 0) =
      Reading.readSelect p.select := by
    rw [Reading.readNodes, p.mainSelect?_nodes]
  simp only [decompile, ofText_of_spells hp hs, statements?_of_spells hp hs, decompileNodes, hnodes,
    hread, p.featuresOf_nodes, List.map_nil]

end Texts

end Sql
end QueryDesigner
