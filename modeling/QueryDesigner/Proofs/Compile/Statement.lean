import Mathlib
import QueryDesigner.Compile.Statement
import QueryDesigner.Proofs.Compile.Check
import QueryDesigner.Proofs.Parser.Select
import QueryDesigner.Proofs.Text.Digit

/-!
# Statements of queries

* `PlainSelect.Writes` — a query is written as a plain SELECT statement, clause by clause;
* `Numeral.ofNat` — a count as it is written;
* `isSpelled_sources`, `isSpelled_join`, … — the lines of the statement;
* `spells_compile` — the statement is spelled by the tokens of the plain SELECT statement.
-/

namespace QueryDesigner

/-! ## Parts -/

/-- A table as it stands in a statement. -/
def TableRef.written (t : TableRef) : Sql.SourceTable := ⟨t.name, t.aliasName.bind aliasOf⟩

def SelectItem.written : SelectItem → Sql.Item
  | all key => .all key
  | column key name => .column key name

def JoinType.written : JoinType → Sql.JoinWord
  | inner => .inner
  | left => .left
  | right => .right

/-- The two columns of a join as they stand in a statement. -/
def Join.refs (j : Join) : Sql.Ref × Sql.Ref :=
  (.qualified j.leftTable j.leftColumn, .qualified j.rightTable j.rightColumn)

/-- A join as it stands in a statement.  One that brings in no table names its right end. -/
def JoinClause.written : JoinClause → Sql.TableJoin
  | introduces join table => ⟨join.type.written, table.written, join.refs.1, join.refs.2⟩
  | refines join key => ⟨join.type.written, ⟨key, none⟩, join.refs.1, join.refs.2⟩

namespace Sql

open QueryDesigner.Sql.Parser

/-- A test says what a condition says. -/
structure Test.Writes (t : Test) (c : Condition) : Prop where
  column : t.left.text = c.column
  operator : t.check.operator = c.operator
  value : t.check.Means c.value

/-- A sort entry of the query. -/
def SortEntry.order (s : SortEntry) : Order :=
  ⟨s.column.text, if s.isDescending then .descending else .ascending⟩

/-! ## Counts -/

section Counts

variable (n : Nat)

theorem forall_isDecimal_toString : ∀ c ∈ (toString n).toList, Text.isDecimal c = true := by
  intro c hc
  have hdigits : (toString n).toList = Nat.toDigits 10 n := by simp [Nat.repr]
  rw [hdigits] at hc
  exact Text.isDecimal_of_mem_toDigits hc

theorem exists_cons_toString : ∃ c cs, (toString n).toList = c :: cs := by
  cases hchars : (toString n).toList with
  | nil => simp at hchars
  | cons c cs => exact ⟨c, cs, rfl⟩

theorem startsWithDigit_toString : Text.startsWithDigit (toString n) = true := by
  obtain ⟨c, cs, hchars⟩ := exists_cons_toString n
  have hc := forall_isDecimal_toString n c (by rw [hchars]; exact List.mem_cons_self)
  rw [Text.startsWithDigit, hchars]
  exact Text.isDigit_of_isDecimal hc

/-- A count as it is written. -/
def Numeral.ofNat : Numeral := ⟨toString n, startsWithDigit_toString n⟩

theorem Numeral.isWhole_ofNat : (Numeral.ofNat n).IsWhole where
  numeral := by
    have hall := forall_isDecimal_toString n
    obtain ⟨c, cs, hchars⟩ := exists_cons_toString n
    have htext : (Numeral.ofNat n).text.toList = c :: cs := hchars
    rw [hchars] at hall
    rw [Text.isNumeral, (Numeral.ofNat n).dropSign_text, htext, Text.isUnsignedNumeral,
      List.takeWhile_eq_self_iff.2 hall, List.dropWhile_eq_nil_iff.2 hall]
    rfl
  flush := by
    have hall : ∀ c ∈ (toString n).toList, Text.isBlank c = false := fun c hc =>
      Text.isBlank_eq_false_of_isDigit
        (Text.isDigit_of_isDecimal (forall_isDecimal_toString n c hc))
    exact ⟨fun c hc => hall c (List.mem_of_mem_head? hc),
      fun c hc => hall c (List.mem_of_mem_getLast? hc)⟩

end Counts

/-! ## Statements -/

/-- The query is written as the plain SELECT statement. -/
structure PlainSelect.Writes (p : PlainSelect) (q : QueryDesigner.Query) : Prop where
  items : p.items = q.selectItems.map SelectItem.written
  source : ∃ first ∈ q.tables.head?, p.source = first.written
  joins : p.joins = q.joinClauses.map JoinClause.written
  tests : List.Forall₂ Test.Writes p.tests q.predicates
  ands : ∀ c ∈ q.predicates.tail, c.connector = .and
  groups : p.groups.map Ref.text = q.groups
  orders : p.orders.map SortEntry.order = q.sorts
  page : p.page = q.limit.map fun limit => ⟨.ofNat limit, q.offset.map .ofNat⟩

/-! ## Lines -/

section Lines

variable {s t : String} {ls ms : List Lexeme}

/-- A line after the first one. -/
structure IsLine (s : String) (ls : List Lexeme) : Prop where
  spelled : IsSpelled s ls
  follows : Follows s

/-- A line that starts with a keyword. -/
theorem isLine_of_keyword {w : String} (hw : w ∈ plainKeywords) (hmem : w ∈ followers)
    (ht : IsSpelled t ms) : IsLine (w ++ (" " ++ t)) (.of .word w :: ms) :=
  ⟨.after_keyword hw ht, follows_words (isPlain_of_mem_plainKeywords hw) hmem t⟩

theorem isSpelled_item {i : SelectItem} (hi : i.written.IsNamed) :
    IsSpelled i.text i.written.lexemes := by
  cases i with
  | all key =>
      have hkey : IsName key := hi
      refine ⟨(hasInk_of_isPlain hkey.plain).append _, fun rest _ => ?_⟩
      have hchars : (SelectItem.all key).text.toList ++ rest = key.toList ++ '.' :: '*' :: rest := by
        simp [SelectItem.text]
      rw [hchars]
      exact (spells_name_point hkey _).append
        ((spells_sign (by decide) _).append (spells_sign (by decide) rest))
  | column key name => exact isSpelled_ref (r := .qualified key name) hi

/-- A blank that is written as part of the word before it. -/
theorem word_append (w t : String) : w ++ " " ++ t = w ++ (" " ++ t) := String.append_assoc

theorem isSpelled_items {items : List SelectItem} (hne : items ≠ [])
    (hitems : ∀ i ∈ items, i.written.IsNamed) :
    IsSpelled ("SELECT " ++ String.intercalate ", " (items.map SelectItem.text))
      (.of .word "SELECT" :: separated ((items.map SelectItem.written).map Item.lexemes)) := by
  have hlist := IsSpelled.commaList (fun i hi => isSpelled_item (hitems i hi)) hne
  have htext : "SELECT " ++ String.intercalate ", " (items.map SelectItem.text) =
      "SELECT" ++ (" " ++ String.intercalate ", " (items.map SelectItem.text)) :=
    word_append "SELECT" _
  rw [htext, List.map_map]
  exact .after_keyword (by decide) hlist

theorem isSpelled_source {table : TableRef} (ht : table.written.IsNamed) :
    IsSpelled table.source table.written.lexemes := by
  unfold TableRef.source TableRef.written SourceTable.lexemes
  cases halias : table.aliasName.bind aliasOf with
  | none => exact .name ht.name
  | some aliasName =>
      have hname : IsName aliasName := ht.aliasName aliasName halias
      have htext : table.name ++ " AS " ++ aliasName =
          table.name ++ (" " ++ ("AS" ++ (" " ++ aliasName))) := by
        rw [String.append_assoc]
        rfl
      dsimp only
      rw [htext]
      exact (IsSpelled.name ht.name).spaced (.after_keyword (by decide) (.name hname))
        (follows_words (by decide) (by decide) _)

theorem isSpelled_predicate {j : QueryDesigner.Join} (hleft : j.refs.1.IsNamed)
    (hright : j.refs.2.IsNamed) :
    IsSpelled j.predicate (j.refs.1.lexemes ++ .of .sign "=" :: j.refs.2.lexemes) := by
  have htext : j.predicate = j.refs.1.text ++ (" " ++ ("=" ++ (" " ++ j.refs.2.text))) := by
    rw [Join.predicate, String.append_assoc]
    rfl
  rw [htext]
  exact (isSpelled_ref hleft).spaced (.after_comparison (by decide) (isSpelled_ref hright))
    (follows_comparison (by decide) _)

theorem isLine_join {j : JoinClause} (hj : j.written.IsNamed) : IsLine j.text j.written.lexemes := by
  have hline : ∀ {j : QueryDesigner.Join} {table : String} {written : SourceTable},
      IsSpelled table written.lexemes →
      (TableJoin.mk j.type.written written j.refs.1 j.refs.2).IsNamed →
        IsLine (j.type.text ++ " JOIN " ++ table ++ " ON " ++ j.predicate)
          (TableJoin.mk j.type.written written j.refs.1 j.refs.2).lexemes := by
    intro j table written htable hj
    have htext : j.type.text ++ " JOIN " ++ table ++ " ON " ++ j.predicate =
        j.type.text ++ (" " ++ ("JOIN" ++ (" " ++ (table ++ (" " ++ ("ON" ++ (" " ++
          j.predicate))))))) := by
      rw [String.append_assoc, String.append_assoc, String.append_assoc]
      rfl
    have hword : j.type.text = j.type.written.text := by cases j.type <;> rfl
    rw [htext, hword]
    refine isLine_of_keyword (by cases j.type <;> decide) (by cases j.type <;> decide) ?_
    exact .after_keyword (by decide) (htable.spaced
      (.after_keyword (by decide) (isSpelled_predicate hj.left hj.right))
      (follows_words (by decide) (by decide) _))
  cases j with
  | introduces join table => exact hline (isSpelled_source hj.table) hj
  | refines join key => exact hline (.name hj.table.name) hj

/-- Conditions that are tied by AND. -/
theorem isSpelled_predicates {first : Test} {others : List Test} {c : Condition}
    {cs : List Condition} (hall : ∀ t ∈ first :: others, t.IsWritten)
    (hwrites : List.Forall₂ Test.Writes (first :: others) (c :: cs))
    (hands : ∀ d ∈ cs, d.connector = .and) :
    IsSpelled (String.intercalate " " (predicateWords (c :: cs))) (first.rowOf others) := by
  induction others generalizing first c cs with
  | nil =>
      obtain ⟨hfirst, hnone⟩ := List.forall₂_cons.1 hwrites
      obtain rfl := List.forall₂_nil_left_iff.1 hnone
      have hspelled := isSpelled_condition (hall first List.mem_cons_self).named hfirst.column
        hfirst.operator hfirst.value
      simpa [predicateWords, Test.rowOf] using hspelled
  | cons second others ih =>
      obtain ⟨hfirst, hmore⟩ := List.forall₂_cons.1 hwrites
      obtain ⟨d, ds, -, -, rfl⟩ := List.forall₂_cons_left_iff.1 hmore
      obtain ⟨hnamed, hothers⟩ := List.forall_mem_cons.1 hall
      obtain ⟨hand, hrest⟩ := List.forall_mem_cons.1 hands
      have hspelled := isSpelled_condition hnamed.named hfirst.column hfirst.operator hfirst.value
      have htail := ih hothers hmore hrest
      have htext : String.intercalate " " (predicateWords (c :: d :: ds)) =
          c.text ++ (" " ++ ("AND" ++ (" " ++
            String.intercalate " " (predicateWords (d :: ds))))) := by
        simp only [predicateWords, List.flatMap_cons, hand, List.cons_append, List.nil_append,
          String.intercalate_cons_cons]
        rw [String.append_assoc, String.append_assoc]
        rfl
      have hrow : first.rowOf (second :: others) =
          first.lexemes ++ .of .word "AND" :: second.rowOf others := rfl
      rw [htext, hrow]
      exact hspelled.spaced (.after_keyword (by decide) htail)
        (follows_words (by decide) (by decide) _)

theorem isSpelled_order {e : SortEntry} (he : e.column.IsNamed) :
    IsSpelled e.order.text e.lexemes := by
  have htext : e.order.text = e.column.text ++ (" " ++ SortEntry.word e.isDescending) := by
    rw [← String.append_assoc]
    cases hdirection : e.isDescending <;> simp [SortEntry.order, hdirection, Order.text,
      Direction.text, SortEntry.word]
  have hmem : ∀ isDescending, SortEntry.word isDescending ∈ plainKeywords ∧
      SortEntry.word isDescending ∈ followers := by decide
  rw [htext]
  exact (isSpelled_ref he).spaced (.keyword (hmem _).1) (follows_word (hmem _).1 (hmem _).2)

theorem isSpelled_ofNat (n : Nat) : IsSpelled (toString n) [(Numeral.ofNat n).lexeme] := by
  have htext : (Numeral.ofNat n).text = toString n := rfl
  rw [← htext]
  exact ⟨(Numeral.ofNat n).hasInk_text,
    fun _ hrest => spells_numeral (Numeral.isWhole_ofNat n) hrest.head⟩

end Lines

/-! ## Whole statements -/

/-- Lines after the first one, and the tokens of all of them. -/
inductive AreLines : List String → List Lexeme → Prop where
  | nil : AreLines [] []
  | cons {s : String} {ls ms : List Lexeme} {ss : List String} :
      IsLine s ls → AreLines ss ms → AreLines (s :: ss) (ls ++ ms)

namespace AreLines

variable {s t : String} {ss ts : List String} {ls ms : List Lexeme}

theorem single (h : IsLine s ls) : AreLines [s] ls := by
  have hone := cons h nil
  rwa [List.append_nil] at hone

theorem append (h : AreLines ss ls) (h' : AreLines ts ms) : AreLines (ss ++ ts) (ls ++ ms) := by
  induction h with
  | nil => exact h'
  | cons hline _ ih =>
      rw [List.cons_append, List.append_assoc]
      exact .cons hline ih

theorem map {α : Type} {text : α → String} {lexemes : α → List Lexeme} {xs : List α}
    (h : ∀ x ∈ xs, IsLine (text x) (lexemes x)) : AreLines (xs.map text) (xs.flatMap lexemes) := by
  induction xs with
  | nil => exact nil
  | cons x xs ih =>
      obtain ⟨hx, hxs⟩ := List.forall_mem_cons.1 h
      exact cons hx (ih hxs)

/-- Line breaks are blanks, so each line ends what stands before it. -/
theorem isSpelled (hs : IsSpelled s ls) (h : AreLines ss ms) :
    IsSpelled (String.intercalate "\n" (s :: ss)) (ls ++ ms) := by
  induction h generalizing s ls with
  | nil => simpa using hs
  | @cons t ks ms ss hline hlines ih =>
      have hmore := ih hline.spelled
      have hfollows : Follows (String.intercalate "\n" (t :: ss)) := by
        cases ss with
        | nil => simpa using hline.follows
        | cons u us =>
            intro b hb rest hrest
            have hchars : (String.intercalate "\n" (t :: u :: us)).toList ++ rest =
                t.toList ++ '\n' :: ((String.intercalate "\n" (u :: us)).toList ++ rest) := by
              rw [String.intercalate_cons_cons]
              simp
            rw [hchars]
            exact hline.follows b hb _ (endsNumber_of_blank (by decide))
      rw [String.intercalate_cons_cons, String.append_assoc]
      exact IsSpelled.joined rfl (by decide) hs hmore hfollows

end AreLines

/-- A clause of items with commas between them, after two words. -/
theorem areLines_listClause {α : Type} {text : α → String} {lexemes : α → List Lexeme} {xs : List α}
    {w v : String} (hw : isPlain w = true) (hv : isPlain v = true) (hmem : w ∈ followers)
    (hphrase : Text.upper w ++ " " ++ Text.upper v ∈ phrases)
    (h : ∀ x ∈ xs, IsSpelled (text x) (lexemes x)) :
    AreLines (QueryDesigner.listClause (w ++ (" " ++ v)) ", " (xs.map text))
      (listRow (Text.upper w ++ " " ++ Text.upper v) (xs.map lexemes)) := by
  cases xs with
  | nil => exact .nil
  | cons x xs =>
      have htext : w ++ (" " ++ v) ++ " " ++ String.intercalate ", " ((x :: xs).map text) =
          w ++ (" " ++ (v ++ (" " ++ String.intercalate ", " ((x :: xs).map text)))) := by
        simp only [String.append_assoc]
      have hclause : QueryDesigner.listClause (w ++ (" " ++ v)) ", " ((x :: xs).map text) =
          [w ++ (" " ++ (v ++ (" " ++ String.intercalate ", " ((x :: xs).map text))))] := by
        rw [← htext]
        rfl
      rw [hclause]
      exact .single ⟨.after_phrase hw hv hphrase (.commaList h (List.cons_ne_nil x xs)),
        follows_words hw hmem _⟩

variable {p : PlainSelect} {q : QueryDesigner.Query}

theorem areLines_where (hp : p.IsWritten) (h : p.Writes q) :
    AreLines (QueryDesigner.listClause "WHERE" " " (predicateWords q.predicates))
      (whereRow p.tests) := by
  have htests := h.tests
  have hands := h.ands
  have hall := hp.tests
  generalize q.predicates = cs at htests hands
  generalize p.tests = tests at htests hall
  cases htests with
  | nil => exact .nil
  | @cons first c others cs hfirst hothers =>
      have hspelled := isSpelled_predicates hall (.cons hfirst hothers) hands
      have hline : IsLine ("WHERE" ++ (" " ++ String.intercalate " " (predicateWords (c :: cs))))
          (.of .word "WHERE" :: first.rowOf others) :=
        isLine_of_keyword (by decide) (by decide) hspelled
      exact .single hline

theorem areLines_page (h : p.Writes q) :
    AreLines q.pageText?.toList (p.page.elim [] Page.lexemes) := by
  rw [h.page, QueryDesigner.Query.pageText?]
  cases q.limit with
  | none => exact .nil
  | some limit =>
      cases q.offset with
      | none =>
          have htext : "LIMIT " ++ toString limit ++ "" = "LIMIT" ++ (" " ++ toString limit) := by
            rw [String.append_empty]
            exact word_append "LIMIT" _
          simp only [Option.map_some, Option.map_none, Option.getD_none, htext]
          exact .single (isLine_of_keyword (by decide) (by decide) (isSpelled_ofNat limit))
      | some offset =>
          have htext : "LIMIT " ++ toString limit ++ (" OFFSET " ++ toString offset) =
              "LIMIT" ++ (" " ++ (toString limit ++ (" " ++ ("OFFSET" ++ (" " ++
                toString offset))))) := by
            rw [String.append_assoc]
            rfl
          simp only [Option.map_some, Option.getD_some, htext]
          exact .single (isLine_of_keyword (by decide) (by decide)
            ((isSpelled_ofNat limit).spaced (.after_keyword (by decide) (isSpelled_ofNat offset))
              (follows_words (by decide) (by decide) _)))

/-- The statement of a query is spelled by the tokens of the plain SELECT statement that it is
written as. -/
theorem spells_compile (hp : p.IsWritten) (h : p.Writes q) :
    Spells q.compile.toList (p.lexemes ++ [.of .sign ";"]) [] := by
  obtain ⟨first, hfirst, hsource⟩ := h.source
  have hnamed : first.written.IsNamed := hsource ▸ hp.source
  have hitems : ∀ i ∈ q.selectItems, i.written.IsNamed := by
    have hall := hp.items
    rw [h.items] at hall
    exact fun i hi => hall _ (List.mem_map_of_mem hi)
  have hjoins : ∀ j ∈ q.joinClauses, IsLine j.text j.written.lexemes := by
    have hall := hp.joins
    rw [h.joins] at hall
    exact fun j hj => isLine_join (hall _ (List.mem_map_of_mem hj))
  have hfilled : q.selectItems ≠ [] := fun hnil => hp.filled (by rw [h.items, hnil]; rfl)
  have hselect := isSpelled_items hfilled hitems
  have hfrom : IsLine ("FROM " ++ first.source) (.of .word "FROM" :: p.source.lexemes) := by
    have htext : "FROM " ++ first.source = "FROM" ++ (" " ++ first.source) := word_append "FROM" _
    rw [htext, hsource]
    exact isLine_of_keyword (by decide) (by decide) (isSpelled_source hnamed)
  have hgroups : AreLines (QueryDesigner.listClause "GROUP BY" ", " q.groups)
      (listRow "GROUP BY" (p.groups.map Ref.lexemes)) := by
    rw [← h.groups]
    exact areLines_listClause (w := "GROUP") (v := "BY") (by decide +kernel) (by decide +kernel)
      (by decide) (by decide +kernel) fun r hr => isSpelled_ref (hp.groups r hr)
  have horders : AreLines (QueryDesigner.listClause "ORDER BY" ", " (q.sorts.map Order.text))
      (listRow "ORDER BY" (p.orders.map SortEntry.lexemes)) := by
    rw [← h.orders, List.map_map]
    exact areLines_listClause (w := "ORDER") (v := "BY") (by decide +kernel) (by decide +kernel)
      (by decide) (by decide +kernel) fun e he => isSpelled_order (hp.orders e he)
  have hlines := AreLines.cons hfrom ((AreLines.map hjoins).append
    ((areLines_where hp h).append (hgroups.append (horders.append (areLines_page h)))))
  have hstatement := AreLines.isSpelled hselect hlines
  obtain ⟨rest, htables⟩ : ∃ rest, q.tables = first :: rest := by
    cases htables : q.tables with
    | nil => simp [htables] at hfirst
    | cons t rest =>
        rw [htables] at hfirst
        obtain rfl := Option.some.inj hfirst
        exact ⟨rest, rfl⟩
  have htext : q.compile = String.intercalate "\n" (("SELECT " ++
      String.intercalate ", " (q.selectItems.map SelectItem.text)) :: ("FROM " ++ first.source) ::
        (q.joinClauses.map JoinClause.text ++
          (QueryDesigner.listClause "WHERE" " " (predicateWords q.predicates) ++
            (QueryDesigner.listClause "GROUP BY" ", " q.groups ++
              (QueryDesigner.listClause "ORDER BY" ", " (q.sorts.map Order.text) ++
                q.pageText?.toList))))) ++ ";" := by
    rw [QueryDesigner.Query.compile, htables]
    simp only [QueryDesigner.Query.lines, List.append_assoc, List.cons_append, List.nil_append]
  have hrow : p.lexemes = .of .word "SELECT" :: separated ((q.selectItems.map
      SelectItem.written).map Item.lexemes) ++ (.of .word "FROM" :: p.source.lexemes ++
        (q.joinClauses.flatMap (fun j => j.written.lexemes) ++ (whereRow p.tests ++
          (listRow "GROUP BY" (p.groups.map Ref.lexemes) ++
            (listRow "ORDER BY" (p.orders.map SortEntry.lexemes) ++
              p.page.elim [] Page.lexemes))))) := by
    rw [PlainSelect.lexemes, h.items, h.joins, List.flatMap_map]
    rfl
  rw [htext, String.toList_append, hrow]
  exact (hstatement.spells _ (.of_mark (by decide) [])).append (spells_sign (by decide) [])

end Sql
end QueryDesigner
