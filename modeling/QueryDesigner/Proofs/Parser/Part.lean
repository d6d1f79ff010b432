import Mathlib
import QueryDesigner.Decompile.Statement
import QueryDesigner.Proofs.Parser.Select

/-!
# The parts of plain SELECT statements

* `IsFlat` — expressions in which no analysis finds anything;
* `PlainSelect.nodes_eq` — a plain SELECT statement is one SELECT statement and its clauses;
* `PlainSelect.mainSelect?_nodes`, `PlainSelect.featuresOf_nodes` — it is read as itself, and a query
  can hold all of it.
-/

namespace QueryDesigner
namespace Sql

/-! ## Expressions without parts -/

/-- No analysis finds anything in an expression. -/
def IsFlat (e : Expr) : Prop := ∀ depth, e.nodes depth = []

theorem exprNodes_of_flat {es : List Expr} (h : ∀ e ∈ es, IsFlat e) (depth : Nat) :
    exprNodes depth es = [] := by
  induction es with
  | nil => rfl
  | cons e es ih =>
      obtain ⟨he, hes⟩ := List.forall_mem_cons.1 h
      have hcons : exprNodes depth (e :: es) = e.nodes depth ++ exprNodes depth es := rfl
      rw [hcons, he, ih hes]
      rfl

theorem Ref.isFlat (r : Ref) : IsFlat r.expr := by
  intro depth
  cases r with
  | bare column => rfl
  | qualified key column => rfl

theorem Item.isFlat (i : Item) : IsFlat i.expr := by
  intro depth
  cases i with
  | all key => rfl
  | column key name => rfl

theorem Constant.isFlat (k : Constant) : IsFlat k.expr := by
  intro depth
  cases k with
  | text value => rfl
  | number isNegative digits =>
      cases isNegative with
      | false => rfl
      | true => rfl

theorem isFlat_binary {op : BinaryOp} {left right : Expr} (hop : op ≠ .or) (hleft : IsFlat left)
    (hright : IsFlat right) : IsFlat (.binary op left right) := by
  intro depth
  have hnodes : (Expr.binary op left right).nodes depth =
      (if op = .or then [(depth, .disjunction)] else []) ++ left.nodes (depth + 1) ++
        right.nodes (depth + 1) := rfl
  rw [hnodes, if_neg hop, hleft, hright]
  rfl

theorem isFlat_negatedIf {e : Expr} (he : IsFlat e) (isNegated : Bool) :
    IsFlat (negatedIf isNegated e) := by
  cases isNegated with
  | false => exact he
  | true => exact fun depth => he (depth + 1)

theorem Test.isFlat (t : Test) : IsFlat t.expr := by
  obtain ⟨left, check⟩ := t
  have hleft : IsFlat left.expr := left.isFlat
  cases check with
  | compare comparison k => exact isFlat_binary (by cases comparison <;> decide) hleft k.isFlat
  | like isNegated k => exact isFlat_negatedIf (isFlat_binary (by decide) hleft k.isFlat) _
  | among isNegated items =>
      refine isFlat_negatedIf (fun depth => ?_) _
      have hitems : ∀ e ∈ items.map Constant.expr, IsFlat e :=
        List.forall_mem_map.2 fun k _ => k.isFlat
      have hnodes : (Expr.among left.expr (items.map Constant.expr)).nodes depth =
          left.expr.nodes (depth + 1) ++ exprNodes (depth + 1) (items.map Constant.expr) := rfl
      rw [hnodes, hleft, exprNodes_of_flat hitems]
      rfl
  | between isNegated low high =>
      refine isFlat_negatedIf (fun depth => ?_) _
      have hnodes : (Expr.between false left.expr low.expr high.expr).nodes depth =
          left.expr.nodes (depth + 1) ++ low.expr.nodes (depth + 1) ++
            high.expr.nodes (depth + 1) := rfl
      rw [hnodes, hleft, low.isFlat, high.isFlat]
      rfl
  | isNull isNegated =>
      have hnull : IsFlat .null := fun _ => rfl
      exact isFlat_negatedIf (isFlat_binary (by decide) hleft hnull) _

theorem isFlat_folded {e : Expr} (he : IsFlat e) {es : List Expr} (hes : ∀ e ∈ es, IsFlat e) :
    IsFlat (folded e (es.map fun right => (.binary .and, right))) := by
  induction es generalizing e with
  | nil => exact he
  | cons right es ih =>
      obtain ⟨hright, hes⟩ := List.forall_mem_cons.1 hes
      exact ih (isFlat_binary (by decide) he hright) hes

theorem isFlat_conjunction (first : Test) (others : List Test) :
    IsFlat (first.conjunction others) := by
  have hothers : ∀ e ∈ others.map Test.expr, IsFlat e := List.forall_mem_map.2 fun t _ => t.isFlat
  have hflat := isFlat_folded first.isFlat hothers
  rwa [List.map_map] at hflat

theorem TableJoin.isFlat_on (j : TableJoin) : IsFlat j.on :=
  isFlat_binary (by decide) j.left.isFlat j.right.isFlat

/-! ## Statements -/

/-- The parts are clauses. -/
def AreClauses (nodes : List (Nat × Node)) : Prop :=
  ∀ node ∈ nodes, ∃ depth clause, node = (depth, .clause clause)

theorem areClauses_nil : AreClauses [] := fun _ h => by cases h

theorem AreClauses.append {nodes others : List (Nat × Node)} (h : AreClauses nodes)
    (hothers : AreClauses others) : AreClauses (nodes ++ others) :=
  List.forall_mem_append.2 ⟨h, hothers⟩

theorem areClauses_cons (depth : Nat) (clause : Clause) {nodes : List (Nat × Node)}
    (h : AreClauses nodes) : AreClauses ((depth, .clause clause) :: nodes) :=
  List.forall_mem_cons.2 ⟨⟨depth, clause, rfl⟩, h⟩

theorem joinNodes_eq_nil (joins : List TableJoin) (depth : Nat) :
    joinNodes depth (joins.map TableJoin.join) = [] := by
  induction joins with
  | nil => rfl
  | cons j joins ih =>
      have hcons : joinNodes depth ((j :: joins).map TableJoin.join) =
          j.on.nodes (depth + 1) ++ joinNodes depth (joins.map TableJoin.join) := rfl
      rw [hcons, j.isFlat_on, ih]
      rfl

theorem itemNodes_eq_nil (orders : List SortEntry) (depth : Nat) :
    itemNodes depth (orders.map SortEntry.item) = [] := by
  induction orders with
  | nil => rfl
  | cons s orders ih =>
      have hcons : itemNodes depth ((s :: orders).map SortEntry.item) =
          s.column.expr.nodes depth ++ itemNodes depth (orders.map SortEntry.item) := rfl
      rw [hcons, s.column.isFlat, ih]
      rfl

/-- A join on an equality of columns is one that a query can hold. -/
theorem TableJoin.features_join (j : TableJoin) : j.join.features = [] := by
  have hcolumn : ∀ r : Ref, r.expr.isColumn = true := fun r => by cases r <;> rfl
  have hequality : j.on.isColumnEquality = true := by
    simp only [TableJoin.on, Expr.isColumnEquality, Expr.bare, hcolumn, Bool.and_self]
  have hwords : ∀ word : JoinWord, word.words.side ≠ some .full := by
    intro word
    cases word <;> decide
  have hside : j.join.words.side ≠ some .full := hwords j.word
  have hon : j.join.on = some j.on := rfl
  simp only [Sql.Join.features, hon, hequality, if_true, if_neg hside, List.append_nil]

namespace PlainSelect

variable (p : PlainSelect)

theorem areClauses_condition (depth : Nat) (comments : List String) :
    AreClauses (conditionNodes depth comments (conditionOf p.tests)) := by
  cases p.tests with
  | nil => exact areClauses_nil
  | cons first others =>
      have hnodes : conditionNodes depth comments (conditionOf (first :: others)) =
          (depth, .clause (.condition (first.conjunction others) comments)) ::
            (first.conjunction others).nodes (depth + 1) := rfl
      rw [hnodes, isFlat_conjunction]
      exact areClauses_cons _ _ areClauses_nil

theorem areClauses_grouping (depth : Nat) (comments : List String) :
    AreClauses (groupingNodes depth comments (groupingOf p.groups)) := by
  cases p.groups with
  | nil => exact areClauses_nil
  | cons r groups =>
      have hitems : ∀ e ∈ (r :: groups).map Ref.expr, IsFlat e :=
        List.forall_mem_map.2 fun r _ => r.isFlat
      have hnodes : groupingNodes depth comments (groupingOf (r :: groups)) =
          (depth, .clause (.grouping ⟨"", (r :: groups).map Ref.expr, [], false⟩ comments)) ::
            (exprNodes (depth + 1) ((r :: groups).map Ref.expr) ++ []) := rfl
      rw [hnodes, exprNodes_of_flat hitems]
      exact areClauses_cons _ _ areClauses_nil

theorem areClauses_order (depth : Nat) (comments : List String) :
    AreClauses (orderNodes depth comments (p.orders.map SortEntry.item)) := by
  cases p.orders with
  | nil => exact areClauses_nil
  | cons s orders =>
      have hnodes : orderNodes depth comments ((s :: orders).map SortEntry.item) =
          (depth, .clause (.order ((s :: orders).map SortEntry.item) comments)) ::
            (s.column.expr.nodes (depth + 2) ++
              itemNodes (depth + 2) (orders.map SortEntry.item)) := rfl
      rw [hnodes, s.column.isFlat, itemNodes_eq_nil]
      exact areClauses_cons _ _ areClauses_nil

theorem areClauses_page (depth : Nat) (page : Page) (tail : Tail) :
    AreClauses (limitNodes depth (page.addTo tail).limit) ∧
      AreClauses (offsetNodes depth (page.addTo tail).offset) := by
  obtain ⟨limit, offset⟩ := page
  constructor
  · exact areClauses_cons _ _ areClauses_nil
  · cases offset with
    | none => exact areClauses_nil
    | some n => exact areClauses_cons _ _ areClauses_nil

/-- What follows the FROM clause has no parts but clauses. -/
theorem areClauses_tail (depth : Nat) : AreClauses (p.tail.nodes depth) := by
  have hpage : AreClauses (limitNodes depth p.tail.limit) ∧
      AreClauses (offsetNodes depth p.tail.offset) := by
    cases hp : p.page with
    | none =>
        simp only [PlainSelect.tail, hp, Option.elim_none, Tail.empty]
        exact ⟨areClauses_nil, areClauses_nil⟩
    | some page =>
        simp only [PlainSelect.tail, hp, Option.elim_some]
        exact areClauses_page depth page _
  have htail : p.tail.nodes depth =
      joinNodes depth (p.joins.map TableJoin.join) ++ [] ++
        conditionNodes depth [] (conditionOf p.tests) ++ [] ++
          groupingNodes depth [] (groupingOf p.groups) ++ [] ++ [] ++ [] ++ [] ++
            orderNodes depth [] (p.orders.map SortEntry.item) ++ limitNodes depth p.tail.limit ++
              offsetNodes depth p.tail.offset ++ [] ++ [] := by
    unfold PlainSelect.tail
    cases p.page <;> rfl
  rw [htail, joinNodes_eq_nil]
  simp only [List.append_nil, List.nil_append]
  exact ((((p.areClauses_condition _ _).append (p.areClauses_grouping _ _)).append
    (p.areClauses_order _ _)).append hpage.1).append hpage.2

/-- A plain SELECT statement is one SELECT statement and its clauses. -/
theorem nodes_eq : ∃ clauses, (Statement.query (.select p.select)).nodes 0 =
    (0, .select p.select) :: clauses ∧ AreClauses clauses := by
  have hitems : ∀ e ∈ p.items.map Item.expr, IsFlat e := List.forall_mem_map.2 fun i _ => i.isFlat
  refine ⟨(1, .clause (.source p.source.source p.tail.comments.source)) :: p.tail.nodes 1, ?_,
    areClauses_cons _ _ (p.areClauses_tail 1)⟩
  have hnodes : (Statement.query (.select p.select)).nodes 0 =
      (0, .select p.select) :: (exprNodes 1 (p.items.map Item.expr) ++
        [(1, .clause (.source p.source.source p.tail.comments.source))] ++ p.tail.nodes 1) := rfl
  rw [hnodes, exprNodes_of_flat hitems]
  rfl

theorem mainSelect?_nodes :
    mainSelect? ((Statement.query (.select p.select)).nodes 0) = some p.select := by
  obtain ⟨clauses, hnodes, hclauses⟩ := p.nodes_eq
  have hnone : clauses.filterMap (fun part =>
      (Node.select? part.2).map fun s => (part.1, s)) = [] := by
    rw [List.filterMap_eq_nil_iff]
    intro node hnode
    obtain ⟨depth, clause, rfl⟩ := hclauses node hnode
    rfl
  have hfound : ((0, Node.select p.select) :: clauses).filterMap (fun part =>
      (Node.select? part.2).map fun s => (part.1, s)) = [(0, p.select)] := by
    rw [← List.singleton_append, List.filterMap_append, hnone]
    rfl
  rw [hnodes, mainSelect?, outermost?, hfound]
  rfl

/-- A query can hold all of a plain SELECT statement. -/
theorem featuresOf_nodes : featuresOf ((Statement.query (.select p.select)).nodes 0) = [] := by
  have htests : ((conditionOf p.tests).map conditionFeatures).getD [] = [] := by
    cases p.tests with
    | nil => rfl
    | cons first others =>
        rw [conditionOf, Option.map_some, Option.getD_some, conditionFeatures, isFlat_conjunction]
        rfl
  have hfeatures : p.select.features = [] := by
    rw [Select.features, PlainSelect.select, p.joins_tail, p.condition_tail, htests, p.having_tail,
      List.flatMap_map]
    simp only [Option.isSome_none, Bool.false_eq_true, if_false, List.nil_append]
    rw [List.flatMap_eq_nil_iff]
    exact fun j _ => j.features_join
  have hraw : rawFeatures ((Statement.query (.select p.select)).nodes 0) = [] := by
    obtain ⟨clauses, hnodes, hclauses⟩ := p.nodes_eq
    have hnone : ∀ node ∈ (Statement.query (.select p.select)).nodes 0,
        Node.feature? node.2 = none := by
      rw [hnodes]
      refine List.forall_mem_cons.2 ⟨rfl, fun node hnode => ?_⟩
      obtain ⟨depth, clause, rfl⟩ := hclauses node hnode
      rfl
    rw [rawFeatures, p.mainSelect?_nodes]
    simp only [hfeatures, List.append_nil]
    exact List.filterMap_eq_nil_iff.2 hnone
  rw [featuresOf, hraw]
  rfl

end PlainSelect

end Sql
end QueryDesigner
