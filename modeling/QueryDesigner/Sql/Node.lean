import QueryDesigner.Sql.Syntax

/-!
# The parts of a statement

* `Clause` — the clauses of a query;
* `Node` — the parts of a statement that analyses look for;
* `Statement.nodes` — all of them in the order of the text, with the depth at which they are nested;
* `outermost?` — the first among the least deep parts of a kind.
-/

namespace QueryDesigner
namespace Sql

/-- A clause with the comments of its keyword. -/
inductive Clause where
  | source (source : TableSource) (comments : List String)
  | condition (condition : Expr) (comments : List String)
  | grouping (grouping : Grouping) (comments : List String)
  | order (items : List OrderItem) (comments : List String)
  | limit (limit : Limit)
  | offset (offset : Offset)

/-- A part of a statement that analyses look for. -/
inductive Node where
  | select (select : Select)
  /-- A query or tables between parentheses. -/
  | nested
  | commonTable
  | combination (op : SetOperator)
  | window
  | caseOf
  | parenthesized
  | disjunction
  | clause (clause : Clause)

/-! ## Nodes with their depths -/

mutual

def Expr.nodes (depth : Nat) : Expr → List (Nat × Node)
  | .star changes => exprNodes (depth + 1) changes
  | .column .. => []
  | .columns _ changes => exprNodes (depth + 2) changes
  | .fieldOf _ field => field.nodes (depth + 1)
  | .literal _ => []
  | .null => []
  | .boolean _ => []
  | .marker _ => []
  | .unary _ e => e.nodes (depth + 1)
  | .binary op left right =>
    (if op = .or then [(depth, .disjunction)] else []) ++ left.nodes (depth + 1) ++
      right.nodes (depth + 1)
  | .between _ e low high => e.nodes (depth + 1) ++ low.nodes (depth + 1) ++ high.nodes (depth + 1)
  | .among e items => e.nodes (depth + 1) ++ exprNodes (depth + 1) items
  | .amongRows e q => e.nodes (depth + 1) ++ (depth + 1, .nested) :: q.nodes (depth + 2)
  | .case subject branches otherwise =>
    (depth, .caseOf) :: optionNodes (depth + 1) subject ++ branchNodes (depth + 2) branches ++
      optionNodes (depth + 1) otherwise
  | .choice condition yes no =>
    condition.nodes (depth + 1) ++ yes.nodes (depth + 1) ++ optionNodes (depth + 1) no
  | .cast e _ => e.nodes (depth + 1)
  | .call _ args => exprNodes (depth + 1) args
  | .distinct items => exprNodes (depth + 1) items
  | .form _ parts => exprNodes (depth + 1) parts
  | .interval amount _ => amount.nodes (depth + 1)
  | .inZone moment zone => moment.nodes (depth + 1) ++ zone.nodes (depth + 1)
  | .paren e => (depth, .parenthesized) :: e.nodes (depth + 1)
  | .tuple items => exprNodes (depth + 1) items
  | .existsRow q => q.nodes (depth + 1)
  | .allRows q => q.nodes (depth + 1)
  | .anyRow e => e.nodes (depth + 1)
  | .query q => q.nodes depth
  | .ordered e order => (depth, .clause (.order order [])) :: e.nodes (depth + 1) ++
      itemNodes (depth + 2) order
  | .limited e skip limit =>
    (depth, .clause (.limit limit)) :: e.nodes (depth + 1) ++ optionNodes (depth + 1) skip ++
      limit.nodes (depth + 1)
  | .filtered call condition =>
    call.nodes (depth + 1) ++ (depth + 1, .clause (.condition condition [])) ::
      condition.nodes (depth + 2)
  | .sorted _ order => (depth, .clause (.order order [])) :: itemNodes (depth + 2) order
  | .window call _ parts order frame =>
    (depth, .window) :: call.nodes (depth + 1) ++ exprNodes (depth + 1) parts ++
      orderNodes (depth + 1) [] order ++ optionNodes (depth + 2) frame
  | .namedWindow call _ => (depth, .window) :: call.nodes (depth + 1)
  | .member owner call => owner.nodes (depth + 1) ++ call.nodes (depth + 1)
  | .aliased e _ => e.nodes (depth + 1)
  | .commented _ _ e => e.nodes depth

def exprNodes (depth : Nat) : List Expr → List (Nat × Node)
  | [] => []
  | e :: rest => e.nodes depth ++ exprNodes depth rest

def optionNodes (depth : Nat) : Option Expr → List (Nat × Node)
  | none => []
  | some e => e.nodes depth

def branchNodes (depth : Nat) : List (Expr × Expr) → List (Nat × Node)
  | [] => []
  | (condition, value) :: rest =>
    condition.nodes depth ++ value.nodes depth ++ branchNodes depth rest

def OrderItem.nodes (depth : Nat) : OrderItem → List (Nat × Node)
  | ⟨e, _, _⟩ => e.nodes depth

def itemNodes (depth : Nat) : List OrderItem → List (Nat × Node)
  | [] => []
  | item :: rest => item.nodes depth ++ itemNodes depth rest

/-- An ORDER BY clause and what is in it, unless it is left out. -/
def orderNodes (depth : Nat) (comments : List String) : List OrderItem → List (Nat × Node)
  | [] => []
  | item :: rest =>
    (depth, .clause (.order (item :: rest) comments)) :: item.nodes (depth + 2) ++
      itemNodes (depth + 2) rest

def Limit.nodes (depth : Nat) : Limit → List (Nat × Node)
  | ⟨count, _, _, groups⟩ => optionNodes depth count ++ exprNodes depth groups

/-- A LIMIT clause and what is in it.  FETCH is another clause. -/
def limitNodes (depth : Nat) : Option Limit → List (Nat × Node)
  | none => []
  | some ⟨count, options, none, groups⟩ =>
    (depth, .clause (.limit ⟨count, options, none, groups⟩)) :: optionNodes (depth + 1) count ++
      exprNodes (depth + 1) groups
  | some ⟨count, _, some _, groups⟩ =>
    optionNodes (depth + 1) count ++ exprNodes (depth + 1) groups

def offsetNodes (depth : Nat) : Option Offset → List (Nat × Node)
  | none => []
  | some ⟨count, groups⟩ =>
    (depth, .clause (.offset ⟨count, groups⟩)) :: count.nodes (depth + 1) ++
      exprNodes (depth + 1) groups

def TableSource.nodes (depth : Nat) : TableSource → List (Nat × Node)
  | .table _ function _ partition _ hints sample joins =>
    optionNodes (depth + 1) function ++ exprNodes (depth + 2) partition ++
      exprNodes (depth + 1) hints ++ optionNodes (depth + 1) sample ++ joinNodes (depth + 1) joins
  | .query q => q.nodes depth
  | .unnested arrays _ _ => exprNodes (depth + 1) arrays
  | .lateral _ source => source.nodes (depth + 1)

def sourceNodes (depth : Nat) : Option TableSource → List (Nat × Node)
  | none => []
  | some t => t.nodes depth

def Join.nodes (depth : Nat) : Join → List (Nat × Node)
  | ⟨_, source, on, _, _⟩ => source.nodes depth ++ optionNodes depth on

def joinNodes (depth : Nat) : List Join → List (Nat × Node)
  | [] => []
  | j :: rest => j.nodes (depth + 1) ++ joinNodes depth rest

def Grouping.nodes (depth : Nat) : Grouping → List (Nat × Node)
  | ⟨_, items, sets, _⟩ => exprNodes depth items ++ exprNodes depth sets

def groupingNodes (depth : Nat) (comments : List String) : Option Grouping → List (Nat × Node)
  | none => []
  | some g => (depth, .clause (.grouping g comments)) :: g.nodes (depth + 1)

def conditionNodes (depth : Nat) (comments : List String) : Option Expr → List (Nat × Node)
  | none => []
  | some e => (depth, .clause (.condition e comments)) :: e.nodes (depth + 1)

def Tail.nodes (depth : Nat) : Tail → List (Nat × Node)
  | ⟨joins, views, condition, connection, grouping, having, sorts, windows, qualify, order, limit, offset,
      locks, sample, comments⟩ =>
    joinNodes depth joins ++ exprNodes depth views ++
      conditionNodes depth comments.condition condition ++ optionNodes depth connection ++
      groupingNodes depth comments.grouping grouping ++ optionNodes (depth + 1) having ++
      exprNodes depth sorts ++ exprNodes depth windows ++ optionNodes (depth + 1) qualify ++
      orderNodes depth comments.order order ++ limitNodes depth limit ++
      offsetNodes depth offset ++ exprNodes depth locks ++ optionNodes depth sample

def Select.nodes (depth : Nat) : Select → List (Nat × Node)
  | ⟨comments, hints, isDistinct, distinctOn, modifiers, items, source, tail⟩ =>
    (depth, .select ⟨comments, hints, isDistinct, distinctOn, modifiers, items, source, tail⟩) ::
      exprNodes (depth + 2) hints ++ exprNodes (depth + 2) distinctOn ++
      exprNodes (depth + 1) items ++
      (match source with
        | none => []
        | some t =>
          (depth + 1, .clause (.source t (sourceComments tail))) :: t.nodes (depth + 2)) ++
      tail.nodes (depth + 1)
where
  sourceComments (tail : Tail) : List String := tail.comments.source

def Cte.nodes (depth : Nat) : Cte → List (Nat × Node)
  | ⟨_, q⟩ => (depth, .commonTable) :: q.nodes (depth + 1)

def cteNodes (depth : Nat) : List Cte → List (Nat × Node)
  | [] => []
  | c :: rest => c.nodes depth ++ cteNodes depth rest

def Query.nodes (depth : Nat) : Query → List (Nat × Node)
  | .select s => s.nodes depth
  | .set op _ left right tail =>
    (depth, .combination op) :: left.nodes (depth + 1) ++ right.nodes (depth + 1) ++
      tail.nodes (depth + 1)
  | .wrapped q _ tail => (depth, .nested) :: q.nodes (depth + 1) ++ tail.nodes (depth + 1)
  | .tables source _ tail => (depth, .nested) :: source.nodes (depth + 1) ++ tail.nodes (depth + 1)
  | .values rows _ => exprNodes (depth + 1) rows
  | .withTables _ tables q => q.nodes depth ++ cteNodes (depth + 2) tables
  | .into target _ q => q.nodes depth ++ target.nodes (depth + 2)

end

/-- The parts of a statement. -/
def Statement.nodes (depth : Nat) : Statement → List (Nat × Node)
  | .query q => q.nodes depth
  | .expression e => e.nodes depth
  | .update source assignments tail =>
    source.nodes (depth + 1) ++ exprNodes (depth + 1) assignments ++ tail.nodes (depth + 1)
  | .delete targets source others tail =>
    targets.flatMap (fun t => t.nodes (depth + 1)) ++ sourceNodes (depth + 1) source ++
      others.flatMap (fun t => t.nodes (depth + 1)) ++ tail.nodes (depth + 1)
  | .insert hints _ target columns rows changes =>
    exprNodes (depth + 2) hints ++ target.nodes (depth + 1) ++ exprNodes (depth + 2) columns ++
      (rows.map fun q => q.nodes (depth + 1)).getD [] ++ exprNodes (depth + 2) changes
  | .describe q => q.nodes (depth + 1)
  | .create _ q => q.nodes (depth + 1)
  | .command _ => []

/-- The parts of several statements.  Those of a single one are not nested in anything. -/
def scriptNodes (script : List Statement) : List (Nat × Node) :=
  match script with
  | [statement] => statement.nodes 0
  | script => script.flatMap fun statement => statement.nodes 1

/-! ## Search -/

/-- The first among the least deep parts of a kind. -/
def outermost? (kind? : Node → Option α) (nodes : List (Nat × Node)) : Option α :=
  let found := nodes.filterMap fun (depth, node) => (kind? node).map fun a => (depth, a)
  match found.map Prod.fst |>.min? with
  | none => none
  | some least => (found.find? fun p => p.1 == least).map Prod.snd

def Node.select? : Node → Option Select
  | .select s => some s
  | _ => none

/-- The SELECT statement that a statement is read as. -/
def mainSelect? (nodes : List (Nat × Node)) : Option Select := outermost? Node.select? nodes

end Sql
end QueryDesigner
