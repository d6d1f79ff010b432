import Mathlib
import QueryDesigner.Proofs.Parser.Test

/-!
# Reading tables and joins

* `SourceTable`, `TableJoin` — a table and a join on an equality of columns, as they stand in a
  statement;
* `sourceItem_finds_table` — a table is read as what it is;
* `joinList_finds` — and so are joins, one after the other.
-/

namespace QueryDesigner
namespace Sql

open QueryDesigner.Sql.Parser

variable {g : Grammar} {ts us vs rest : List Token} {w : String} {a b c d : Nat}

/-! ## Tables -/

/-- A table as it stands in a statement. -/
structure SourceTable where
  name : String
  aliasName : Option String := none
  deriving DecidableEq, Repr

namespace SourceTable

/-- The tokens of a table. -/
def lexemes (t : SourceTable) : List Lexeme :=
  .of .word t.name :: t.aliasName.elim [] fun s => [.of .word "AS", .of .word s]

def source (t : SourceTable) : TableSource :=
  .table [⟨t.name, false⟩] none [] [] (t.aliasName.map fun s => ⟨some ⟨s, false⟩, [], []⟩) [] none []

/-- Its words are names. -/
structure IsNamed (t : SourceTable) : Prop where
  name : IsName t.name
  aliasName : ∀ s ∈ t.aliasName, IsName s

end SourceTable

/-- The tokens that end a table. -/
def tableClosers : List Lexeme :=
  ["INNER", "LEFT", "RIGHT", "ON", "WHERE", "LIMIT"].map (fun w => .of .word w) ++
    ["GROUP BY", "ORDER BY"].map fun w => .of .phrase w

/-- The words that may stand after a table and belong to it. -/
def tableMarks : List String :=
  ["(", ".", "*", "PARTITION", "PIVOT", "UNPIVOT", "WITH", "USE", "FORCE", "IGNORE", "TABLESAMPLE"]

theorem tableName?_finds (hw : IsName w) (hends : next ts ∉ tableMarks) :
    Finds (g.tableName? true) (⟨.of .word w, a, b, []⟩ :: ts) ⟨[⟨w, false⟩], none, []⟩ ts := by
  have hpart : Finds (g.tablePart? true) (⟨.of .word w, a, b, []⟩ :: ts)
      (.name ⟨w, false⟩ []) ts := by
    have hname : Finds (takeIf? fun t => isNameToken [] t || t.kind == .text)
        (⟨.of .word w, a, b, []⟩ :: ts) ⟨.of .word w, a, b, []⟩ ts :=
      takeIf?_finds (by rw [isNameToken_of_isName hw, Bool.true_or]) ts
    rw [Finds, Grammar.tablePart?, if_pos rfl,
      run_bind_of (call?_misses (ne_of_notMem hends (by decide)))]
    simp only
    rw [run_bind_of hname]
    rfl
  have hnext : Misses (g.nextPart? true) ts := by
    rw [Misses, Grammar.nextPart?, run_bind_of (accepts_false (ne_of_notMem hends (by decide)))]
    rfl
  rw [Finds, Grammar.tableName?, run_bind_of hpart]
  simp only
  rw [run_bind_of (repeated_misses hnext)]
  rfl

theorem pivots_done (hends : next ts ∉ tableMarks) : g.pivots ts = some ((), ts) := by
  have hpivot : Misses g.pivot? ts := by
    rw [Misses, Grammar.pivot?, run_bind_of (acceptAll_false (ne_of_notMem hends (by decide)))]
    simp only [Bool.false_eq_true, if_false]
    rw [run_bind_of (acceptAll_false (ne_of_notMem hends (by decide))),
      run_bind_of (acceptAll_false (ne_of_notMem hends (by decide)))]
    simp only [Bool.false_eq_true, if_false]
    rw [run_bind_of (acceptAll_false (ne_of_notMem hends (by decide)))]
    rfl
  rw [Grammar.pivots, run_bind_of (repeated_misses hpivot)]
  rfl

theorem tableHints_none (hends : next ts ∉ tableMarks) : g.tableHints ts = some ([], ts) := by
  have hhint : Misses Grammar.indexHint? ts := by
    rw [Misses, Grammar.indexHint?,
      run_bind_of (acceptOne?_misses (notMem_of_subset hends (by decide)))]
    rfl
  rw [Grammar.tableHints, run_bind_of (acceptAll_false (ne_of_notMem hends (by decide)))]
  exact repeated_misses hhint

theorem sample?_misses (hends : next ts ∉ tableMarks) : Misses g.sample? ts := by
  rw [Misses, Grammar.sample?, run_bind_of (accepts_false (ne_of_notMem hends (by decide)))]
  rfl

theorem columnNames?_misses (hends : next ts ∉ tableMarks) : Misses Grammar.columnNames? ts := by
  have hparen : (ts.head?.any fun t => t.is "(") = false := by
    cases ts with
    | nil => rfl
    | cons t ts => exact beq_false_of_ne (ne_of_notMem hends (by decide))
  refine attempt_of_some ?_
  rw [run_bind_of (run_get ts)]
  simp only [hparen, Bool.false_eq_true, if_false]
  rfl

/-- The alias of a table after `AS`. -/
theorem tableAlias?_finds (hw : IsName w) (hends : next ts ∉ tableMarks) :
    Finds (g.tableAlias? []) (⟨.of .word "AS", a, b, []⟩ :: ⟨.of .word w, c, d, []⟩ :: ts)
      ⟨some ⟨w, false⟩, [], []⟩ ts := by
  have hpaging := atPaging_false (g := g)
    (next_cons_notMem (show Lexeme.keyword (.of .word "AS") ∉ ["LIMIT", "OFFSET"] by decide) a b
      (⟨.of .word w, c, d, []⟩ :: ts))
  have has := accepts_true "AS" (l := .of .word "AS") (by decide) a b
    (⟨.of .word w, c, d, []⟩ :: ts)
  have hname : Finds (nameAfter? (afterTableWords ++ []) true) (⟨.of .word w, c, d, []⟩ :: ts)
      ⟨.of .word w, c, d, []⟩ ts := takeIf?_finds (isLooseName_of_isName hw c d) ts
  rw [Finds, Grammar.tableAlias?, run_bind_of hpaging]
  simp only [Bool.false_eq_true, if_false]
  rw [run_bind_of has, run_bind_of hname, run_bind_of (columnNames?_misses hends)]
  rfl

theorem tableAlias?_misses (hends : Opens tableClosers ts) : Misses (g.tableAlias? []) ts := by
  have hname : Misses (nameAfter? (afterTableWords ++ []) false) ts := by
    refine nameAfter?_misses fun t ht => ?_
    have hall : ∀ l ∈ tableClosers, ∀ start stop comments,
        isNameToken (afterTableWords ++ []) ⟨l, start, stop, comments⟩ = false ∧ l.kind ≠ .text := by
      simp only [tableClosers, List.map_cons, List.map_nil, List.cons_append, List.nil_append,
        List.forall_mem_cons, List.not_mem_nil, false_implies, implies_true, and_true]
      refine ⟨?_, ?_, ?_, ?_, ?_, ?_, ?_, ?_⟩ <;> intro start stop comments <;>
        exact ⟨by simp only [isNameToken, Token.keyword_mk]; decide, by decide⟩
    exact hall _ (hends t ht) t.start t.stop t.comments
  obtain ⟨atPaging, hpaging⟩ : ∃ atPaging, g.atPaging ts = some (atPaging, ts) := by
    obtain ⟨atLimit, hlimit⟩ := exists_wouldFind g.limit? ts
    rw [Grammar.atPaging, run_bind_of hlimit]
    cases atLimit with
    | true => exact ⟨true, rfl⟩
    | false => exact exists_wouldFind g.offset? ts
  rw [Misses, Grammar.tableAlias?, run_bind_of hpaging]
  cases atPaging with
  | true => rfl
  | false =>
      simp only [Bool.false_eq_true, if_false]
      rw [run_bind_of (accepts_false (hends.next_ne (by decide) (by decide))), run_bind_of hname,
        run_bind_of (columnNames?_misses (hends.next_notMem (by decide) (by decide)))]
      rfl

theorem namedTable_finds {t : SourceTable} (ht : t.IsNamed) (hrow : Row us t.lexemes)
    (hends : Opens tableClosers ts) : Finds (g.namedTable []) (us ++ ts) t.source ts := by
  obtain ⟨name, aliasName⟩ := t
  have hdone : next ts ∉ tableMarks := hends.next_notMem (by decide +kernel) (by decide)
  cases hrow with
  | @cons us _ _ a b hrow =>
      have hafter : ∃ alias?,
          alias? = aliasName.map (fun s => (⟨some ⟨s, false⟩, [], []⟩ : TableAlias)) ∧
          g.tableAlias? [] (us ++ ts) = some (alias?, ts) ∧ next (us ++ ts) ∉ tableMarks := by
        cases aliasName with
        | none =>
            cases hrow
            exact ⟨none, rfl, tableAlias?_misses hends, hdone⟩
        | some s =>
            cases hrow with
            | cons _ c d hrow =>
                cases hrow with
                | cons _ e f hrow =>
                    cases hrow
                    exact ⟨_, rfl, tableAlias?_finds (ht.aliasName s rfl) hdone,
                      next_cons_notMem (by decide) c d _⟩
      obtain ⟨alias?, halias, hfinds, hmarks⟩ := hafter
      have hpartitions : g.partitions (us ++ ts) = some ([], us ++ ts) := by
        rw [Grammar.partitions, run_bind_of (accepts_false (ne_of_notMem hmarks (by decide)))]
        rfl
      rw [List.cons_append, Finds, Grammar.namedTable, run_bind_of (tableName?_finds ht.name hmarks)]
      simp only
      rw [run_bind_of (pivots_done hmarks),
        run_bind_of (accept?_misses (ne_of_notMem hmarks (by decide))), run_bind_of hpartitions,
        run_bind_of hfinds, run_bind_of (tableHints_none hdone), run_bind_of (pivots_done hdone),
        run_bind_of (sample?_misses hdone), halias]
      rfl

/-- The words with which other sources start. -/
def sourceOpeners : List String := queryOpeners ++ ["CROSS", "OUTER", "LATERAL", "("]

theorem lateralKind?_misses (h : next ts ∉ sourceOpeners) : Misses Grammar.lateralKind? ts := by
  rw [Misses, Grammar.lateralKind?,
    run_bind_of (acceptAll_false (ne_of_notMem h (by decide)))]
  simp only [Bool.false_eq_true, if_false]
  rw [run_bind_of (acceptAll_false (ne_of_notMem h (by decide)))]
  simp only [Bool.false_eq_true, if_false]
  rw [run_bind_of (accepts_false (ne_of_notMem h (by decide)))]
  rfl

theorem unnested?_misses (h : next ts.tail ≠ "(") : Misses g.unnested? ts := by
  have hitems : Misses g.itemsOfArrays? ts := by
    rw [Misses, Grammar.itemsOfArrays?, run_bind_of (acceptAll_false_second h)]
    rfl
  rw [Misses, Grammar.unnested?, run_bind_of hitems]
  rfl

theorem wrappedQuery?_misses (h : next ts ≠ "(") : Misses g.wrappedQuery? ts := by
  have hvalues : Misses g.wrappedValues? ts := by
    rw [Misses, Grammar.wrappedValues?, run_bind_of (acceptAll_false h)]
    rfl
  rw [Misses, Grammar.wrappedQuery?, run_bind_of hvalues]
  simp only
  rw [run_bind_of (accepts_false h)]
  rfl

/-- A table in a statement is read as such. -/
theorem sourceItem_finds_table {t : SourceTable} (ht : t.IsNamed) (hrow : Row us t.lexemes)
    (hends : Opens tableClosers ts) : Finds g.above.sourceItem (us ++ ts) t.source ts := by
  have hnext : next (us ++ ts) ∉ sourceOpeners ∧ next (us ++ ts).tail ≠ "(" := by
    obtain ⟨name, aliasName⟩ := t
    cases hrow with
    | @cons us _ _ a b hrow =>
        refine ⟨next_cons_notMem (ht.name.upper_notMem (by decide +kernel)) a b _, ?_⟩
        rw [List.cons_append, List.tail_cons]
        cases aliasName with
        | none =>
            cases hrow
            exact hends.next_ne (by decide) (by decide)
        | some s =>
            cases hrow with
            | cons _ c d hrow =>
                rw [List.cons_append, next_cons]
                decide
  obtain ⟨hopeners, hparen⟩ := hnext
  have hlateral : Misses g.above.lateral? (us ++ ts) := by
    rw [Misses, Grammar.lateral?, run_bind_of (lateralKind?_misses hopeners)]
    rfl
  have hquery : Misses g.above.query (us ++ ts) :=
    queryItem_misses (notMem_of_subset hopeners (by decide))
  have hwrapped : Misses g.above.wrappedQuery? (us ++ ts) :=
    wrappedQuery?_misses (ne_of_notMem hopeners (by decide))
  rw [Finds, Grammar.sourceItem,
    run_bind_of ((orElse?_misses hlateral _).trans (unnested?_misses hparen))]
  simp only
  rw [run_bind_of (accepts_false (ne_of_notMem hopeners (by decide)))]
  simp only [Bool.false_eq_true, if_false]
  rw [run_bind_of ((orElse?_misses hwrapped _).trans hquery)]
  exact namedTable_finds ht hrow hends

/-! ## Joins -/

/-- The words of a join of which a query has to hold the type. -/
inductive JoinWord where
  | inner
  | left
  | right
  deriving DecidableEq, Repr

namespace JoinWord

def text : JoinWord → String
  | inner => "INNER"
  | left => "LEFT"
  | right => "RIGHT"

def words : JoinWord → JoinWords
  | inner => ⟨none, none, some .inner⟩
  | left => ⟨none, some .left, none⟩
  | right => ⟨none, some .right, none⟩

end JoinWord

/-- A join on an equality of two columns, as it stands in a statement. -/
structure TableJoin where
  word : JoinWord
  table : SourceTable
  left : Ref
  right : Ref
  deriving DecidableEq, Repr

namespace TableJoin

/-- The tokens of the equality. -/
def predicate (j : TableJoin) : List Lexeme :=
  j.left.lexemes ++ .of .sign "=" :: j.right.lexemes

/-- The tokens of a join. -/
def lexemes (j : TableJoin) : List Lexeme :=
  .of .word j.word.text :: .of .word "JOIN" :: (j.table.lexemes ++ .of .word "ON" :: j.predicate)

def on (j : TableJoin) : Expr := .binary .eq j.left.expr j.right.expr

def join (j : TableJoin) : Join := ⟨j.word.words, j.table.source, some j.on, [], []⟩

/-- Its words are names. -/
structure IsNamed (j : TableJoin) : Prop where
  table : j.table.IsNamed
  left : j.left.IsNamed
  right : j.right.IsNamed

end TableJoin

theorem joinHead?_finds (word : JoinWord) (a b c d : Nat) (ts : List Token) :
    Finds Grammar.joinHead? (⟨.of .word word.text, a, b, []⟩ :: ⟨.of .word "JOIN", c, d, []⟩ :: ts)
      (word.words, []) ts := by
  set us : List Token := ⟨.of .word "JOIN", c, d, []⟩ :: ts with hus
  have hjoin := expect_finds "JOIN" (l := .of .word "JOIN") (by decide) c d ts
  have hmethod : Misses (acceptOne? (Grammar.joinMethods.map Prod.fst))
      (⟨.of .word word.text, a, b, []⟩ :: us) :=
    acceptOne?_misses (next_cons_notMem (by cases word <;> decide) a b us)
  have hkind : Misses (acceptOne? (Grammar.joinKinds.map Prod.fst)) us :=
    acceptOne?_misses (next_cons_notMem (by decide) c d ts)
  refine attempt_of_some ?_
  rw [run_bind_of hmethod]
  cases word with
  | inner =>
      have hside : Misses (acceptOne? (Grammar.joinSides.map Prod.fst))
          (⟨.of .word "INNER", a, b, []⟩ :: us) :=
        acceptOne?_misses (next_cons_notMem (by decide) a b us)
      have hinner := acceptOne?_finds (Grammar.joinKinds.map Prod.fst) (l := .of .word "INNER")
        (by decide) a b us
      rw [JoinWord.text, run_bind_of hside, run_bind_of hinner]
      simp only [Option.bind_none, Option.bind_some, Token.keyword_mk]
      rw [if_neg (by decide), run_bind_of (run_map_of hjoin _)]
      rfl
  | left =>
      have hside := acceptOne?_finds (Grammar.joinSides.map Prod.fst) (l := .of .word "LEFT")
        (by decide) a b us
      rw [JoinWord.text, run_bind_of hside, run_bind_of hkind]
      simp only [Option.bind_none, Option.bind_some, Token.keyword_mk]
      rw [if_neg (by decide), run_bind_of (run_map_of hjoin _)]
      rfl
  | right =>
      have hside := acceptOne?_finds (Grammar.joinSides.map Prod.fst) (l := .of .word "RIGHT")
        (by decide) a b us
      rw [JoinWord.text, run_bind_of hside, run_bind_of hkind]
      simp only [Option.bind_none, Option.bind_some, Token.keyword_mk]
      rw [if_neg (by decide), run_bind_of (run_map_of hjoin _)]
      rfl

/-- The equality of a join is read as such. -/
theorem disjunctionExpr_finds_on {j : TableJoin} (hj : j.IsNamed) (hrow : Row us j.predicate)
    (hends : Opens closers ts) : Finds g.disjunctionExpr (us ++ ts) j.on ts := by
  obtain ⟨vs, ws, rfl, hleft, hws⟩ := Row.of_append hrow
  have htest : Opens testClosers ts := hends.mono (List.subset_cons_self _ _)
  cases hws with
  | @cons ws _ _ a b hright =>
      have hnext : next (ws ++ ts) ∉ ["<", ">"] :=
        Ref.next_notMem hj.right hright ts (by decide)
      have hoperand : Finds g.rangeExpr (ws ++ ts) j.right.expr ts :=
        rangeExpr_of_unaryExpr htest
          (unaryExpr_finds_ref hj.right hright (endsOperand_of_opens htest))
      rw [List.append_assoc]
      exact disjunctionExpr_of_equalityExpr (equalityExpr_of_compare .eq
        (rangeExpr_finds_ref_sign hj.left hleft .eq a b hnext) hoperand
        (next_notMem_comparisonMarks htest)) hends

/-- The tokens that end the predicate of a join. -/
def joinClosers : List Lexeme :=
  ["INNER", "LEFT", "RIGHT", "WHERE", "LIMIT"].map (fun w => .of .word w) ++
    ["GROUP BY", "ORDER BY"].map fun w => .of .phrase w

/-- A join in a statement is read as such. -/
theorem join?_finds {j : TableJoin} (hj : j.IsNamed) (hrow : Row us j.lexemes)
    (hends : Opens joinClosers ts) : Finds g.above.above.join? (us ++ ts) j.join ts := by
  cases hrow with
  | cons _ a b hrow =>
      cases hrow with
      | cons _ c d hrow =>
          obtain ⟨vs, ws, rfl, htable, hws⟩ := Row.of_append hrow
          cases hws with
          | @cons ws _ _ e f hon =>
              have hopens : Opens tableClosers (⟨.of .word "ON", e, f, []⟩ :: (ws ++ ts)) :=
                .cons (by decide) e f [] _
              have hsource : require g.above.above.source
                  (vs ++ ⟨.of .word "ON", e, f, []⟩ :: (ws ++ ts)) =
                    some (j.table.source, ⟨.of .word "ON", e, f, []⟩ :: (ws ++ ts)) :=
                require_finds (sourceItem_finds_table hj.table htable hopens)
              have hpredicate : Finds g.above.above.disjunction (ws ++ ts) j.on ts :=
                disjunctionExpr_finds_on hj hon (hends.mono (by decide))
              have hterms : Finds g.above.above.joinTerms?
                  (⟨.of .word "ON", e, f, []⟩ :: (ws ++ ts)) (some j.on, []) ts := by
                rw [Finds, Grammar.joinTerms?,
                  run_bind_of (accepts_true "ON" (l := .of .word "ON") (by decide) e f _)]
                simp only [if_true]
                rw [run_bind_of hpredicate]
                rfl
              have hbody : g.above.above.joinBody j.word.words []
                  (vs ++ ⟨.of .word "ON", e, f, []⟩ :: (ws ++ ts)) = some (j.join, ts) := by
                rw [Grammar.joinBody, run_bind_of hsource]
                simp only
                rw [run_bind_of hterms]
                simp only
                rw [run_bind_of (run_pure _ _),
                  run_bind_of (pivots_done (hends.next_notMem (by decide +kernel) (by decide)))]
                rfl
              simp only [List.cons_append, List.append_assoc]
              rw [Finds, Grammar.join?,
                run_bind_of (accepts_false (by rw [next_cons]; cases j.word <;> decide))]
              simp only [Bool.false_eq_true, if_false]
              rw [run_bind_of (joinHead?_finds j.word a b c d _)]
              simp only
              rw [run_bind_of hbody]
              rfl

/-- The tokens that end the joins. -/
def joinsClosers : List Lexeme :=
  ["WHERE", "LIMIT"].map (fun w => .of .word w) ++
    ["GROUP BY", "ORDER BY"].map fun w => .of .phrase w

theorem join?_misses (hends : Opens joinsClosers ts) : Misses g.join? ts := by
  have hhead : Misses Grammar.joinHead? ts := by
    refine attempt_of_none ?_
    rw [run_bind_of (acceptOne?_misses (hends.next_notMem (by decide) (by decide))),
      run_bind_of (acceptOne?_misses (hends.next_notMem (by decide) (by decide))),
      run_bind_of (acceptOne?_misses (hends.next_notMem (by decide) (by decide)))]
    simp only [Option.bind_none]
    rw [if_neg (by decide)]
    refine run_bind_none ?_ _
    have hjoin : expect "JOIN" ts = none := by
      rw [expect, run_bind_of (accept?_misses (hends.next_ne (by decide) (by decide)))]
      rfl
    have hmap : (some <$> expect "JOIN") ts = (expect "JOIN" ts).bind fun r => some (some r.1, r.2) :=
      rfl
    rw [hmap, hjoin]
    rfl
  have hlateral : wouldFind (attempt Grammar.lateralKind?) ts = some (false, ts) := by
    have hkind : Misses Grammar.lateralKind? ts :=
      lateralKind?_misses (hends.next_notMem (by decide) (by decide))
    exact wouldFind_false (attempt_of_some hkind)
  rw [Misses, Grammar.join?, run_bind_of (accepts_false (hends.next_ne (by decide) (by decide)))]
  simp only [Bool.false_eq_true, if_false]
  rw [run_bind_of hhead]
  simp only
  rw [run_bind_of hlateral, run_bind_of (run_keywordAhead ts)]
  rfl

theorem opens_joins {joins : List TableJoin} (hrow : Row us (joins.flatMap TableJoin.lexemes))
    (hends : Opens joinsClosers ts) : Opens joinClosers (us ++ ts) := by
  cases joins with
  | nil =>
      cases hrow
      exact hends.mono (by decide)
  | cons j joins =>
      cases hrow with
      | cons _ a b hrow => exact .cons (by cases j.word <;> decide) a b [] _

/-- Joins in a statement are read as such. -/
theorem joinList_finds {joins : List TableJoin} (hall : ∀ j ∈ joins, j.IsNamed)
    (hrow : Row us (joins.flatMap TableJoin.lexemes)) (hends : Opens joinsClosers ts) :
    g.above.above.joinList (us ++ ts) = some (joins.map TableJoin.join, ts) := by
  refine repeated_of_findsAll ?_
  induction joins generalizing us with
  | nil =>
      cases hrow
      exact .nil (join?_misses hends)
  | cons j joins ih =>
      obtain ⟨hj, hjoins⟩ := List.forall_mem_cons.1 hall
      obtain ⟨vs, ws, rfl, hjoin, hmore⟩ := Row.of_append hrow
      have hfirst := join?_finds (g := g) hj hjoin (opens_joins hmore hends)
      have hlength : vs.length = j.lexemes.length := hjoin.length_eq
      rw [List.append_assoc]
      refine .cons hfirst ?_ (ih hjoins hmore)
      simp only [List.length_append, hlength, TableJoin.lexemes, List.length_cons]
      omega

end Sql
end QueryDesigner
