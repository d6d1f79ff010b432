import Mathlib
import QueryDesigner.Proofs.Parser.Step
import QueryDesigner.Proofs.Sql.Spelling

/-!
# Reading operands

* `Ref`, `Constant` — columns and constants as they stand in statements of queries;
* `EndsOperand` — what stands after an operand does not belong to it;
* `Grammar.above` — the grammar for parts that are nested one level deeper;
* `unaryExpr_finds_ref`, `unaryExpr_finds_star`, `unaryExpr_finds_constant` — operands are read as
  what they are.
-/

namespace QueryDesigner
namespace Sql

open QueryDesigner.Sql.Parser

variable {g : Grammar} {ts : List Token} {l : Lexeme} {w : String} {start stop : Nat}

/-! ## What is not there -/

/-- The kinds of tokens that are no constants by their kind. -/
def wordKinds : List TokenKind := [.word, .phrase, .sign]

/-- The words that are constants. -/
def constantWords : List String := ["NULL", "TRUE", "FALSE", "?"]

theorem constantOf?_eq_none {t : Token} (hkind : t.kind ∈ wordKinds)
    (hword : t.keyword ∉ constantWords) : constantOf? t = none := by
  unfold constantWords at hword
  simp only [List.mem_cons, List.not_mem_nil, or_false, not_or] at hword
  unfold constantOf?
  split
  case h_6 => split <;> simp_all
  all_goals
    rename_i heq
    rw [heq] at hkind
    exact absurd hkind (by decide)

theorem constantOf?_name (hw : IsName w) (start stop : Nat) :
    constantOf? ⟨.of .word w, start, stop, []⟩ = none :=
  constantOf?_eq_none (List.mem_cons_self) (hw.upper_notMem (by decide +kernel))

section Misses

theorem constant?_misses (h : ∀ t ∈ ts.head?, constantOf? t = none) : Misses constant? ts := by
  rw [Misses, constant?, run_bind_of (takeIf?_misses fun t ht => by rw [h t ht]; rfl)]
  rfl

theorem fraction?_misses (h : next ts ≠ ".") : Misses fraction? ts := by
  rw [Misses, fraction?, run_bind_of (run_get ts)]
  rcases ts with _ | ⟨t, _ | ⟨u, ts⟩⟩
  · rfl
  · rfl
  · have hpoint : t.is "." = false := by
      rw [Token.is, beq_eq_false_iff_ne]
      exact h
    simp only [hpoint, Bool.false_and]
    rfl

theorem star?_misses (h : next ts ≠ "*") : Misses g.star? ts := by
  rw [Misses, Grammar.star?, run_bind_of (accept?_misses h)]
  rfl

theorem introduced?_misses (h : next ts ∉ introducers) : Misses introduced? ts := by
  refine attempt_of_some ?_
  have hmiss : Misses (takeIf? fun t => introducers.contains t.keyword) ts :=
    acceptOne?_misses h
  rw [run_bind_of hmiss]
  rfl

theorem parenthesized?_misses (h : next ts ≠ "(") : Misses g.parenthesized? ts := by
  rw [Misses, Grammar.parenthesized?, run_bind_of (accept?_misses h)]
  rfl

theorem nullaryCall?_misses (h : next ts ∉ Grammar.nullaryCalls) :
    Misses Grammar.nullaryCall? ts := by
  rw [Misses, Grammar.nullaryCall?, run_bind_of (run_keyword ts), run_bind_of (run_keywordAhead ts)]
  have hnot : Grammar.nullaryCalls.contains (next ts) = false := by simpa using h
  simp only [hnot, Bool.false_and]
  rfl

theorem call?_misses (h : next ts.tail ≠ "(") : Misses g.call? ts := by
  rw [Misses, Grammar.call?, run_bind_of (run_get ts)]
  rcases ts with _ | ⟨t, _ | ⟨u, ts⟩⟩
  · rfl
  · rfl
  · have hopening : u.is "(" = false := by
      rw [Token.is, beq_eq_false_iff_ne]
      exact h
    simp only [hopening, Bool.and_false]
    rfl

theorem bracedCall?_misses (h : next ts ≠ "\x7b") : Misses g.bracedCall? ts := by
  rw [Misses, Grammar.bracedCall?, run_bind_of (acceptAll_false h)]
  rfl

theorem userVariable?_misses (h : next ts ∉ [":", "@", "@@"]) : Misses userVariable? ts := by
  rw [Misses, userVariable?, run_bind_of (run_get ts)]
  rcases ts with _ | ⟨t, _ | ⟨u, ts⟩⟩
  · rfl
  · rfl
  · have hmarks : t.is ":" = false ∧ t.is "@" = false ∧ t.is "@@" = false := by
      have hkeyword : next (t :: u :: ts) = t.keyword := rfl
      simpa [hkeyword, Token.is] using h
    simp only [hmarks.1, hmarks.2.1, hmarks.2.2, Bool.false_and]
    rfl

theorem interval?_misses (h : next ts ≠ "INTERVAL") : Misses g.interval? ts := by
  refine attempt_of_some ?_
  rw [run_bind_of (accepts_false h)]
  rfl

theorem bytes?_misses (h : next ts ≠ "BINARY") : Misses g.bytes? ts := by
  rw [Misses, Grammar.bytes?, run_bind_of (run_keyword ts), if_neg h]
  rfl

/-- Words that are expressions of their own, as far as they are no names here. -/
def expressionWords : List String := ["CASE", "CONNECT_BY_ROOT", "ANY", "IF"]

theorem keywordExpr?_misses (hkind : ∀ t ∈ ts.head?, t.kind ≠ .phrase)
    (h : next ts ∉ expressionWords) (hvalue : next ts.tail ≠ "VALUE") :
    Misses g.keywordExpr? ts := by
  rw [Misses, Grammar.keywordExpr?, run_bind_of (run_keyword ts)]
  generalize next ts = word at h
  split
  case h_2 =>
      -- the word counts only where it refers to the row above
      have hphrase : isKind .phrase ts = some (false, ts) := by
        cases ts with
        | nil => rfl
        | cons t ts => rw [isKind_cons, beq_false_of_ne (hkind t rfl)]
      rw [run_bind_of hphrase]
      rfl
  case h_4 =>
      have hnext : acceptAll ["NEXT", "VALUE", "FOR"] ts = some (false, ts) :=
        acceptAll_false_second hvalue
      rw [run_bind_of hnext]
      rfl
  case h_7 => rfl
  all_goals exact absurd (by decide) h

/-- The words and signs after a type that belong to it. -/
def typeMarks : List String := ["(", "WITH", "WITHOUT", "UNSIGNED", "ARRAY", "["]

theorem typeName?_misses {t : Token} (h : (typeWords.lookup t.keyword).isSome = false) :
    Misses typeName? (t :: ts) := by
  refine attempt_of_some ?_
  rw [run_bind_of (takeIf?_misses fun u hu => by
    obtain rfl := Option.some.inj hu
    exact h)]
  rfl

/-- The word for a type is a type of its own, if nothing after it belongs to it. -/
theorem exists_typeName? {t : Token} (h : next ts ∉ typeMarks) :
    Misses typeName? (t :: ts) ∨ ∃ type, Finds typeName? (t :: ts) type ts := by
  cases hword : (typeWords.lookup t.keyword).isSome with
  | false => exact .inl (typeName?_misses hword)
  | true =>
      right
      have hne : ∀ word ∈ typeMarks, next ts ≠ word := fun word hmem => ne_of_notMem h hmem
      have hparams : typeParams ts = some ([], ts) := by
        rw [typeParams, run_bind_of (accepts_false (hne "(" (by decide)))]
        rfl
      have hzoned : ∀ type, ∃ type', zoned type ts = some (type', ts) := by
        intro type
        unfold zoned
        split
        next =>
            split
            · rw [run_bind_of (acceptAll_false (hne "WITH" (by decide)))]
              simp only [Bool.false_eq_true, if_false]
              rw [run_bind_of (acceptAll_false (hne "WITH" (by decide)))]
              simp only [Bool.false_eq_true, if_false]
              rw [run_bind_of (acceptAll_false (hne "WITHOUT" (by decide)))]
              exact ⟨_, rfl⟩
            · exact ⟨_, rfl⟩
        next => exact ⟨_, rfl⟩
      have hsigned : ∀ type, signed type ts = some (type, ts) := by
        intro type
        rw [signed, run_bind_of (accepts_false (hne "UNSIGNED" (by decide)))]
        rfl
      have hbrackets : Misses brackets? ts := by
        rw [Misses, brackets?, run_bind_of (accepts_false (hne "[" (by decide)))]
        rfl
      have harrays : ∀ type, arrays type ts = some (type, ts) := by
        intro type
        rw [arrays, run_bind_of (accepts_false (hne "ARRAY" (by decide))),
          run_bind_of (repeated_misses hbrackets)]
        rfl
      obtain ⟨type, htype⟩ := hzoned (.ofWord t.keyword [])
      refine ⟨type, attempt_of_some ?_⟩
      rw [run_bind_of (takeIf?_finds hword ts)]
      simp only
      rw [run_bind_of hparams, run_bind_of htype, run_bind_of (hsigned type),
        run_bind_of (harrays type)]
      rfl

theorem typedConstant?_of_typeName? (h : Misses typeName? ts) : Misses typedConstant? ts := by
  have hbefore : Misses typeBeforeText? ts := by
    refine attempt_of_some ?_
    rw [run_bind_of (run_get ts), run_bind_of h]
    rfl
  exact attempt_of_none (run_bind_none (require_misses hbefore) _)

/-- A word for a type is a name where no constant follows. -/
theorem typedConstant?_misses {t : Token} (h : next ts ∉ typeMarks)
    (hconstant : ∀ u ∈ ts.head?, constantOf? u = none) : Misses typedConstant? (t :: ts) := by
  rcases exists_typeName? (t := t) h with hmiss | ⟨type, hfind⟩
  · exact typedConstant?_of_typeName? hmiss
  · have hplain : Misses plainConstant? ts := by
      rw [Misses, plainConstant?, run_bind_of (run_get ts), run_bind_of (constant?_misses hconstant)]
      rfl
    have hparams : (((t :: ts)[1]?.map fun u => u.is "(").getD false) = false := by
      cases ts with
      | nil => rfl
      | cons u ts =>
          have hu : u.is "(" = false := beq_false_of_ne (ne_of_notMem h (by decide))
          simpa using hu
    have hbefore : Finds typeBeforeText? (t :: ts) type ts := by
      refine attempt_of_some ?_
      rw [run_bind_of (run_get _), run_bind_of hfind]
      simp only [hparams, Bool.false_and]
      rfl
    refine attempt_of_none ?_
    rw [run_bind_of (require_finds hbefore), run_bind_none (require_misses hplain)]

theorem primary?_misses (hconstant : ∀ t ∈ ts.head?, constantOf? t = none)
    (h : next ts ∉ [".", "*", "("] ++ introducers) : Misses g.primary? ts := by
  simp only [List.mem_append, List.mem_cons, List.not_mem_nil, or_false, not_or] at h
  obtain ⟨⟨hpoint, hstar, hparen⟩, hintroduced⟩ := h
  refine foldr_orElse?_misses ?_
  simp only [List.forall_mem_cons, List.not_mem_nil, false_implies, implies_true, and_true]
  exact ⟨constant?_misses hconstant, fraction?_misses hpoint, star?_misses hstar,
    introduced?_misses hintroduced, parenthesized?_misses hparen⟩

/-- The signs after a field that belong to it. -/
def columnSigns : List String := [".", "::", "->", "->>", "#>", "#>>", "?", "\x7b", "["]

theorem columnOperatorsFrom_done (steps : Nat) (e : Expr) (h : next ts ∉ columnSigns) :
    g.columnOperatorsFrom steps e ts = some (e, ts) := by
  unfold columnSigns at h
  cases steps with
  | zero => rfl
  | succ n =>
      have hmiss : Misses (g.columnOperator? (g.columnOperatorsFrom n) e) ts := by
        rw [Misses, Grammar.columnOperator?, run_bind_of (acceptOne?_misses h)]
        rfl
      simp only [Grammar.columnOperatorsFrom]
      rw [run_bind_of hmiss]
      rfl

theorem columnOperators_done (e : Expr) (h : next ts ∉ columnSigns) :
    g.columnOperators e ts = some (e, ts) := by
  rw [Grammar.columnOperators, run_bind_of (run_get ts)]
  exact columnOperatorsFrom_done _ e h

end Misses

/-! ## Columns -/

/-- A column as it stands in a statement. -/
inductive Ref where
  | bare (column : String)
  | qualified (key column : String)
  deriving DecidableEq, Repr

namespace Ref

/-- The tokens of a column. -/
def lexemes : Ref → List Lexeme
  | bare column => [.of .word column]
  | qualified key column => [.of .word key, .of .sign ".", .of .word column]

def expr : Ref → Expr
  | bare column => .column [] ⟨column, false⟩
  | qualified key column => .column [⟨key, false⟩] ⟨column, false⟩

/-- Its words are names. -/
def IsNamed : Ref → Prop
  | bare column => IsName column
  | qualified key column => IsName key ∧ IsName column

end Ref

section Columns

variable {a b c d e f : Nat} {k : String}

theorem isNameToken_of_isName (hw : IsName w) (a b : Nat) :
    isNameToken [] ⟨.of .word w, a, b, []⟩ = true := by
  have hnot : Text.upper w ∉ reservedWords := hw.upper_notMem (by decide +kernel)
  simpa [isNameToken, Token.keyword, Lexeme.of] using hnot

theorem isLooseName_of_isName (hw : IsName w) (a b : Nat) :
    isLooseName ⟨.of .word w, a, b, []⟩ = true := by
  have hnot : Text.upper w ∉ ["SELECT", "MOD", "NOT"] := hw.upper_notMem (by decide +kernel)
  simpa [isLooseName, Token.keyword, Lexeme.of] using hnot

theorem primary?_misses_name (hw : IsName w) : Misses g.primary? (⟨.of .word w, a, b, []⟩ :: ts) := by
  refine primary?_misses (fun t ht => ?_) ?_
  · obtain rfl := Option.some.inj ht
    exact constantOf?_name hw a b
  · rw [next_cons]
    exact hw.upper_notMem (by decide +kernel)

theorem keywordExpr?_misses_name (hw : IsName w) (h : next ts ≠ "VALUE") :
    Misses g.keywordExpr? (⟨.of .word w, a, b, []⟩ :: ts) := by
  refine keywordExpr?_misses (fun t ht => ?_) ?_ h
  · obtain rfl := Option.some.inj ht
    exact fun heq => TokenKind.noConfusion heq
  · rw [next_cons]
    exact hw.upper_notMem (by decide +kernel)

theorem nullaryCall?_misses_name (hw : IsName w) :
    Misses Grammar.nullaryCall? (⟨.of .word w, a, b, []⟩ :: ts) := by
  refine nullaryCall?_misses ?_
  rw [next_cons]
  exact hw.upper_notMem (by decide +kernel)

theorem field?_name (hw : IsName w) (h : next ts ∉ ["(", "VALUE"]) :
    Finds g.field? (⟨.of .word w, a, b, []⟩ :: ts) (.column [] ⟨w, false⟩) ts := by
  simp only [List.mem_cons, List.not_mem_nil, or_false, not_or] at h
  have hbraced : Misses g.bracedCall? (⟨.of .word w, a, b, []⟩ :: ts) := by
    refine bracedCall?_misses ?_
    rw [next_cons]
    exact hw.upper_ne (by decide +kernel)
  have hvariable : Misses userVariable? (⟨.of .word w, a, b, []⟩ :: ts) := by
    refine userVariable?_misses ?_
    rw [next_cons]
    exact hw.upper_notMem (by decide +kernel)
  have hname : Finds Grammar.columnName? (⟨.of .word w, a, b, []⟩ :: ts) (.column [] ⟨w, false⟩)
      ts := by
    rw [Finds, Grammar.columnName?, nameToken?,
      run_bind_of (takeIf?_finds (isNameToken_of_isName hw a b) ts)]
    rfl
  refine foldr_orElse?_finds [g.primary?, g.keywordExpr?, Grammar.nullaryCall?, g.call?,
    g.bracedCall?, userVariable?] ?_ hname []
  simp only [List.forall_mem_cons, List.not_mem_nil, false_implies, implies_true, and_true]
  exact ⟨primary?_misses_name hw, keywordExpr?_misses_name hw h.2, nullaryCall?_misses_name hw,
    call?_misses h.1, hbraced, hvariable⟩

theorem columnExpr_of_field {e : Expr} {us : List Token} (h : Finds g.field? us e ts)
    (hends : next ts ∉ columnSigns) : Finds g.columnExpr us e ts := by
  rw [Finds, Grammar.columnExpr, run_bind_of (orElse?_finds h _)]
  simp only [run_bind_of (columnOperators_done e hends)]
  rfl

/-- What stands after the point that follows a field. -/
theorem columnExpr_of_point {e e' : Expr} {us vs : List Token}
    (hfield : Finds g.field? us e (⟨.of .sign ".", c, d, []⟩ :: vs))
    (hpoint : g.afterPoint e vs = some (e', ts)) (hends : next ts ∉ columnSigns) :
    Finds g.columnExpr us e' ts := by
  have hoperator : ∀ steps, Finds (g.columnOperator? (g.columnOperatorsFrom steps) e)
      (⟨.of .sign ".", c, d, []⟩ :: vs) e' ts := by
    intro steps
    have hsign := acceptOne?_finds [".", "::", "->", "->>", "#>", "#>>", "?", "\x7b", "["]
      (l := .of .sign ".") (by decide) c d vs
    have hkeyword : Token.keyword ⟨.of .sign ".", c, d, []⟩ = "." := rfl
    rw [Finds, Grammar.columnOperator?, run_bind_of hsign]
    simp only [hkeyword]
    rw [run_bind_of hpoint]
    rfl
  have hall : g.columnOperators e (⟨.of .sign ".", c, d, []⟩ :: vs) = some (e', ts) := by
    rw [Grammar.columnOperators, run_bind_of (run_get _), List.length_cons]
    simp only [Grammar.columnOperatorsFrom]
    rw [run_bind_of (hoperator _)]
    exact columnOperatorsFrom_done _ e' hends
  rw [Finds, Grammar.columnExpr, run_bind_of (orElse?_finds hfield _)]
  simp only [run_bind_of hall]
  rfl

/-- A name after a point. -/
theorem afterPoint_name (hw : IsName w) (h : next ts ∉ ["(", "VALUE"]) :
    g.afterPoint (.column [] ⟨k, false⟩) (⟨.of .word w, e, f, []⟩ :: ts) =
      some (.column [⟨k, false⟩] ⟨w, false⟩, ts) := by
  simp only [List.mem_cons, List.not_mem_nil, or_false, not_or] at h
  have hword : orElse? g.keywordExpr? Grammar.nullaryCall? (⟨.of .word w, e, f, []⟩ :: ts) =
      some (none, ⟨.of .word w, e, f, []⟩ :: ts) := by
    rw [orElse?_misses (keywordExpr?_misses_name hw h.2)]
    exact nullaryCall?_misses_name hw
  have hcall : Misses g.qualifiedCall? (⟨.of .word w, e, f, []⟩ :: ts) := by
    rw [Misses, Grammar.qualifiedCall?, run_bind_of (run_get _)]
    cases ts with
    | nil => rfl
    | cons u ts =>
        have hopening : u.is "(" = false := beq_false_of_ne h.1
        simp only [hopening, Bool.and_false]
        rfl
  simp only [Grammar.afterPoint]
  rw [run_bind_of hword]
  simp only
  rw [run_bind_of hcall]
  simp only
  rw [run_bind_of (primary?_misses_name hw)]
  simp only
  rw [run_bind_of (require_finds (takeIf?_finds (isLooseName_of_isName hw e f) ts))]
  rfl

theorem starChange?_misses {words : List String} (shown : String) (h : next ts ∉ words) :
    Misses (g.starChange? words shown) ts := by
  rw [Misses, Grammar.starChange?, run_bind_of (acceptOne?_misses h)]
  rfl

/-- A star after a point. -/
theorem afterPoint_star (h : next ts ∉ ["(", "EXCEPT", "EXCLUDE", "REPLACE", "RENAME"]) :
    g.afterPoint (.column [] ⟨k, false⟩) (⟨.of .sign "*", e, f, []⟩ :: ts) =
      some (.columns [⟨k, false⟩] [], ts) := by
  simp only [List.mem_cons, List.not_mem_nil, or_false, not_or] at h
  obtain ⟨hparen, hexcept, hexclude, hreplace, hrename⟩ := h
  set us : List Token := ⟨.of .sign "*", e, f, []⟩ :: ts with hus
  have hkeyword : next us = "*" := next_cons _ e f [] ts
  have hnot : ∀ words : List String, "*" ∉ words → next us ∉ words := fun words h => hkeyword ▸ h
  have hword : orElse? g.keywordExpr? Grammar.nullaryCall? us = some (none, us) := by
    have hmiss : Misses g.keywordExpr? us := by
      rw [Misses, Grammar.keywordExpr?, run_bind_of (run_keyword us), hkeyword]
      rfl
    rw [orElse?_misses hmiss]
    exact nullaryCall?_misses (hnot _ (by decide +kernel))
  have hcall : Misses g.qualifiedCall? us := by
    rw [Misses, Grammar.qualifiedCall?, run_bind_of (run_get us)]
    cases ts with
    | nil => rfl
    | cons u ts =>
        have hopening : u.is "(" = false := beq_false_of_ne hparen
        simp only [hus, hopening, Bool.and_false]
        rfl
  have hchanges : g.starChanges ts = some ([], ts) := by
    rw [Grammar.starChanges, run_bind_of (starChange?_misses _ (by simp [hexcept, hexclude])),
      run_bind_of (starChange?_misses _ (by simp [hreplace])),
      run_bind_of (starChange?_misses _ (by simp [hrename]))]
    rfl
  have hstar : Finds g.star? us (.star []) ts := by
    rw [Finds, Grammar.star?, run_bind_of (accept?_finds "*" (l := .of .sign "*") rfl e f ts)]
    simp only
    rw [run_bind_of hchanges]
    rfl
  have hprimary : Finds g.primary? us (.star []) ts := by
    refine foldr_orElse?_finds [constant?, fraction?] ?_ hstar [introduced?, g.parenthesized?]
    simp only [List.forall_mem_cons, List.not_mem_nil, false_implies, implies_true, and_true]
    refine ⟨constant?_misses fun t ht => ?_, fraction?_misses ?_⟩
    · obtain rfl := Option.some.inj ht
      rfl
    · rw [hkeyword]
      decide
  simp only [Grammar.afterPoint]
  rw [run_bind_of hword]
  simp only
  rw [run_bind_of hcall]
  simp only
  rw [run_bind_of hprimary]
  rfl

end Columns

/-! ## Constants -/

/-- A constant as it stands in a statement. -/
inductive Constant where
  | number (isNegative : Bool) (digits : Numeral)
  | text (value : String)
  deriving DecidableEq, Repr

namespace Constant

/-- The tokens of a constant. -/
def lexemes : Constant → List Lexeme
  | number isNegative digits =>
    (if isNegative then [.of .sign "-"] else []) ++ [digits.lexeme]
  | text value => [.of .text value]

def expr : Constant → Expr
  | number isNegative digits =>
    if isNegative then .unary .negate (.literal (.numeral digits)) else .literal (.numeral digits)
  | text value => .literal (.text value)

end Constant

section Constants

variable {a b : Nat} {us : List Token}

/-- The signs and words that belong to an operand before them, and the words that are constants. -/
def operandMarks : List String := columnSigns ++ typeMarks ++ constantWords ++ ["AT", "VALUE"]

/-- What stands after an operand neither belongs to it nor is a constant. -/
structure EndsOperand (ts : List Token) : Prop where
  marks : next ts ∉ operandMarks
  kind : ∀ t ∈ ts.head?, t.kind ∈ wordKinds

namespace EndsOperand

theorem of_opens {F : List Lexeme} (h : Opens F ts)
    (hF : F.all (fun l => wordKinds.contains l.kind && !operandMarks.contains l.keyword) = true) :
    EndsOperand ts where
  marks := by
    refine h.next_notMem (List.all_eq_true.2 fun l hl => ?_) (by decide)
    exact (Bool.and_eq_true_iff.1 (List.all_eq_true.1 hF l hl)).2
  kind t ht := by
    simpa using (Bool.and_eq_true_iff.1 (List.all_eq_true.1 hF _ (h t ht))).1

theorem notMem (h : EndsOperand ts) {words : List String} (hwords : words ⊆ operandMarks) :
    next ts ∉ words := notMem_of_subset h.marks hwords

theorem constant (h : EndsOperand ts) : ∀ t ∈ ts.head?, constantOf? t = none := by
  intro t ht
  refine constantOf?_eq_none (h.kind t ht) ?_
  have hnext : next ts = t.keyword := by simp [next, Option.mem_def.1 ht]
  rw [← hnext]
  exact h.notMem (by decide)

end EndsOperand

theorem constant?_finds {e : Expr} (he : constantOf? ⟨l, a, b, []⟩ = some e)
    (hends : ∀ t ∈ ts.head?, constantOf? t = none) (hl : l.kind = .text → e = .string l.text) :
    Finds constant? (⟨l, a, b, []⟩ :: ts) e ts := by
  have htake : Finds (takeIf? fun t => (constantOf? t).isSome) (⟨l, a, b, []⟩ :: ts)
      ⟨l, a, b, []⟩ ts := takeIf?_finds (by rw [he]; rfl) ts
  rw [Finds, constant?, run_bind_of htake]
  by_cases hkind : l.kind = .text
  · have htexts : Misses (takeKind? .text) ts := by
      refine takeIf?_misses fun t ht => beq_false_of_ne fun heq => ?_
      have hnone := hends t ht
      obtain ⟨⟨kind, text, hdigit⟩, start, stop, comments⟩ := t
      subst heq
      cases hnone
    have hjoined : joinedTexts ⟨l, a, b, []⟩ ts = some (.string l.text, ts) := by
      rw [joinedTexts, run_bind_of (repeated_misses htexts)]
      rfl
    simp only [hkind, beq_self_eq_true, if_true]
    rw [run_bind_of hjoined, hl hkind]
    rfl
  · simp only [beq_false_of_ne hkind, Bool.false_eq_true, if_false, he]
    rfl

/-- A token that is a constant is read as an atom. -/
theorem atom?_of_constant {e : Expr} (he : constantOf? ⟨l, a, b, []⟩ = some e)
    (hkind : l.keyword = "") (hl : l.kind = .text → e = .string l.text)
    (hends : EndsOperand ts) : Finds g.atom? (⟨l, a, b, []⟩ :: ts) e ts := by
  have hkeyword : next (⟨l, a, b, []⟩ :: ts) = "" := by rw [next_cons, hkind]
  have hinterval : Misses g.interval? (⟨l, a, b, []⟩ :: ts) :=
    interval?_misses (by rw [hkeyword]; decide)
  have htyped : Misses typedConstant? (⟨l, a, b, []⟩ :: ts) :=
    typedConstant?_misses (hends.notMem (by decide)) hends.constant
  have hbytes : Misses g.bytes? (⟨l, a, b, []⟩ :: ts) := bytes?_misses (by rw [hkeyword]; decide)
  have hprimary : Finds g.primary? (⟨l, a, b, []⟩ :: ts) e ts :=
    orElse?_finds (constant?_finds he hends.constant hl) _
  rw [Finds, Grammar.atom?, run_bind_of (by rw [orElse?_misses hinterval]; exact htyped)]
  simp only
  rw [orElse?_misses hbytes]
  exact columnExpr_of_field (orElse?_finds hprimary _) (hends.notMem (by decide))

end Constants

/-! ## Operands -/

/-- The grammar for parts that are nested one level deeper. -/
def Grammar.above (g : Grammar) : Grammar :=
  { column := g.columnExpr
    unary := g.unaryExpr
    factor := g.factorExpr
    equality := g.equalityExpr
    bitwise := g.bitwiseExpr
    term := g.termExpr
    disjunction := g.disjunctionExpr
    assignment := g.assignmentExpr
    expression := g.expressionItem
    query := g.queryItem
    operand := g.operandItem
    continued := g.continuedQuery
    source := g.sourceItem
    joins := g.joinList }

section Operands

variable {a b c d e f : Nat} {us vs : List Token} {k : String}

theorem atom?_of_columnExpr {e : Expr} (hw : IsName w) (hmarks : next vs ∉ typeMarks)
    (hconstant : ∀ t ∈ vs.head?, constantOf? t = none)
    (h : Finds g.columnExpr (⟨.of .word w, a, b, []⟩ :: vs) e ts) :
    Finds g.atom? (⟨.of .word w, a, b, []⟩ :: vs) e ts := by
  have hnext : ∀ word, (keywords.contains word || !isPlain word) = true →
      next (⟨.of .word w, a, b, []⟩ :: vs) ≠ word := by
    intro word hword
    rw [next_cons]
    exact hw.upper_ne hword
  have htyped : Misses typedConstant? (⟨.of .word w, a, b, []⟩ :: vs) :=
    typedConstant?_misses hmarks hconstant
  rw [Finds, Grammar.atom?, run_bind_of (by
    rw [orElse?_misses (interval?_misses (hnext _ (by decide +kernel)))]; exact htyped)]
  simp only
  rw [orElse?_misses (bytes?_misses (hnext _ (by decide +kernel)))]
  exact h

theorem unaryExpr_of_atom {e : Expr} (hsign : next us ∉ ["+", "-", "~", "NOT", "!"])
    (h : Finds g.atom? us e ts) (hends : EndsOperand ts) : Finds g.unaryExpr us e ts := by
  have hzones : ∀ steps, g.zonesFrom steps e ts = some (e, ts) := by
    intro steps
    cases steps with
    | zero => rfl
    | succ n =>
        have hat : next ts ≠ "AT" := ne_of_notMem hends.marks (by decide)
        simp only [Grammar.zonesFrom]
        rw [run_bind_of (acceptAll_false hat)]
        rfl
  rw [Finds, Grammar.unaryExpr, run_bind_of (acceptOne?_misses hsign)]
  simp only
  rw [run_bind_of h]
  simp only
  rw [run_bind_of (run_get ts), run_bind_of (hzones _)]
  rfl

theorem unaryExpr_of_columnExpr {e : Expr} (hw : IsName w) (hmarks : next vs ∉ typeMarks)
    (hconstant : ∀ t ∈ vs.head?, constantOf? t = none)
    (h : Finds g.columnExpr (⟨.of .word w, a, b, []⟩ :: vs) e ts) (hends : EndsOperand ts) :
    Finds g.unaryExpr (⟨.of .word w, a, b, []⟩ :: vs) e ts := by
  refine unaryExpr_of_atom ?_ (atom?_of_columnExpr hw hmarks hconstant h) hends
  rw [next_cons]
  exact hw.upper_notMem (by decide +kernel)

/-- What starts with a name and a point is read as the column operators read it. -/
theorem unaryExpr_of_point {e : Expr} (hw : IsName w)
    (h : g.afterPoint (.column [] ⟨w, false⟩) vs = some (e, ts)) (hends : EndsOperand ts) :
    Finds g.unaryExpr (⟨.of .word w, a, b, []⟩ :: ⟨.of .sign ".", c, d, []⟩ :: vs) e ts := by
  have hpoint : ∀ words, "." ∉ words → next (⟨.of .sign ".", c, d, []⟩ :: vs) ∉ words :=
    fun words hwords => next_cons_notMem hwords c d vs
  have hfield := field?_name (g := g) (a := a) (b := b) hw (hpoint ["(", "VALUE"] (by decide))
  refine unaryExpr_of_columnExpr hw (hpoint _ (by decide)) (fun t ht => ?_)
    (columnExpr_of_point hfield h (hends.notMem (by decide))) hends
  obtain rfl := Option.some.inj ht
  rfl

theorem Ref.next_notMem {r : Ref} (hr : r.IsNamed) (hrow : Row us r.lexemes) (ts : List Token)
    {words : List String}
    (h : words.all (fun v => keywords.contains v || !isPlain v) = true) :
    next (us ++ ts) ∉ words := by
  cases r with
  | bare column =>
      cases hrow with
      | cons _ a b hrow => exact next_cons_notMem (IsName.upper_notMem hr h) a b _
  | qualified key column =>
      cases hrow with
      | cons _ a b hrow => exact next_cons_notMem (hr.1.upper_notMem h) a b _

/-- A column in a statement is read as such. -/
theorem unaryExpr_finds_ref {r : Ref} (hr : r.IsNamed) (hrow : Row us r.lexemes)
    (hends : EndsOperand ts) : Finds g.unaryExpr (us ++ ts) r.expr ts := by
  have hcall : next ts ∉ ["(", "VALUE"] := hends.notMem (by decide)
  cases r with
  | bare column =>
      cases hrow with
      | cons _ a b hrow =>
          cases hrow
          exact unaryExpr_of_columnExpr hr (hends.notMem (by decide)) hends.constant
            (columnExpr_of_field (field?_name hr hcall) (hends.notMem (by decide))) hends
  | qualified key column =>
      cases hrow with
      | cons _ a b hrow =>
          cases hrow with
          | cons _ c d hrow =>
              cases hrow with
              | cons _ e f hrow =>
                  cases hrow
                  exact unaryExpr_of_point hr.1 (afterPoint_name hr.2 hcall) hends

/-- All columns of a table, as they stand in a statement. -/
theorem unaryExpr_finds_star {key : String} (hkey : IsName key)
    (hrow : Row us [.of .word key, .of .sign ".", .of .sign "*"])
    (hstar : next ts ∉ ["(", "EXCEPT", "EXCLUDE", "REPLACE", "RENAME"]) (hends : EndsOperand ts) :
    Finds g.unaryExpr (us ++ ts) (.columns [⟨key, false⟩] []) ts := by
  cases hrow with
  | cons _ a b hrow =>
      cases hrow with
      | cons _ c d hrow =>
          cases hrow with
          | cons _ e f hrow =>
              cases hrow
              exact unaryExpr_of_point hkey (afterPoint_star hstar) hends

theorem unaryExpr_of_constant {e : Expr} (he : constantOf? ⟨l, a, b, []⟩ = some e)
    (hkind : l.keyword = "") (hl : l.kind = .text → e = .string l.text) (hends : EndsOperand ts) :
    Finds g.unaryExpr (⟨l, a, b, []⟩ :: ts) e ts := by
  refine unaryExpr_of_atom ?_ (atom?_of_constant he hkind hl hends) hends
  rw [next_cons, hkind]
  decide

/-- What a sign stands before is read one level deeper. -/
theorem unaryExpr_of_negative {e : Expr} (h : Finds g.unaryExpr us e ts) :
    Finds g.above.unaryExpr (⟨.of .sign "-", a, b, []⟩ :: us) (.unary .negate e) ts := by
  have hsign := acceptOne?_finds ["+", "-", "~", "NOT", "!"] (l := .of .sign "-") (by decide) a b us
  have hkeyword : Token.keyword ⟨.of .sign "-", a, b, []⟩ = "-" := rfl
  have hrequire : require g.above.unary us = some (e, ts) := require_finds h
  rw [Finds, Grammar.unaryExpr, run_bind_of hsign]
  simp only [hkeyword]
  rw [run_bind_of hrequire]
  rfl

/-- A constant in a statement is read as such. -/
theorem unaryExpr_finds_constant {k : Constant} (hrow : Row us k.lexemes) (hends : EndsOperand ts) :
    Finds g.above.unaryExpr (us ++ ts) k.expr ts := by
  cases k with
  | text value =>
      cases hrow with
      | cons _ a b hrow =>
          cases hrow
          exact unaryExpr_of_constant rfl rfl (fun _ => rfl) hends
  | number isNegative digits =>
      cases isNegative with
      | false =>
          cases hrow with
          | cons _ a b hrow =>
              cases hrow
              exact unaryExpr_of_constant rfl rfl (fun h => TokenKind.noConfusion h) hends
      | true =>
          cases hrow with
          | cons _ a b hrow =>
              cases hrow with
              | cons _ c d hrow =>
                  cases hrow
                  exact unaryExpr_of_negative
                    (unaryExpr_of_constant rfl rfl (fun h => TokenKind.noConfusion h) hends)

end Operands

end Sql
end QueryDesigner
