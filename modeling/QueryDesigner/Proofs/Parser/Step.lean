import Mathlib
import QueryDesigner.Proofs.Sql.Name
import QueryDesigner.Proofs.Sql.Row

/-!
# Steps of parsers

* `Finds`, `Misses` — a parser finds something and reads up to a place, or nothing at all;
* `next` — the keyword of the next token;
* `Opens` — what the next token is, if there is one;
* one lemma for each step of which parsers are made, for each outcome that it can have;
* `repeated_finds`, `commaList_finds` — lists by their items.
-/

namespace QueryDesigner
namespace Sql
namespace Parser

variable {α β : Type} {ts us : List Token} {t : Token}

/-- A parser finds something and leaves the rest. -/
abbrev Finds (p : Parser (Option α)) (ts : List Token) (a : α) (rest : List Token) : Prop :=
  p ts = some (some a, rest)

/-- A parser finds nothing and reads nothing. -/
abbrev Misses (p : Parser (Option α)) (ts : List Token) : Prop := p ts = some (none, ts)

/-! ## Running -/

theorem run_bind (p : Parser α) (f : α → Parser β) (ts : List Token) :
    (p >>= f) ts = (p ts).bind fun r => f r.1 r.2 := rfl

theorem run_pure (a : α) (ts : List Token) : (pure a : Parser α) ts = some (a, ts) := rfl

theorem run_get (ts : List Token) : (get : Parser (List Token)) ts = some (ts, ts) := rfl

/-- A step whose outcome is known. -/
theorem run_bind_of {p : Parser α} {a : α} (h : p ts = some (a, us)) (f : α → Parser β) :
    (p >>= f) ts = f a us := by
  rw [run_bind, h]
  rfl

theorem run_map_of {p : Parser α} {a : α} (h : p ts = some (a, us)) (f : α → β) :
    (f <$> p) ts = some (f a, us) := by
  have hmap : (f <$> p) ts = (p ts).bind fun r => some (f r.1, r.2) := rfl
  rw [hmap, h]
  rfl

/-! ## The next token -/

/-- The keyword of the next token, empty if there is none. -/
def next (ts : List Token) : String := (ts.head?.map Token.keyword).getD ""

@[simp] theorem next_cons (l : Lexeme) (start stop : Nat) (comments : List String)
    (ts : List Token) : next (⟨l, start, stop, comments⟩ :: ts) = l.keyword :=
  Token.keyword_eq_keyword _

theorem next_cons_notMem {l : Lexeme} {words : List String} (h : l.keyword ∉ words)
    (start stop : Nat) (ts : List Token) : next (⟨l, start, stop, []⟩ :: ts) ∉ words := by
  rwa [next_cons]

theorem notMem_of_subset {w : String} {words sub : List String} (h : w ∉ words)
    (hsub : sub ⊆ words) : w ∉ sub := fun hmem => h (hsub hmem)

theorem ne_of_notMem {w v : String} {words : List String} (h : w ∉ words) (hv : v ∈ words) :
    w ≠ v := fun heq => h (heq ▸ hv)

theorem run_keyword (ts : List Token) : keyword ts = some (next ts, ts) := rfl

theorem run_keywordAhead (ts : List Token) :
    keywordAhead ts = some (next ts.tail, ts) := by
  cases ts with
  | nil => rfl
  | cons t ts => cases ts <;> rfl

/-- The next token, if there is one, is one of some. -/
def Opens (lexemes : List Lexeme) (ts : List Token) : Prop :=
  ∀ t ∈ ts.head?, t.toLexeme ∈ lexemes

namespace Opens

variable {F G : List Lexeme}

theorem nil (F : List Lexeme) : Opens F [] := by
  intro t ht
  cases ht

theorem cons {l : Lexeme} (hl : l ∈ F) (start stop : Nat) (comments : List String)
    (ts : List Token) : Opens F (⟨l, start, stop, comments⟩ :: ts) := by
  rintro t ht
  obtain rfl := Option.some.inj ht
  exact hl

theorem mono (h : Opens F ts) (hF : F ⊆ G) : Opens G ts := fun t ht => hF (h t ht)

/-- The next keyword is none of some words, if none of the possible tokens is. -/
theorem next_notMem (h : Opens F ts) {words : List String}
    (hF : F.all (fun l => !words.contains l.keyword) = true) (hempty : "" ∉ words) :
    next ts ∉ words := by
  cases ts with
  | nil => exact hempty
  | cons t ts =>
      have hl := List.all_eq_true.1 hF _ (h t rfl)
      have hnext : next (t :: ts) = t.toLexeme.keyword := t.keyword_eq_keyword
      rw [hnext]
      simpa using hl

theorem next_ne (h : Opens F ts) {word : String}
    (hF : F.all (fun l => l.keyword != word) = true) (hempty : "" ≠ word) : next ts ≠ word := by
  have hnot : next ts ∉ [word] := h.next_notMem (by simpa using hF) (by simpa using hempty)
  simpa using hnot

end Opens

/-! ## Taking a token -/

theorem takeIf?_finds {p : Token → Bool} (h : p t = true) (ts : List Token) :
    Finds (takeIf? p) (t :: ts) t ts := by
  rw [Finds, takeIf?, run_bind_of (run_get _)]
  simp only [if_pos h]
  rfl

theorem takeIf?_misses {p : Token → Bool} (h : ∀ t ∈ ts.head?, p t = false) :
    Misses (takeIf? p) ts := by
  cases ts with
  | nil => rfl
  | cons t ts => simp [Misses, takeIf?, run_bind, run_get, run_pure, h t rfl]

theorem accept?_finds (word : String) {l : Lexeme} (h : l.keyword = word) (start stop : Nat)
    (ts : List Token) :
    Finds (accept? word) (⟨l, start, stop, []⟩ :: ts) ⟨l, start, stop, []⟩ ts :=
  takeIf?_finds (by simp [Token.is, Token.keyword_eq_keyword, h]) ts

theorem accept?_misses {word : String} (h : next ts ≠ word) : Misses (accept? word) ts := by
  refine takeIf?_misses fun t ht => ?_
  have hnext : next ts = t.keyword := by simp [next, Option.mem_def.1 ht]
  rw [Token.is, beq_eq_false_iff_ne, ← hnext]
  exact h

theorem accepts_true (word : String) {l : Lexeme} (h : l.keyword = word) (start stop : Nat)
    (ts : List Token) : accepts word (⟨l, start, stop, []⟩ :: ts) = some (true, ts) := by
  rw [accepts, run_bind_of (accept?_finds word h start stop ts)]
  rfl

theorem accepts_false {word : String} (h : next ts ≠ word) : accepts word ts = some (false, ts) := by
  rw [accepts, run_bind_of (accept?_misses h)]
  rfl

theorem acceptOne?_finds (words : List String) {l : Lexeme} (h : l.keyword ∈ words)
    (start stop : Nat) (ts : List Token) :
    Finds (acceptOne? words) (⟨l, start, stop, []⟩ :: ts) ⟨l, start, stop, []⟩ ts :=
  takeIf?_finds (by simpa [Token.keyword_eq_keyword] using h) ts

theorem acceptOne?_misses {words : List String} (h : next ts ∉ words) :
    Misses (acceptOne? words) ts := by
  refine takeIf?_misses fun t ht => ?_
  have hnext : next ts = t.keyword := by simp [next, Option.mem_def.1 ht]
  rw [hnext] at h
  simpa using h

theorem acceptAll_false {word : String} {words : List String} (h : next ts ≠ word) :
    acceptAll (word :: words) ts = some (false, ts) := by
  have hne : (ts.take (words.length + 1)).map Token.keyword ≠ word :: words := by
    cases ts with
    | nil => simp
    | cons t ts =>
        intro heq
        rw [List.take_succ_cons, List.map_cons] at heq
        exact h (List.cons.inj heq).1
  simp only [acceptAll, run_bind_of (run_get ts), List.length_cons, if_neg hne]
  rfl

/-- Two keywords in a row, of which the second one is missing. -/
theorem acceptAll_false_second {first second : String} {words : List String}
    (h : next ts.tail ≠ second) :
    acceptAll (first :: second :: words) ts = some (false, ts) := by
  have hne : (ts.take (words.length + 2)).map Token.keyword ≠ first :: second :: words := by
    rcases ts with _ | ⟨t, _ | ⟨u, ts⟩⟩
    · simp
    · simp
    · intro heq
      simp only [List.take_succ_cons, List.map_cons, List.cons.injEq] at heq
      exact h heq.2.1
  simp only [acceptAll, run_bind_of (run_get ts), List.length_cons, if_neg hne]
  rfl

theorem expect_finds (word : String) {l : Lexeme} (h : l.keyword = word) (start stop : Nat)
    (ts : List Token) :
    expect word (⟨l, start, stop, []⟩ :: ts) = some (⟨l, start, stop, []⟩, ts) := by
  rw [expect, run_bind_of (accept?_finds word h start stop ts)]
  rfl

theorem isKind_cons (kind : TokenKind) (t : Token) (ts : List Token) :
    isKind kind (t :: ts) = some (t.kind == kind, t :: ts) := rfl

/-! ## Choices -/

theorem require_finds {p : Parser (Option α)} {a : α} (h : Finds p ts a us) :
    require p ts = some (a, us) := by
  rw [require, run_bind_of h]
  rfl

theorem require_misses {p : Parser (Option α)} (h : Misses p ts) : require p ts = none := by
  rw [require, run_bind_of h]
  rfl

theorem run_bind_none {p : Parser α} (h : p ts = none) (f : α → Parser β) :
    (p >>= f) ts = none := by
  rw [run_bind, h]
  rfl

theorem orElse?_finds {p : Parser (Option α)} {a : α} (h : Finds p ts a us)
    (q : Parser (Option α)) : Finds (orElse? p q) ts a us := by
  rw [Finds, orElse?, run_bind_of h]
  rfl

theorem orElse?_misses {p : Parser (Option α)} (h : Misses p ts) (q : Parser (Option α)) :
    orElse? p q ts = q ts := by
  rw [orElse?, run_bind_of h]

theorem foldr_orElse?_misses {ps : List (Parser (Option α))} (h : ∀ p ∈ ps, Misses p ts) :
    Misses (ps.foldr orElse? (pure none)) ts := by
  induction ps with
  | nil => rfl
  | cons p ps ih =>
      obtain ⟨hp, hps⟩ := List.forall_mem_cons.1 h
      rw [Misses, List.foldr_cons, orElse?_misses hp]
      exact ih hps

/-- Only the first parser that finds something counts. -/
theorem foldr_orElse?_finds (ps : List (Parser (Option α))) (h : ∀ p ∈ ps, Misses p ts)
    {q : Parser (Option α)} {a : α} (hq : Finds q ts a us) (qs : List (Parser (Option α))) :
    Finds ((ps ++ q :: qs).foldr orElse? (pure none)) ts a us := by
  induction ps with
  | nil => exact orElse?_finds hq _
  | cons p ps ih =>
      obtain ⟨hp, hps⟩ := List.forall_mem_cons.1 h
      rw [Finds, List.cons_append, List.foldr_cons, orElse?_misses hp]
      exact ih hps

theorem attempt_of_some {p : Parser (Option α)} {r : Option α × List Token} (h : p ts = some r) :
    attempt p ts = some r := by
  rw [attempt, h]

theorem attempt_of_none {p : Parser (Option α)} (h : p ts = none) : Misses (attempt p) ts := by
  rw [Misses, attempt, h]

theorem wouldFind_false {p : Parser (Option α)} (h : Misses p ts) :
    wouldFind p ts = some (false, ts) := by
  rw [wouldFind, h]

theorem exists_wouldFind (p : Parser (Option α)) (ts : List Token) :
    ∃ b, wouldFind p ts = some (b, ts) := by
  unfold wouldFind
  split
  · exact ⟨true, rfl⟩
  · exact ⟨false, rfl⟩

/-! ## Lists -/

theorem repeated_misses {item : Parser (Option α)} (h : Misses item ts) :
    repeated item ts = some ([], ts) := by
  rw [repeated, run_bind_of (run_get ts)]
  cases ts.length with
  | zero => rfl
  | succ n =>
      rw [repeatedFrom, run_bind_of h]
      rfl

/-- Items one after the other, each of which is found where the one before it ends. -/
inductive FindsAll (item : Parser (Option α)) : List Token → List α → List Token → Prop where
  | nil {ts : List Token} : Misses item ts → FindsAll item ts [] ts
  | cons {ts us rest : List Token} {a : α} {as : List α} :
      Finds item ts a us → us.length < ts.length → FindsAll item us as rest →
        FindsAll item ts (a :: as) rest

theorem repeatedFrom_of_findsAll {item : Parser (Option α)} {as : List α} {rest : List Token}
    (h : FindsAll item ts as rest) (steps : Nat) (hsteps : ts.length ≤ steps) :
    repeatedFrom item steps ts = some (as, rest) := by
  induction h generalizing steps with
  | nil hmiss =>
      cases steps with
      | zero => rfl
      | succ n =>
          rw [repeatedFrom, run_bind_of hmiss]
          rfl
  | cons hfind hlt _ ih =>
      cases steps with
      | zero => omega
      | succ n =>
          simp only [repeatedFrom]
          rw [run_bind_of hfind]
          simp only [run_bind, ih n (by omega), Option.bind_some, run_pure]

theorem repeated_of_findsAll {item : Parser (Option α)} {as : List α} {rest : List Token}
    (h : FindsAll item ts as rest) : repeated item ts = some (as, rest) := by
  rw [repeated, run_bind_of (run_get ts)]
  exact repeatedFrom_of_findsAll h _ le_rfl

/-- Items with commas between them, the last one before something that is no comma. -/
inductive FindsList (item : Parser (Option α)) : List Token → List α → List Token → Prop where
  | last {ts rest : List Token} {a : α} :
      Finds item ts a rest → next rest ≠ "," → FindsList item ts [a] rest
  | cons {ts us rest : List Token} {start stop : Nat} {a : α} {as : List α} :
      Finds item ts a (⟨.of .sign ",", start, stop, []⟩ :: us) → us.length < ts.length →
        FindsList item us as rest → FindsList item ts (a :: as) rest

theorem commaListFrom_of_findsList {note : List String → α → α} (hnote : ∀ a, note [] a = a)
    {item : Parser (Option α)} {as : List α} {rest : List Token} (h : FindsList item ts as rest)
    (steps : Nat) (hsteps : ts.length < steps) :
    commaListFrom note item steps ts = some (as, rest) := by
  induction h generalizing steps with
  | last hfind hend =>
      cases steps with
      | zero => omega
      | succ n =>
          simp only [commaListFrom]
          rw [run_bind_of hfind, run_bind_of (accept?_misses hend)]
          rfl
  | @cons ts us rest start stop a as hfind hlt _ ih =>
      cases steps with
      | zero => omega
      | succ n =>
          have hcomma := accept?_finds "," (l := .of .sign ",") rfl start stop us
          simp only [commaListFrom]
          rw [run_bind_of hfind, run_bind_of hcomma]
          simp only [run_bind, ih n (by omega), Option.bind_some, run_pure, hnote,
            Option.map_some, Option.toList_some, List.singleton_append]

theorem commaList_of_findsList {item : Parser (Option α)} {as : List α} {rest : List Token}
    (h : FindsList item ts as rest) : commaList item ts = some (as, rest) := by
  rw [commaList, run_bind_of (run_get ts)]
  exact commaListFrom_of_findsList (fun _ => rfl) h _ (Nat.lt_succ_self _)

theorem exprList_of_findsList {item : Parser (Option Expr)} {es : List Expr} {rest : List Token}
    (h : FindsList item ts es rest) : exprList item ts = some (es, rest) := by
  rw [exprList, run_bind_of (run_get ts)]
  exact commaListFrom_of_findsList (fun _ => rfl) h _ (Nat.lt_succ_self _)

/-- The tokens of items with commas between them. -/
def separated : List (List Lexeme) → List Lexeme
  | [] => []
  | [ls] => ls
  | ls :: ms :: rest => ls ++ .of .sign "," :: separated (ms :: rest)

/-- Items that are read wherever one of some tokens follows are read as a list. -/
theorem findsList_of_row {γ : Type} {F : List Lexeme} {lexemes : γ → List Lexeme} {value : γ → α}
    {item : Parser (Option α)} {xs : List γ} {rest : List Token}
    (hitem : ∀ x ∈ xs, ∀ us ts, Row us (lexemes x) → Opens F ts →
      Finds item (us ++ ts) (value x) ts)
    (hcomma : .of .sign "," ∈ F) (hxs : xs ≠ []) (hrow : Row us (separated (xs.map lexemes)))
    (hrest : Opens F rest) (hend : next rest ≠ ",") :
    FindsList item (us ++ rest) (xs.map value) rest := by
  induction xs generalizing us with
  | nil => exact absurd rfl hxs
  | cons x xs ih =>
      obtain ⟨hx, hitems⟩ := List.forall_mem_cons.1 hitem
      cases xs with
      | nil => exact .last (hx us rest hrow hrest) hend
      | cons y xs =>
          obtain ⟨vs, ws, rfl, hvs, hws⟩ := Row.of_append hrow
          cases hws with
          | @cons ws _ _ a b hws =>
              have hlist := ih hitems (List.cons_ne_nil _ _) hws
              have hfirst := hx vs (⟨.of .sign ",", a, b, []⟩ :: (ws ++ rest)) hvs
                (.cons hcomma a b [] _)
              rw [List.append_assoc]
              refine .cons hfirst ?_ hlist
              simp only [List.length_append, List.length_cons]
              omega

end Parser
end Sql
end QueryDesigner
