import QueryDesigner.Compile.Value
import QueryDesigner.Proofs.Text.Trim

/-!
# Quotes around a value

* `undoubled_doubled`, `unquoted_quoteValue` — what is quoted is found again;
* `InQuotes`, `stripQuotes_eq_self_iff` — nothing is stripped off a text without blanks at its ends
  that does not stand in quotes;
* `IsBare`, `formatBound_eq_formatValue_iff` — a bound is written as any other value just if
  stripping leaves it alone or it reads as a number;
* `mem_formatValue_iff` — writing a value neither makes nor loses other characters than quotes and
  blanks;
* `QuoteAtEnd`, `stripQuotes_formatValue` — stripping takes off what writing put around a value, and
  leaves bounds without quotes alone.
-/

namespace QueryDesigner

open Sql (doubled)

/-- Two like quotes, single or double, stand around a text. -/
def InQuotes (cs : List Char) : Prop :=
  ∃ quote inner, (quote = '\'' ∨ quote = '"') ∧ cs = quote :: (inner ++ [quote])

/-- A bound that stands for itself: a number, or a text without blanks or a pair of quotes around
it. -/
def IsBare (bound : String) : Prop :=
  Text.isNumeral (Text.trim bound) = true ∨
    (Text.Flush bound.toList ∧ ¬ InQuotes bound.toList)

variable {quote c : Char} {cs : List Char}

/-! ## Doubled quotes -/

theorem doubled_cons (quote c : Char) (cs : List Char) :
    doubled quote (c :: cs) =
      (if c = quote then [quote, quote] else [c]) ++ doubled quote cs := rfl

theorem undoubled_cons_of_ne (h : c ≠ quote) :
    undoubled quote (c :: cs) = c :: undoubled quote cs := by
  cases cs with
  | nil =>
      rfl
  | cons d rest =>
      rw [undoubled, if_neg fun hboth => h hboth.1]

theorem undoubled_doubled (quote : Char) (cs : List Char) :
    undoubled quote (doubled quote cs) = cs := by
  induction cs with
  | nil =>
      rfl
  | cons c rest ih =>
      rw [doubled_cons]
      split_ifs with hquote
      · subst hquote
        rw [List.cons_append, List.cons_append, List.nil_append, undoubled, if_pos ⟨rfl, rfl⟩, ih]
      · rw [List.cons_append, List.nil_append, undoubled_cons_of_ne hquote, ih]

theorem undoubled_sublist (quote : Char) (cs : List Char) : (undoubled quote cs).Sublist cs := by
  fun_induction undoubled quote cs with
  | case1 c d rest hboth ih =>
      rw [hboth.1]
      exact (ih.cons d).cons_cons quote
  | case2 c d rest _ ih => exact ih.cons_cons c
  | case3 => exact .refl _

/-- Doubling quotes makes no shorter text longer than a longer one. -/
theorem length_doubled_le (quote : Char) {ds : List Char} (h : ds.Sublist cs) :
    (doubled quote ds).length ≤ (doubled quote cs).length :=
  (h.flatMap _).length_le

theorem length_le_length_doubled (quote : Char) (cs : List Char) :
    cs.length ≤ (doubled quote cs).length := by
  have h := (undoubled_sublist quote (doubled quote cs)).length_le
  rwa [undoubled_doubled] at h

theorem mem_doubled_iff : c ∈ doubled quote cs ↔ c ∈ cs := by
  induction cs with
  | nil =>
      rfl
  | cons d rest ih =>
      rw [doubled_cons, List.mem_append, ih, List.mem_cons]
      split_ifs with hquote <;> simp [hquote]

/-! ## Quotes around a text -/

theorem unquoted_quoted (hquote : quote = '\'' ∨ quote = '"') (inner : List Char) :
    unquoted (quote :: (inner ++ [quote])) = undoubled quote inner := by
  cases inner with
  | nil =>
      rw [List.nil_append, unquoted, if_pos ⟨hquote, rfl⟩]
      rfl
  | cons d rest =>
      have hlast : (d :: (rest ++ [quote])).getLast? = some quote := by
        rw [← List.cons_append, List.getLast?_concat]
      rw [List.cons_append, unquoted, if_pos ⟨hquote, hlast⟩, ← List.cons_append,
        List.dropLast_concat]

theorem unquoted_of_not_inQuotes (h : ¬ InQuotes cs) : unquoted cs = cs := by
  unfold unquoted
  split
  · rename_i c d rest
    refine if_neg fun hboth => h ⟨c, (d :: rest).dropLast, hboth.1, ?_⟩
    rw [List.dropLast_append_getLast? c hboth.2]
  · rfl

theorem unquoted_quoteValue (cs : List Char) : unquoted (quoteValue cs) = cs := by
  rw [quoteValue, List.cons_append, unquoted_quoted (.inl rfl), undoubled_doubled]

theorem unquoted_sublist (cs : List Char) : (unquoted cs).Sublist cs := by
  by_cases h : InQuotes cs
  · rcases h with ⟨quote, inner, hquote, rfl⟩
    rw [unquoted_quoted hquote]
    exact ((undoubled_sublist quote inner).trans (List.sublist_append_left _ _)).cons quote
  · rw [unquoted_of_not_inQuotes h]

theorem length_unquoted_lt (h : InQuotes cs) : (unquoted cs).length < cs.length := by
  rcases h with ⟨quote, inner, hquote, rfl⟩
  have hle := (undoubled_sublist quote inner).length_le
  rw [unquoted_quoted hquote]
  simp only [List.length_cons, List.length_append, List.length_nil]
  omega

/-! ## Stripping -/

theorem trimChars_sublist (cs : List Char) : (Text.trimChars cs).Sublist cs :=
  (Text.dropBlanksEnd_prefix _).sublist.trans (List.dropWhile_sublist _)

theorem toList_stripQuotes (s : String) :
    (stripQuotes s).toList = unquoted (Text.trimChars s.toList) := by
  rw [stripQuotes, String.toList_ofList]

theorem stripQuotes_sublist (s : String) : (stripQuotes s).toList.Sublist s.toList := by
  rw [toList_stripQuotes]
  exact (unquoted_sublist _).trans (trimChars_sublist _)

theorem stripQuotes_eq_self_iff (s : String) :
    stripQuotes s = s ↔ Text.Flush s.toList ∧ ¬ InQuotes s.toList := by
  rw [← String.toList_inj, toList_stripQuotes]
  constructor
  · intro h
    -- neither step can have taken anything away
    have hlength := congrArg List.length h
    have htrim := (trimChars_sublist s.toList).length_le
    have hquotes := (unquoted_sublist (Text.trimChars s.toList)).length_le
    have hsame : Text.trimChars s.toList = s.toList :=
      (trimChars_sublist s.toList).eq_of_length (by omega)
    rw [hsame] at hlength
    exact ⟨hsame ▸ Text.flush_trimChars s.toList,
      fun hin => absurd (length_unquoted_lt hin) (by omega)⟩
  · rintro ⟨hflush, hquotes⟩
    rw [Text.trimChars_eq_self hflush, unquoted_of_not_inQuotes hquotes]

/-! ## Numerals -/

theorem isNumeral_of_quote (hquote : quote = '\'' ∨ quote = '"') (cs : List Char) :
    Text.isNumeral (String.ofList (quote :: cs)) = false := by
  have hd : Text.isDecimal quote = false := by
    rcases hquote with rfl | rfl <;> decide
  have hsign : Text.dropSign (quote :: cs) = quote :: cs := by
    rcases hquote with rfl | rfl <;> rfl
  rw [Text.isNumeral, String.toList_ofList, hsign, Text.isUnsignedNumeral,
    List.takeWhile_cons_of_neg (by simp [hd]), List.dropWhile_cons_of_neg (by simp [hd])]
  rcases hquote with rfl | rfl <;> rfl

theorem not_inQuotes_of_isNumeral {s : String} (h : Text.isNumeral s = true) :
    ¬ InQuotes s.toList := by
  rintro ⟨quote, inner, hquote, hs⟩
  have hnot := isNumeral_of_quote hquote (inner ++ [quote])
  rw [← hs, String.ofList_toList, h] at hnot
  cases hnot

/-- A number stands in no quotes, so only blanks come off. -/
theorem stripQuotes_of_isNumeral {s : String} (h : Text.isNumeral (Text.trim s) = true) :
    stripQuotes s = Text.trim s := by
  have hquotes := not_inQuotes_of_isNumeral h
  rw [Text.trim, String.toList_ofList] at hquotes
  rw [stripQuotes, unquoted_of_not_inQuotes hquotes, Text.trim]

theorem trim_trim (s : String) : Text.trim (Text.trim s) = Text.trim s :=
  Text.trim_eq_self (Text.flush_trim s)

/-! ## Values as they are written -/

theorem formatValue_of_isNumeral {s : String} (h : Text.isNumeral (Text.trim s) = true) :
    formatValue s = Text.trim s := if_pos h

theorem formatValue_of_not_isNumeral {s : String} (h : Text.isNumeral (Text.trim s) = false) :
    formatValue s = String.ofList (quoteValue s.toList) := by
  simp only [formatValue, h, Bool.false_eq_true, if_false]

theorem length_quoteValue (cs : List Char) :
    (quoteValue cs).length = (doubled '\'' cs).length + 2 := by
  simp [quoteValue]

theorem length_formatValue_le (s : String) :
    (formatValue s).toList.length ≤ (quoteValue s.toList).length := by
  cases h : Text.isNumeral (Text.trim s) with
  | true =>
      have htrim := (trimChars_sublist s.toList).length_le
      have hdouble := length_le_length_doubled '\'' s.toList
      rw [formatValue_of_isNumeral h, length_quoteValue, Text.trim, String.toList_ofList]
      omega
  | false =>
      rw [formatValue_of_not_isNumeral h, String.toList_ofList]

/-- Writing a value neither makes nor loses a character that is no quote and no blank. -/
theorem mem_formatValue_iff (hblank : Text.isBlank c = false) (hquote : c ≠ '\'') {s : String} :
    c ∈ (formatValue s).toList ↔ c ∈ s.toList := by
  cases h : Text.isNumeral (Text.trim s) with
  | true =>
      rw [formatValue_of_isNumeral h]
      exact Text.mem_trim_iff hblank
  | false =>
      rw [formatValue_of_not_isNumeral h, String.toList_ofList]
      simp [quoteValue, hquote, mem_doubled_iff]

/-- A bound is written as any other value just if it stands for itself. -/
theorem formatBound_eq_formatValue_iff (s : String) :
    formatBound s = formatValue s ↔ IsBare s := by
  unfold formatBound
  cases hnumeral : Text.isNumeral (Text.trim s) with
  | true =>
      have hsame : formatValue (Text.trim s) = formatValue s := by
        have htwice : Text.isNumeral (Text.trim (Text.trim s)) = true := by
          rw [trim_trim]
          exact hnumeral
        rw [formatValue_of_isNumeral htwice, formatValue_of_isNumeral hnumeral, trim_trim]
      rw [stripQuotes_of_isNumeral hnumeral]
      exact iff_of_true hsame (.inl hnumeral)
  | false =>
      rw [IsBare, hnumeral, ← stripQuotes_eq_self_iff, formatValue_of_not_isNumeral hnumeral]
      simp only [Bool.false_eq_true, false_or]
      constructor
      · intro hwritten
        cases hstripped : Text.isNumeral (Text.trim (stripQuotes s)) with
        | true =>
            -- a number has no quote in front
            rw [formatValue_of_isNumeral hstripped] at hwritten
            rw [hwritten, quoteValue, List.cons_append, isNumeral_of_quote (.inl rfl)] at hstripped
            cases hstripped
        | false =>
            rw [formatValue_of_not_isNumeral hstripped, String.ofList_inj] at hwritten
            have hinner := congrArg unquoted hwritten
            rw [unquoted_quoteValue, unquoted_quoteValue] at hinner
            exact String.toList_inj.1 hinner
      · intro hsame
        rw [hsame, formatValue_of_not_isNumeral hnumeral]

/-- Stripping makes what is written no longer. -/
theorem length_formatBound_le (s : String) :
    (formatBound s).toList.length ≤ (formatValue s).toList.length := by
  cases hnumeral : Text.isNumeral (Text.trim s) with
  | true =>
      rw [(formatBound_eq_formatValue_iff s).2 (.inl hnumeral)]
  | false =>
      have hdouble := length_doubled_le '\'' (stripQuotes_sublist s)
      refine (length_formatValue_le (stripQuotes s)).trans ?_
      rw [formatValue_of_not_isNumeral hnumeral, String.toList_ofList, length_quoteValue,
        length_quoteValue]
      omega

/-! ## Quotes taken off again -/

theorem flush_quoteValue (cs : List Char) : Text.Flush (quoteValue cs) where
  head := by
    intro c hc
    obtain rfl : '\'' = c := by simpa [quoteValue] using hc
    decide
  last := by
    intro c hc
    rw [Option.mem_def, quoteValue, List.getLast?_concat] at hc
    obtain rfl := Option.some.inj hc
    decide

theorem stripQuotes_between_blanks (before s after : String)
    (hbefore : ∀ c ∈ before.toList, Text.isBlank c = true)
    (hafter : ∀ c ∈ after.toList, Text.isBlank c = true) :
    stripQuotes (before ++ s ++ after) = stripQuotes s := by
  rw [stripQuotes, String.toList_append, String.toList_append,
    Text.trimChars_between_blanks hbefore hafter, stripQuotes]

theorem stripQuotes_quoteValue (s : String) :
    stripQuotes (String.ofList (quoteValue s.toList)) = s := by
  rw [stripQuotes, String.toList_ofList, Text.trimChars_eq_self (flush_quoteValue _),
    unquoted_quoteValue, String.ofList_toList]

/-- Nothing but blanks comes off just if no pair of quotes is left around what is trimmed. -/
theorem stripQuotes_eq_trim_iff (s : String) :
    stripQuotes s = Text.trim s ↔ ¬ InQuotes (Text.trim s).toList := by
  have hchars : (Text.trim s).toList = Text.trimChars s.toList := String.toList_ofList
  rw [hchars, ← String.toList_inj, toList_stripQuotes, hchars]
  refine ⟨fun hsame hin => ?_, unquoted_of_not_inQuotes⟩
  have hlt := length_unquoted_lt hin
  rw [hsame] at hlt
  exact lt_irrefl _ hlt

/-- A quote, single or double, is the first or the last character of a text. -/
def QuoteAtEnd (cs : List Char) : Prop :=
  ∃ quote, (quote = '\'' ∨ quote = '"') ∧ (cs.head? = some quote ∨ cs.getLast? = some quote)

theorem InQuotes.quoteAtEnd (h : InQuotes cs) : QuoteAtEnd cs := by
  rcases h with ⟨quote, inner, hquote, rfl⟩
  exact ⟨quote, hquote, .inl rfl⟩

/-- What is written for a value that is no number gives the value back when the quotes are stripped
off, also with blanks around it.  A text that has a quote at neither end once it is trimmed only
loses the blanks. -/
theorem stripQuotes_formatValue (s : String) :
    (Text.isNumeral (Text.trim s) = false →
      stripQuotes (formatValue s) = s ∧
        ∀ before after : String, (∀ c ∈ before.toList, Text.isBlank c = true) →
          (∀ c ∈ after.toList, Text.isBlank c = true) →
            stripQuotes (before ++ formatValue s ++ after) = s ∧
              formatBound (before ++ formatValue s ++ after) = formatValue s) ∧
      (¬ QuoteAtEnd (Text.trim s).toList →
        stripQuotes s = Text.trim s ∧ formatBound s = formatValue (Text.trim s)) := by
  constructor
  · intro hnumeral
    have hback : stripQuotes (formatValue s) = s := by
      rw [formatValue_of_not_isNumeral hnumeral, stripQuotes_quoteValue]
    refine ⟨hback, fun before after hbefore hafter => ?_⟩
    rw [formatBound, stripQuotes_between_blanks _ _ _ hbefore hafter, hback]
    exact ⟨rfl, rfl⟩
  · intro hends
    have hbare : stripQuotes s = Text.trim s :=
      (stripQuotes_eq_trim_iff s).2 fun hin => hends hin.quoteAtEnd
    rw [formatBound, hbare]
    exact ⟨rfl, rfl⟩

/-- Quotes of both kinds, alone and in runs, also next to the quotes that are written around; and a
name with one inside. -/
theorem stripQuotes_formatValue_of_runs_of_quotes :
    (Text.isNumeral (Text.trim "''\"a'' \"'") = false ∧
      (∀ c ∈ "\n ".toList, Text.isBlank c = true) ∧ (∀ c ∈ "\t".toList, Text.isBlank c = true) ∧
        stripQuotes "\n '''''\"a'''' \"'''\t" = "''\"a'' \"'") ∧
      ¬ QuoteAtEnd (Text.trim " O'Brien ").toList ∧ stripQuotes " O'Brien " = "O'Brien" := by
  have hnumeral : Text.isNumeral (Text.trim "''\"a'' \"'") = false := by decide +kernel
  have hbefore : ∀ c ∈ "\n ".toList, Text.isBlank c = true := List.all_eq_true.1 (by decide)
  have hafter : ∀ c ∈ "\t".toList, Text.isBlank c = true := List.all_eq_true.1 (by decide)
  have hwritten : "\n " ++ formatValue "''\"a'' \"'" ++ "\t" = "\n '''''\"a'''' \"'''\t" := by
    decide +kernel
  have htrim : Text.trim " O'Brien " = "O'Brien" := by decide +kernel
  have hends : ¬ QuoteAtEnd (Text.trim " O'Brien ").toList := by
    rw [htrim]
    rintro ⟨quote, rfl | rfl, h⟩ <;> revert h <;> decide
  have hback := ((stripQuotes_formatValue "''\"a'' \"'").1 hnumeral).2 _ _ hbefore hafter
  have hbare := (stripQuotes_formatValue " O'Brien ").2 hends
  rw [hwritten] at hback
  rw [htrim] at hbare
  exact ⟨⟨hnumeral, hbefore, hafter, hback.1⟩, hends, hbare.1⟩

end QueryDesigner
