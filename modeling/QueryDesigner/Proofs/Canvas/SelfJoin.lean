import QueryDesigner.Proofs.Canvas.Outcome
import QueryDesigner.Proofs.Invariant
import QueryDesigner.Proofs.Query.FreeNumber

/-!
# A table that comes in again and again

* `Edit.addForced` — tables added one after the other, each of them even if its name is taken;
* `Canvas.Spelled` — the spellings under which a table of one name comes in;
* `NumberedUp` — aliases that carry one number after the other, in ascending order;
* `Edit.run_addForced_of_used` — a taken name gets such aliases, from the number that is due;
* `Canvas.self_join_numbers_ascend` — how an alias is found, and the aliases of a whole run.
-/

namespace QueryDesigner

open Query (numbered Retries)

namespace Edit

/-- Adds tables one after the other, each of them even if its name is taken. -/
def addForced (spellings : List String) : Edit (List TableRef) :=
  spellings.mapM fun s => addTable s true

end Edit

namespace Canvas

/-- What is not blank and names the table in the canvas's own spelling or in another one. -/
def Spelled (c : Canvas) (name s : String) : Prop := Text.trim s ≠ "" ∧ c.nameFor s = name

instance decidableSpelled (c : Canvas) (name s : String) : Decidable (c.Spelled name s) :=
  inferInstanceAs (Decidable (_ ∧ _))

end Canvas

/-- Tables of one name, and the numbers in the aliases that they have, which ascend. -/
structure NumberedUp (name : String) (tables : List TableRef) (numbers : List Nat) : Prop where
  names : ∀ t ∈ tables, t.name = name
  aliases : tables.filterMap TableRef.aliasName = numbers.map (numbered name)
  ascending : numbers.Pairwise (· < ·)

namespace NumberedUp

variable {name : String} {table : TableRef} {tables : List TableRef} {n : Nat} {numbers : List Nat}

theorem nil : NumberedUp name [] [] where
  names := by simp
  aliases := rfl
  ascending := .nil

theorem cons_plain (h : NumberedUp name tables numbers) (hname : table.name = name)
    (hplain : table.aliasName = none) : NumberedUp name (table :: tables) numbers where
  names := List.forall_mem_cons.2 ⟨hname, h.names⟩
  aliases := by rw [List.filterMap_cons_none hplain, h.aliases]
  ascending := h.ascending

theorem cons_numbered (h : NumberedUp name tables numbers) (hname : table.name = name)
    (hnumber : table.aliasName = some (numbered name n)) (hlow : ∀ m ∈ numbers, n < m) :
    NumberedUp name (table :: tables) (n :: numbers) where
  names := List.forall_mem_cons.2 ⟨hname, h.names⟩
  aliases := by rw [List.filterMap_cons_some hnumber, h.aliases, List.map_cons]
  ascending := h.ascending.cons hlow

end NumberedUp

/-! ## One table -/

variable {c : Canvas} {name s : String} {spellings : List String}

namespace Canvas

theorem usesName_withTable_incoming (c : Canvas) (name : String) :
    (c.withTable (c.incoming name)).query.usesName name = true := by
  simp [Query.usesName, withTable, Query.withTable, incoming]

theorem aliasName_incoming (h : c.query.usesName name = true) :
    (c.incoming name).aliasName = some (numbered name (c.query.nextNumber name)) := by
  rw [incoming, h]
  rfl

theorem nextNumber_lt_withTable (h : c.query.usesName name = true) :
    c.query.nextNumber name < (c.withTable (c.incoming name)).query.nextNumber name := by
  refine Query.nextNumber_lt rfl rfl ?_
  simp [TableRef.key, aliasName_incoming h, aliasOf, Query.numbered_ne_empty]

end Canvas

/-! ## One table after the other -/

namespace Edit

theorem run_addTable_of_spelled (h : c.Spelled name s) :
    (addTable s true).run c = .ok (c.incoming name) (c.withTable (c.incoming name)) := by
  rw [run_addTable, if_neg h.1, h.2]
  simp

theorem run_addForced_cons {tables : List TableRef} {c' : Canvas} (h : c.Spelled name s) :
    (addForced spellings).run (c.withTable (c.incoming name)) = .ok tables c' →
      (addForced (s :: spellings)).run c = .ok (c.incoming name :: tables) c' := by
  intro hrest
  rw [addForced] at hrest ⊢
  rw [List.mapM_cons, EStateM.run_bind, run_addTable_of_spelled h]
  dsimp only
  rw [EStateM.run_bind, hrest]
  rfl

/-- A name that is taken gets one alias after the other, and their numbers ascend from the one that
is due. -/
theorem run_addForced_of_used :
    c.query.usesName name = true → (∀ s ∈ spellings, c.Spelled name s) →
      ∃ tables c' numbers, (addForced spellings).run c = .ok tables c' ∧
        NumberedUp name tables numbers ∧ numbers.length = spellings.length ∧
        ∀ n ∈ numbers, c.query.nextNumber name ≤ n := by
  intro hused hspellings
  induction spellings generalizing c with
  | nil =>
      exact ⟨[], c, [], rfl, .nil, rfl, by simp⟩
  | cons s rest ih =>
      rcases List.forall_mem_cons.1 hspellings with ⟨hs, hrest⟩
      rcases ih (c.usesName_withTable_incoming name) hrest with
        ⟨tables, c', numbers, hrun, hup, hlength, hleast⟩
      -- the numbers to come are all higher than the one that this table gets
      have hlow : ∀ n ∈ numbers, c.query.nextNumber name < n := by
        intro n hn
        exact (Canvas.nextNumber_lt_withTable hused).trans_le (hleast n hn)
      refine ⟨c.incoming name :: tables, c', c.query.nextNumber name :: numbers,
        run_addForced_cons hs hrun, hup.cons_numbered rfl (Canvas.aliasName_incoming hused) hlow,
        congrArg (· + 1) hlength, List.forall_mem_cons.2 ⟨le_rfl, ?_⟩⟩
      intro n hn
      exact (hlow n hn).le

end Edit

namespace Canvas

/-- The search for the alias of one more table ends, whatever the tables are.  It ends on the least
number above the count of the tables of that name that makes no key.  Tables that come in under one
name, one after the other, get numbers that ascend; where the name was not taken before, one of them
takes it and gets no number. -/
theorem self_join_numbers_ascend (c : Canvas) (name : String) :
    (WellFounded fun n m => Retries c.query.tableKeys name m n) ∧
      (∃ n, c.query.selfJoinAlias name = numbered name n ∧
        Relation.ReflTransGen (Retries c.query.tableKeys name)
          (c.query.tables.countP (fun t => t.name == name) + 1) n ∧
        IsLeast {m | c.query.tables.countP (fun t => t.name == name) + 1 ≤ m ∧
          numbered name m ∉ c.query.tableKeys} n) ∧
      ∀ spellings, (∀ s ∈ spellings, c.Spelled name s) →
        ∃ tables c' numbers, (Edit.addForced spellings).run c = .ok tables c' ∧
          NumberedUp name tables numbers ∧
          numbers.length = spellings.length - (if c.query.usesName name then 0 else 1) := by
  refine ⟨Query.wellFounded_retries _ name, ⟨c.query.nextNumber name, rfl,
    Query.retries_freeNumber _ name _, Query.isLeast_freeNumber _ name _⟩, ?_⟩
  intro spellings hspellings
  cases hused : c.query.usesName name with
  | true =>
      rcases Edit.run_addForced_of_used hused hspellings with
        ⟨tables, c', numbers, hrun, hup, hlength, -⟩
      exact ⟨tables, c', numbers, hrun, hup, hlength⟩
  | false =>
      cases spellings with
      | nil =>
          exact ⟨[], c, [], rfl, .nil, rfl⟩
      | cons s rest =>
          -- the first table takes the name, and the others come in under a taken one
          rcases List.forall_mem_cons.1 hspellings with ⟨hs, hrest⟩
          rcases Edit.run_addForced_of_used (c.usesName_withTable_incoming name) hrest with
            ⟨tables, c', numbers, hrun, hup, hlength, -⟩
          have hplain : (c.incoming name).aliasName = none := by
            rw [incoming, hused]
            rfl
          exact ⟨c.incoming name :: tables, c', numbers, Edit.run_addForced_cons hs hrun,
            hup.cons_plain rfl hplain, hlength⟩

/-- Two other tables have keys that look like aliases of this one.  The search passes one key when
the first alias is looked for, and the other key when the second one is. -/
theorem self_join_numbers_ascend_of_taken_keys :
    let catalog : Catalog := { tables := [{ name := "staff" }] }
    let c : Canvas :=
      { query :=
          { tables :=
              [⟨"staff", some "boss", 0⟩, ⟨"rooms", some "staff_2", 1⟩,
                ⟨"desks", some "staff_4", 2⟩] }
        catalog := some catalog
        nextOrdinal := 3 }
    (∀ s ∈ [" STAFF", "staff"], c.Spelled "staff" s) ∧
      ∃ tables c', (Edit.addForced [" STAFF", "staff"]).run c = .ok tables c' ∧
        NumberedUp "staff" tables [3, 5] := by
  intro catalog c
  have hspelled : ∀ s ∈ [" STAFF", "staff"], c.Spelled "staff" s := by
    refine List.forall_mem_cons.2 ⟨?_, List.forall_mem_singleton.2 ?_⟩ <;> decide +kernel
  rcases (self_join_numbers_ascend c "staff").2.2 _ hspelled with
    ⟨tables, c', numbers, hrun, hup, -⟩
  have haliases : tables.filterMap TableRef.aliasName = [3, 5].map (numbered "staff") := by
    have hresult : (Edit.addForced [" STAFF", "staff"]).run c = .ok
        [⟨"staff", some "staff_3", 3⟩, ⟨"staff", some "staff_5", 4⟩]
        (finalState ((Edit.addForced [" STAFF", "staff"]).run c)) := by
      decide +kernel
    obtain ⟨rfl, -⟩ := EStateM.Result.ok.inj (hrun.symm.trans hresult)
    decide +kernel
  obtain rfl : numbers = [3, 5] :=
    List.map_injective_iff.2 (Query.numbered_injective "staff") (hup.aliases.symm.trans haliases)
  exact ⟨hspelled, tables, c', hrun, hup⟩

end Canvas

end QueryDesigner
