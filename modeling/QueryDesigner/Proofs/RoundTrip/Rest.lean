import QueryDesigner.Proofs.RoundTrip.Conditions

/-!
# Groups, order and paging of a plain query are read back

* `Text.readInteger?_toString` — a count that is written is read as what it is;
* `Reading.run_readGroups_of_reads`, `Reading.run_readOrder_of_reads` — columns that differ are taken
  over one after the other;
* `Reading.run_readPaging_of_page` — and so are the counts.
-/

namespace QueryDesigner

/-! ## Counts -/

namespace Text

theorem joinedDigits?_eq_some {digit : Char → Bool} (hmark : digit '_' = false) {cs : List Char}
    (hne : cs ≠ []) (hcs : ∀ c ∈ cs, digit c = true) : joinedDigits? digit cs = some cs := by
  induction cs with
  | nil => exact absurd rfl hne
  | cons c rest ih =>
      obtain ⟨hc, hrest⟩ := List.forall_mem_cons.1 hcs
      cases rest with
      | nil => rw [joinedDigits?, if_pos hc]
      | cons d rest =>
          have hd : d ≠ '_' := by
            rintro rfl
            rw [hrest '_' List.mem_cons_self] at hmark
            cases hmark
          rw [joinedDigits?, if_pos hc, ih (List.cons_ne_nil d rest) hrest, Option.map_some]
          · exact fun hnil => List.cons_ne_nil d rest hnil
          · exact fun rest' heq => hd (List.cons.inj heq).1

/-- A count is read as what it is. -/
theorem readInteger?_toString (n : Nat) : readInteger? (toString n) = some (n : Int) := by
  have hdigits : (toString n).toList = Nat.toDigits 10 n := by simp [Nat.repr]
  have htrim : trimChars (toString n).toList = (toString n).toList :=
    trimChars_eq_self (Sql.Numeral.isWhole_ofNat n).flush
  have hsign : dropSign (toString n).toList = (toString n).toList :=
    (Sql.Numeral.ofNat n).dropSign_text
  have hjoined : joinedDigits? isDecimal (toString n).toList = some (toString n).toList := by
    obtain ⟨c, cs, hchars⟩ := Sql.exists_cons_toString n
    refine joinedDigits?_eq_some (by decide) ?_ (Sql.forall_isDecimal_toString n)
    rw [hchars]
    exact List.cons_ne_nil c cs
  have hpositive : isNegated (toString n).toList = false := by
    obtain ⟨c, cs, hchars⟩ := Sql.exists_cons_toString n
    have hc := Sql.forall_isDecimal_toString n c (by rw [hchars]; exact List.mem_cons_self)
    rw [hchars]
    unfold isNegated
    split
    · rename_i heq
      obtain rfl := (List.cons.inj heq).1
      cases hc
    · rfl
  rw [readInteger?, htrim, hsign, hjoined, Option.map_some, hpositive, hdigits,
    decimalNumber_toDigits]
  rfl

end Text

namespace Reading

variable {d : Draft}

/-! ## Groups -/

theorem run_readGroup_of_reads {r : Sql.Ref} (h : d.ReadsRef r)
    (hnew : r.text ∉ d.canvas.query.groupBy) :
    (readGroup r.expr).run d = .ok () (withQuery d
      { d.canvas.query with groupBy := d.canvas.query.groupBy ++ [r.text] }) := by
  unfold readGroup
  rw [r.column?_expr]
  dsimp only
  rw [EStateM.run_bind, run_columnRef_of_reads h]
  dsimp only
  rw [run_edit, Edit.run_addGroup, if_neg (by simpa using hnew)]
  rfl

/-- Groups that differ are taken over one after the other. -/
theorem run_readGroups_of_reads {groups : List Sql.Ref} (hnone : d.canvas.query.groupBy = [])
    (h : ∀ r ∈ groups, d.ReadsRef r) (hnodup : (groups.map Sql.Ref.text).Nodup) :
    EStateM.run (forM (Sql.groupingOf groups) readGroups) d = .ok () (withQuery d
      { d.canvas.query with groupBy := groups.map Sql.Ref.text }) := by
  have hloop := run_forIn_of_split (f := Sql.Ref.expr) (x := readGroup) (l := groups)
    (s := fun rs => withQuery d { d.canvas.query with groupBy := rs.map Sql.Ref.text })
    fun before r after hsplit => by
      have hr : r ∈ groups := by
        rw [hsplit]
        exact List.mem_append_right _ List.mem_cons_self
      have hnew : r.text ∉ before.map Sql.Ref.text := notMem_map_of_split hnodup hsplit
      have hreads : (withQuery d
          { d.canvas.query with groupBy := before.map Sql.Ref.text }).ReadsRef r :=
        (h r hr).withQuery rfl
      rw [run_readGroup_of_reads hreads hnew]
      simp [withQuery]
  have hempty : withQuery d { d.canvas.query with groupBy := [].map Sql.Ref.text } = d := by
    rw [List.map_nil, ← hnone]
    rfl
  cases groups with
  | nil => rw [hempty]; rfl
  | cons r rest =>
      have hreadGroups : (readGroups ⟨"", (r :: rest).map Sql.Ref.expr, [], false⟩).run d = .ok ()
          (withQuery d { d.canvas.query with groupBy := (r :: rest).map Sql.Ref.text }) := by
        unfold readGroups
        rw [EStateM.run_bind]
        rw [hempty] at hloop
        rw [hloop]
        rfl
      exact hreadGroups

/-! ## Order -/

theorem run_readOrderItem_of_reads {e : Sql.SortEntry} (h : d.ReadsRef e.column)
    (hnew : d.canvas.query.findOrder? e.column.text = none) :
    (readOrderItem e.item).run d = .ok () (withQuery d
      { d.canvas.query with orderBy := d.canvas.query.orderBy ++ [e.order] }) := by
  have hdirection : (if e.item.isDescending = some true then Direction.descending else .ascending) =
      e.order.direction := by
    simp [Sql.SortEntry.item, Sql.SortEntry.order]
  unfold readOrderItem
  rw [show e.item.operand.column? = some e.column.parts from e.column.column?_expr]
  dsimp only
  rw [EStateM.run_bind, run_columnRef_of_reads h]
  dsimp only
  have hadd : (edit (Edit.addOrder e.column.text e.order.direction)).run d =
      .ok e.order (withQuery d
        { d.canvas.query with orderBy := d.canvas.query.orderBy ++ [e.order] }) := by
    rw [run_edit, Edit.addOrder, Edit.run_addOrderWith, hnew]
    rfl
  rw [hdirection, Functor.discard, map_const, Function.comp_apply, EStateM.run_map, hadd]
  rfl

/-- Sort entries with different columns are taken over one after the other. -/
theorem run_readOrder_of_reads {entries : List Sql.SortEntry} (hnone : d.canvas.query.orderBy = [])
    (h : ∀ e ∈ entries, d.ReadsRef e.column)
    (hnodup : ((entries.map Sql.SortEntry.order).map Order.column).Nodup) :
    (readOrder (entries.map Sql.SortEntry.item)).run d = .ok () (withQuery d
      { d.canvas.query with orderBy := entries.map Sql.SortEntry.order }) := by
  rw [List.map_map] at hnodup
  have hloop := run_forIn_of_split (f := Sql.SortEntry.item) (x := readOrderItem) (l := entries)
    (s := fun es => withQuery d { d.canvas.query with orderBy := es.map Sql.SortEntry.order })
    fun before e after hsplit => by
      have he : e ∈ entries := by
        rw [hsplit]
        exact List.mem_append_right _ List.mem_cons_self
      have hnew : Query.findOrder?
          { d.canvas.query with orderBy := before.map Sql.SortEntry.order } e.column.text = none := by
        refine List.find?_eq_none.2 fun o ho heq => notMem_map_of_split hnodup hsplit ?_
        rw [← List.map_map]
        exact List.mem_map.2 ⟨o, ho, beq_iff_eq.1 heq⟩
      have hreads : (withQuery d
          { d.canvas.query with orderBy := before.map Sql.SortEntry.order }).ReadsRef e.column :=
        (h e he).withQuery rfl
      rw [run_readOrderItem_of_reads hreads hnew]
      simp [withQuery]
  have hempty : withQuery d { d.canvas.query with orderBy := [].map Sql.SortEntry.order } = d := by
    rw [List.map_nil, ← hnone]
    rfl
  unfold readOrder
  rw [EStateM.run_bind]
  rw [hempty] at hloop
  rw [hloop]
  rfl

/-! ## Paging -/

theorem run_readCount_ofNat (paging : Paging) (n : Nat) :
    (readCount paging (.literal (.numeral (.ofNat n)))).run d =
      .ok () (withQuery d (d.canvas.query.withPaging paging (some n))) := by
  have hcount : wholeNumber? (.literal (.numeral (.ofNat n))) = some (n : Int) :=
    Text.readInteger?_toString n
  unfold readCount
  rw [hcount]
  dsimp only
  rw [run_edit, Edit.run_setPaging, Edit.countOf, if_neg (by omega), Int.toNat_natCast]
  rfl

/-- The limit is read and, only together with it, the offset. -/
theorem run_readPaging_of_page {p : Sql.PlainSelect} {limit offset : Option Nat}
    (hp : p.page = limit.map fun n => ⟨.ofNat n, offset.map .ofNat⟩)
    (hlimit : d.canvas.query.limit = none) (hoffset : d.canvas.query.offset = none) :
    (readPaging p.tail).run d = .ok () (withQuery d
      { d.canvas.query with limit, offset := if limit.isNone then none else offset }) := by
  rw [readPaging_eq, p.limit_tail, p.offset_tail, hp]
  cases limit with
  | none =>
      have hsame : ∀ q : Query, q.limit = none → q.offset = none →
          ({ q with limit := none, offset := none } : Query) = q := by
        rintro ⟨_, _, _, _, _, _, _, _⟩ ⟨⟩ ⟨⟩
        rfl
      exact congrArg (fun q => EStateM.Result.ok () (withQuery d q))
        (hsame d.canvas.query hlimit hoffset).symm
  | some n =>
      simp only [Option.map_some, Option.bind_some, Option.forM_some]
      rw [EStateM.run_bind, run_readCount_ofNat]
      cases offset with
      | none =>
          have hsame : ∀ q : Query, q.offset = none →
              q.withPaging .limit (some n) = { q with limit := some n, offset := none } := by
            rintro ⟨_, _, _, _, _, _, _, _⟩ ⟨⟩
            rfl
          exact congrArg (fun q => EStateM.Result.ok () (withQuery d q))
            (hsame d.canvas.query hoffset)
      | some m =>
          simp only [Option.map_some, Option.forM_some]
          rw [run_readCount_ofNat]
          rfl

end Reading

end QueryDesigner
