import LogSieve.Proofs.Search.Sorting

/-!
# Refining a search

A search in the results of another finds what a search for both conditions finds, in the same order
(`refined_search_is_conjunction`). This rests on the sort: it is stable, and records in order are
determined by how those that tie stand (`eq_of_filter_tied_eq`), so that it makes no difference
whether records are sorted first or filtered first (`sortRecords_filter`).
-/

namespace LogSieve

variable {R : Type} [HasFields R] {schema : Schema}

/-! ### Records that tie -/

/-- Records in order are led by one that comes after none of them. -/
theorem ordered_head {first record : R} {rest : List R}
    (h : (first :: rest).Pairwise fun a b => ordered schema a b) (hmem : record ∈ first :: rest) :
    ordered schema first record := by
  rcases List.mem_cons.mp hmem with rfl | hrest
  · exact ordered_of_tied (tied_self _)
  · exact List.rel_of_pairwise_cons h hrest

theorem mem_of_filter_tied_eq {records others : List R} {record : R}
    (h : records.filter (tied schema record) = others.filter (tied schema record))
    (hmem : record ∈ records) : record ∈ others := by
  have hfilter : record ∈ records.filter (tied schema record) :=
    List.mem_filter.mpr ⟨hmem, tied_self record⟩
  rw [h] at hfilter
  exact (List.mem_filter.mp hfilter).1

/-- **Records in order are determined by their ties**: two lists in order are the same if the
records that tie with a given one are the same in both, in the same order. -/
theorem eq_of_filter_tied_eq {records others : List R}
    (hrecords : records.Pairwise fun a b => ordered schema a b)
    (hothers : others.Pairwise fun a b => ordered schema a b)
    (h : ∀ record, records.filter (tied schema record) = others.filter (tied schema record)) :
    records = others := by
  induction records generalizing others with
  | nil =>
    refine (List.eq_nil_iff_forall_not_mem.mpr fun record hmem => ?_).symm
    exact List.not_mem_nil (mem_of_filter_tied_eq (h record).symm hmem)
  | cons a records ih =>
    cases others with
    | nil => exact absurd (mem_of_filter_tied_eq (h a) List.mem_cons_self) List.not_mem_nil
    | cons b others =>
      -- each head is in the other list, so that neither comes after the other
      have hab : ordered schema a b :=
        ordered_head hrecords (mem_of_filter_tied_eq (h b).symm List.mem_cons_self)
      have hba : ordered schema b a :=
        ordered_head hothers (mem_of_filter_tied_eq (h a) List.mem_cons_self)
      have hheads := h a
      rw [List.filter_cons_of_pos (tied_self a), List.filter_cons_of_pos (tied_of_ordered hab hba),
        List.cons.injEq] at hheads
      obtain rfl := hheads.1
      refine congrArg (a :: ·) (ih hrecords.of_cons hothers.of_cons fun record => ?_)
      have hboth := h record
      by_cases htied : tied schema record a
      · rw [List.filter_cons_of_pos htied, List.filter_cons_of_pos htied] at hboth
        exact (List.cons.inj hboth).2
      · rwa [List.filter_cons_of_neg htied, List.filter_cons_of_neg htied] at hboth

/-- **Sorting commutes with filtering.** -/
theorem sortRecords_filter (test : R → Bool) (records : List R) :
    sortRecords schema (records.filter test) = (sortRecords schema records).filter test := by
  refine eq_of_filter_tied_eq (sortRecords_pairwise _) ((sortRecords_pairwise _).filter _)
    fun record => ?_
  have hswap (items : List R) : (items.filter test).filter (tied schema record) =
      (items.filter (tied schema record)).filter test := by
    simp only [List.filter_filter, Bool.and_comm]
  calc (sortRecords schema (records.filter test)).filter (tied schema record)
      = (records.filter test).filter (tied schema record) := filter_tied_sortRecords record _
    _ = (records.filter (tied schema record)).filter test := hswap records
    _ = ((sortRecords schema records).filter (tied schema record)).filter test := by
      rw [filter_tied_sortRecords]
    _ = ((sortRecords schema records).filter test).filter (tied schema record) := (hswap _).symm

/-! ### One search after another -/

/-- A search keeps those of the sorted records that meet the condition. -/
theorem execute_eq_filter_sortRecords (condition : Condition) (records : List R) :
    execute schema condition records =
      (sortRecords schema records).filter fun record => condition (HasFields.field record) :=
  sortRecords_filter _ records

/-- A search in what a search has found keeps what meets both conditions. -/
theorem execute_refined (p q : Condition) (records : List R) :
    execute schema q (execute schema p records) = execute schema (.all [p, q]) records := by
  have hsorted : sortRecords schema (execute schema p records) = execute schema p records :=
    sortRecords_of_pairwise (sortRecords_pairwise _)
  rw [execute_eq_filter_sortRecords q, hsorted, execute_eq_filter_sortRecords p,
    execute_eq_filter_sortRecords, List.filter_filter]
  refine List.filter_congr fun record _ => ?_
  simp [Condition.all, Bool.and_comm]

/-- Among what a search has found it finds everything, in the same order. -/
theorem execute_execute (condition : Condition) (records : List R) :
    execute schema condition (execute schema condition records) =
      execute schema condition records := by
  have hsame : Condition.all [condition, condition] = condition := by
    funext fields
    simp [Condition.all]
  rw [execute_refined, hsame]

/-- **Refining a search is searching for the conjunction**, whichever of the two conditions comes
first: the results are the same records in the same order, those that tie included. A search finds
those of all records, sorted, that meet its condition, and finds the same again in its own
results. -/
theorem refined_search_is_conjunction (schema : Schema) (p q : Condition) (records : List R) :
    execute schema q (execute schema p records) = execute schema (.all [p, q]) records ∧
    execute schema p (execute schema q records) = execute schema (.all [p, q]) records ∧
    execute schema p records =
      (sortRecords schema records).filter (fun record => p (HasFields.field record)) ∧
    execute schema p (execute schema p records) = execute schema p records := by
  have hcomm : Condition.all [q, p] = Condition.all [p, q] := by
    funext fields
    simp [Condition.all, Bool.and_comm]
  refine ⟨execute_refined p q records, ?_, execute_eq_filter_sortRecords p records,
    execute_execute p records⟩
  rw [execute_refined, hcomm]

end LogSieve
