import LogSieve.Proofs.Number.Rounding
import LogSieve.Proofs.Search.Sorting

/-!
# Log records in order of their ids

Log records are sorted by id, but ids are compared as doubles. Rounding does not turn two ids
around, so that the order of the results can only fail where two of them are one double: there the
records keep the order of the store (`advanced_sorted_by_id`). It cannot fail up to 2^53.
-/

namespace LogSieve

/-- The records that meet a condition. -/
def matching {R : Type} [HasFields R] (condition : Condition) (records : List R) : List R :=
  records.filter fun record => condition (HasFields.field record)

/-- A search with an accepted filter in a list of records has a result. -/
theorem Search.advanced_ofList [RegexEngine] {R : Type} [HasFields R] {schema : Schema}
    {limit : Nat} {raw : Json} {condition : Condition}
    (h : Compiler.compileJson { schema, limit } raw = .ok condition)
    (records : List R) :
    Id.run (Search.advanced (Store.ofList records) schema limit raw) =
      .ok (sortRecords schema (matching condition records)) := by
  rw [Search.advanced, h]
  rfl

namespace LogRecord

/-- The double that the id of a record is compared as. -/
def idKey (record : LogRecord) : Double := Double.ofInt record.id.toInt

theorem sortValues_schema (record : LogRecord) :
    sortValues schema record = [some (.int record.id.toInt)] := rfl

theorem recordOrder_schema (a b : LogRecord) :
    recordOrder schema a b = compare a.idKey.totalKey b.idKey.totalKey := by
  rw [recordOrder, sortValues_schema, sortValues_schema]
  simp only [compareKeys, Ordering.then_eq]
  rfl

theorem ordered_schema_iff {a b : LogRecord} :
    ordered schema a b ↔ a.idKey.totalKey ≤ b.idKey.totalKey := by
  rw [ordered, recordOrder_schema, Int.isLE_compare]

theorem tied_schema_iff {a b : LogRecord} : tied schema a b ↔ a.idKey = b.idKey := by
  rw [tied_iff, recordOrder_schema, Int.compare_eq_eq, Double.totalKey_inj]

/-- Records in order are in order of their ids, unless these are one double. -/
theorem id_le_of_ordered {a b : LogRecord} (h : ordered schema a b) (hne : a.idKey ≠ b.idKey) :
    a.id ≤ b.id := by
  rw [Int64.le_iff_toInt_le]
  refine Int.not_lt.mp fun hlt => hne ?_
  have hle : b.idKey.totalKey ≤ a.idKey.totalKey :=
    Double.totalKey_ofInt_mono (Int.le_of_lt hlt)
  exact Double.totalKey_inj.mp (Int.le_antisymm (ordered_schema_iff.mp h) hle)

/-- The ids ascend after sorting exactly if they do so before among those that are one double. -/
theorem pairwise_id_sortRecords_iff {records : List LogRecord} :
    (sortRecords schema records).Pairwise (fun a b => a.id ≤ b.id) ↔
      records.Pairwise fun a b => a.idKey = b.idKey → a.id ≤ b.id := by
  constructor
  · intro h
    refine List.pairwise_of_forall_sublist fun {a b} hab heq => ?_
    have hpair : [a, b].Pairwise fun a b => ordered schema a b :=
      List.pairwise_pair.mpr (ordered_of_tied (tied_schema_iff.mpr heq))
    exact List.pairwise_iff_forall_sublist.mp h (sublist_sortRecords hpair hab)
  · intro h
    refine List.pairwise_of_forall_sublist fun {a b} hab => ?_
    have hordered := List.pairwise_iff_forall_sublist.mp (sortRecords_pairwise records) hab
    by_cases heq : a.idKey = b.idKey
    · have hstored := pair_sublist_of_tied (tied_schema_iff.mpr heq) hab
      exact List.pairwise_iff_forall_sublist.mp h hstored heq
    · exact id_le_of_ordered hordered heq

/-- The order of the store does not matter exactly if no two ids are one double. -/
theorem sortRecords_perm_iff {condition : Condition} {records : List LogRecord}
    (hdistinct : records.Pairwise fun a b => a.id ≠ b.id) :
    (∀ stored : List LogRecord, stored.Perm records →
      sortRecords schema (matching condition stored) =
        sortRecords schema (matching condition records)) ↔
      (matching condition records).Pairwise fun a b => a.idKey ≠ b.idKey := by
  constructor
  · intro h
    have hreverse := h records.reverse records.reverse_perm
    rw [matching, List.filter_reverse] at hreverse
    have hnodup : (matching condition records).Nodup :=
      (hdistinct.imp fun hne heq => hne (congrArg id heq)).filter _
    exact (not_tied_of_sortRecords_reverse hnodup hreverse).imp fun hnot heq =>
      hnot (tied_schema_iff.mpr heq)
  · intro h stored hperm
    exact sortRecords_eq_of_perm (hperm.filter _) (h.imp fun hne ht => hne (tied_schema_iff.mp ht))

/-- Up to 2^53 in magnitude ids are one double only if they are one. -/
theorem idKey_inj {a b : LogRecord} (ha : a.id.toInt.natAbs ≤ 2 ^ 53)
    (hb : b.id.toInt.natAbs ≤ 2 ^ 53) : a.idKey = b.idKey ↔ a.id = b.id := by
  rw [idKey, idKey, Double.ofInt_inj ha hb, Int64.toInt_inj]

/-- **Where log records are found in order of their ids.** A search with an accepted filter has a
result. Its ids ascend exactly if those that are one double do so in the store. If the stored ids
are distinct, the result is the same for every order of the store exactly if no two of the
matching ids are one double. Both hold if no id is beyond 2^53 in magnitude. -/
theorem advanced_sorted_by_id [RegexEngine] (records : List LogRecord) (limit : Nat) (raw : Json)
    (condition : Condition) (h : Compiler.compileJson { schema, limit } raw = .ok condition) :
    ∃ results : List LogRecord,
      Id.run (Search.advanced (Store.ofList records) schema limit raw) = .ok results ∧
      (results.Pairwise (fun a b => a.id ≤ b.id) ↔
        (matching condition records).Pairwise fun a b => a.idKey = b.idKey → a.id ≤ b.id) ∧
      (records.Pairwise (fun a b => a.id ≠ b.id) →
        ((∀ stored : List LogRecord, stored.Perm records →
            Id.run (Search.advanced (Store.ofList stored) schema limit raw) = .ok results) ↔
          (matching condition records).Pairwise fun a b => a.idKey ≠ b.idKey)) ∧
      ((∀ record ∈ records, record.id.toInt.natAbs ≤ 2 ^ 53) →
        results.Pairwise (fun a b => a.id ≤ b.id) ∧
        (records.Pairwise (fun a b => a.id ≠ b.id) → ∀ stored : List LogRecord,
          stored.Perm records →
            Id.run (Search.advanced (Store.ofList stored) schema limit raw) = .ok results)) := by
  simp only [Search.advanced_ofList h, Except.ok.injEq]
  refine ⟨_, rfl, pairwise_id_sortRecords_iff, sortRecords_perm_iff, fun hsmall => ?_⟩
  have hinj : ∀ a ∈ matching condition records, ∀ b ∈ matching condition records,
      a.idKey = b.idKey → a.id = b.id := by
    intro a ha b hb
    exact (idKey_inj (hsmall a (List.mem_filter.mp ha).1) (hsmall b (List.mem_filter.mp hb).1)).mp
  refine ⟨pairwise_id_sortRecords_iff.mpr ?_, fun hdistinct => ?_⟩
  · refine List.pairwise_of_forall_mem_list fun a ha b hb heq => ?_
    rw [hinj a ha b hb heq]
    exact Int64.le_refl _
  · refine (sortRecords_perm_iff hdistinct).mpr ((hdistinct.filter _).imp_of_mem ?_)
    intro a b ha hb hne heq
    exact hne (hinj a ha b hb heq)

/-- A record with the given id and no texts. -/
def numbered (id : Int64) : LogRecord where
  id
  browser := ""
  pageUrl := ""
  country := ""
  message := ""
  created := {
    date := ⟨2018, 3, 1, by decide, by decide, by decide⟩
    clock := ⟨10, 20, 30, 500000000, by decide, by decide, by decide, by decide⟩ }

/-- Small ids come out in order, wherever their records stand in the store. -/
theorem advanced_sorted_by_small_ids :
    ∃ results : List LogRecord, results.Pairwise (fun a b => a.id ≤ b.id) ∧
      ∀ stored : List LogRecord, stored.Perm [numbered 3, numbered (-7), numbered 2] →
        Id.run (Search.advanced (Store.ofList stored) schema 2
          (.obj [("not", .obj [("eq", .obj [("id", .int 2)])])])) = .ok results := by
  obtain ⟨results, -, -, -, hsmall⟩ :=
    advanced_sorted_by_id [numbered 3, numbered (-7), numbered 2] 2
      (.obj [("not", .obj [("eq", .obj [("id", .int 2)])])]) _ rfl
  obtain ⟨hsorted, hperm⟩ := hsmall (by decide)
  exact ⟨results, hsorted, hperm (by decide)⟩

theorem tied_beyond_two_pow :
    tied schema (numbered 9007199254740993) (numbered 9007199254740992) :=
  tied_schema_iff.mpr (by decide +kernel)

/-- The ids 2^53 + 1 and 2^53 are one double: they come out in the order in which they are
stored. -/
theorem advanced_unsorted_beyond_two_pow :
    Id.run (Search.advanced (Store.ofList [numbered 9007199254740993, numbered 9007199254740992])
        schema 1 (.arr [])) = .ok [numbered 9007199254740993, numbered 9007199254740992] ∧
      Id.run (Search.advanced (Store.ofList [numbered 9007199254740992, numbered 9007199254740993])
        schema 1 (.arr [])) = .ok [numbered 9007199254740992, numbered 9007199254740993] ∧
      ¬ (numbered 9007199254740993).id ≤ (numbered 9007199254740992).id := by
  refine ⟨?_, ?_, by decide⟩
  · refine (Search.advanced_ofList rfl _).trans (congrArg Except.ok (sortRecords_of_pairwise ?_))
    exact List.pairwise_pair.mpr (ordered_of_tied tied_beyond_two_pow)
  · refine (Search.advanced_ofList rfl _).trans (congrArg Except.ok (sortRecords_of_pairwise ?_))
    exact List.pairwise_pair.mpr (ordered_of_tied (tied_comm tied_beyond_two_pow))

end LogRecord

end LogSieve
