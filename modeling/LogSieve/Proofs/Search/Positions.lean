import LogSieve.Proofs.Search.Sorting
import Mathlib.Data.List.FinRange

/-!
# What a search finds, by position

A search sees a record only through its fields, so that it makes no difference what the records are
otherwise (`execute_map`). In particular a search in a list of records is a search among the
positions of the list, and positions can be told apart where records cannot. So the results are the
matching positions, none lost and none twice, in the order of the sort keys, and positions whose
records tie ascend (`execute_positions`).
-/

namespace LogSieve

variable {R : Type} [HasFields R] {schema : Schema}

/-! ### Records of another type -/

theorem sortRecords_map {S : Type} [HasFields S] {f : S → R}
    (hf : ∀ s, HasFields.field (f s) = HasFields.field s) (items : List S) :
    sortRecords schema (items.map f) = (sortRecords schema items).map f := by
  have hordered (s t : S) : ordered schema s t = ordered schema (f s) (f t) := by
    simp only [ordered, recordOrder, sortValues, hf]
  rw [sortRecords_eq_mergeSort, sortRecords_eq_mergeSort,
    List.map_mergeSort fun s _ t _ => hordered s t]

/-- **A search sees only fields**: records that have the fields of others are found where these
are. -/
theorem execute_map {S : Type} [HasFields S] {f : S → R}
    (hf : ∀ s, HasFields.field (f s) = HasFields.field s) (condition : Condition)
    (items : List S) :
    execute schema condition (items.map f) = (execute schema condition items).map f := by
  rw [execute, execute, ← sortRecords_map hf, List.filter_map]
  simp only [Function.comp_def, hf]

/-! ### Positions -/

/-- A position in a list of records. -/
def Position (records : List R) : Type := Fin records.length

/-- A position has the fields of the record that stands there. -/
instance (records : List R) : HasFields (Position records) :=
  ⟨fun i => HasFields.field (records.get i)⟩

/-- The positions of a list, in ascending order. -/
def positions (records : List R) : List (Position records) := List.finRange records.length

/-- The record at a position. -/
def Position.record {records : List R} (i : Position records) : R := records.get i

omit [HasFields R] in
theorem map_record_positions (records : List R) :
    (positions records).map Position.record = records :=
  List.map_get_finRange records

/-- The positions whose records meet a condition, in ascending order. -/
def matchingPositions (condition : Condition) (records : List R) : List (Position records) :=
  (positions records).filter fun i => condition (HasFields.field i)

theorem execute_eq_map_positions (condition : Condition) (records : List R) :
    execute schema condition records =
      (sortRecords schema (matchingPositions condition records)).map Position.record := by
  -- a list of records is the list of its positions, read off
  conv_lhs => rw [← map_record_positions records]
  exact execute_map (f := Position.record) (fun _ => rfl) condition (positions records)

/-- Positions whose records tie ascend among the results. -/
theorem lt_of_tied_sortRecords {condition : Condition} {records : List R}
    {i j : Position records} (htied : tied schema i j)
    (h : [i, j].Sublist (sortRecords schema (matchingPositions condition records))) :
    i.val < j.val := by
  have hpair : [i, j].Sublist (positions records) :=
    (pair_sublist_of_tied htied h).trans List.filter_sublist
  exact List.pairwise_iff_forall_sublist.mp (List.pairwise_lt_finRange records.length) hpair

/-- The matching positions are sorted by their records, and by themselves where these tie. -/
theorem pairwise_sortRecords_matchingPositions (condition : Condition) (records : List R) :
    (sortRecords schema (matchingPositions condition records)).Pairwise fun i j =>
      ordered schema i j ∧ (tied schema i j → i.val < j.val) := by
  refine List.pairwise_of_forall_sublist fun {i j} hij => ⟨?_, fun htied => ?_⟩
  · exact List.pairwise_iff_forall_sublist.mp (sortRecords_pairwise _) hij
  · exact lt_of_tied_sortRecords htied hij

/-! ### The order of the results -/

/-- The sort keys that count: those that are declared fields. -/
def declaredKeys (fields : List Field) (keys : List String) : List String :=
  keys.filter fun key => key ∈ fields.map Field.name

theorem sortKeys_ofFields (name : String) (fields : List Field) (keys : List String) :
    (Schema.ofFields name fields keys).sortKeys = declaredKeys fields keys := by
  refine List.filter_congr fun key _ => ?_
  rw [Bool.eq_iff_iff, List.any_eq_true]
  simp

/-- The order of two records by some keys, the first of which weighs most: that of their tuples of
values. -/
def compareByKeys (keys : List String) (a b : R) : Ordering :=
  List.compareLex Json.compareForSort (keys.map (HasFields.field a)) (keys.map (HasFields.field b))

theorem recordOrder_ofFields (name : String) (fields : List Field) (keys : List String) (a b : R) :
    recordOrder (.ofFields name fields keys) a b =
      compareByKeys (declaredKeys fields keys) a b := by
  rw [recordOrder_eq, sortValues, sortValues, sortKeys_ofFields, compareByKeys]

/-- **A search neither loses nor doubles nor misplaces a record.** Its results stand at the matching
positions, each of them once. Of two results the first is not greater by the declared sort keys, and
if they tie it comes first in the list as well. Without declared sort keys the matching records come
out as they are. -/
theorem execute_positions (name : String) (fields : List Field) (keys : List String)
    (condition : Condition) (records : List R) :
    (∃ found : List (Fin records.length),
      execute (.ofFields name fields keys) condition records = found.map records.get ∧
      found.Perm ((List.finRange records.length).filter fun i =>
        condition (HasFields.field (records.get i))) ∧
      found.Pairwise fun i j =>
        compareByKeys (declaredKeys fields keys) (records.get i) (records.get j) ≠ .gt ∧
        (compareByKeys (declaredKeys fields keys) (records.get i) (records.get j) = .eq →
          i < j)) ∧
    (declaredKeys fields keys = [] →
      execute (.ofFields name fields keys) condition records =
        records.filter fun record => condition (HasFields.field record)) := by
  refine ⟨⟨_, execute_eq_map_positions condition records,
    sortRecords_perm (matchingPositions condition records), ?_⟩, fun hnone => ?_⟩
  · refine (pairwise_sortRecords_matchingPositions condition records).imp fun {i j} h => ?_
    rw [ordered, tied_iff, recordOrder_ofFields, Ordering.isLE_iff_ne_gt] at h
    exact h
  · refine sortRecords_of_pairwise (List.pairwise_of_forall fun a b => ?_)
    rw [ordered, recordOrder_ofFields, hnone]
    rfl

/-- Sorting by an undeclared field changes nothing. -/
theorem execute_positions_undeclared :
    execute (.ofFields "rows" [⟨"id", .integer⟩] ["k"]) (fun fields => (fields "k").isSome)
        [Row.mk [("k", .str "b")], Row.mk [], Row.mk [("k", .str "a")]] =
      [Row.mk [("k", .str "b")], Row.mk [("k", .str "a")]] :=
  (execute_positions "rows" [⟨"id", .integer⟩] ["k"] (fun fields => (fields "k").isSome)
    [Row.mk [("k", .str "b")], Row.mk [], Row.mk [("k", .str "a")]]).2 (by decide)

end LogSieve
