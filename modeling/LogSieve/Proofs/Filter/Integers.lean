import LogSieve.Proofs.Filter.Compile
import LogSieve.Proofs.Search.IdOrder

/-!
# Filters for integers

Integers are compared as doubles, which hold 53 binary digits. So two integers are equal to a filter
exactly if they are the same to 53 digits (`valuesEqual_int_iff`), and a filter for an id finds the
records whose ids are the same to so many digits (`id_equality_to_53_digits`). Below 2^53 in
magnitude no integer is the same as another; from there on neighbours may be
(`neighbouring_ids_match`).
-/

namespace LogSieve

/-! ### Integers in JSON -/

/-- The integer is one that JSON text can hold, signed or unsigned, in 64 bits. -/
def Json.IsInteger (n : Int) : Prop := leastInt ≤ n ∧ n ≤ greatestInt

theorem Json.IsInteger.natAbs_le {n : Int} (h : IsInteger n) : n.natAbs ≤ 2 ^ 64 := by
  unfold IsInteger leastInt greatestInt at h
  omega

theorem LogRecord.isInteger_id (record : LogRecord) : Json.IsInteger record.id.toInt := by
  have hlow : -2 ^ 63 ≤ record.id.toInt := record.id.le_toInt
  have hhigh : record.id.toInt < 2 ^ 63 := record.id.toInt_lt
  unfold Json.IsInteger Json.leastInt Json.greatestInt
  omega

/-- **Integers are equal to a filter exactly if they are the same to 53 binary digits.** -/
theorem Json.valuesEqual_int_iff {m n : Int} (hm : IsInteger m) (hn : IsInteger n) :
    valuesEqual (.int m) (.int n) = true ↔ Double.roundInt m = Double.roundInt n := by
  rw [int, int, valuesEqual, beq_iff_eq, Double.compareValue, Int.compare_eq_eq, Number.toDouble,
    Number.toDouble, Double.valueKey_ofInt_eq_iff hm.natAbs_le hn.natAbs_le]

/-! ### Filters for ids -/

namespace LogRecord

theorem field_id (record : LogRecord) :
    HasFields.field record "id" = some (.int record.id.toInt) := rfl

/-- **A filter for ids goes by 53 binary digits.** For a record and integers of 64 bits, signed or
unsigned, the filter for an id and the one for several ids are accepted. The first matches the
record exactly if its id is the same to 53 binary digits, and the second exactly if one of the ids
is; for so two integers are equal. An integer below 2^53 in magnitude is the same as itself only. -/
theorem id_equality_to_53_digits [RegexEngine] (record : LogRecord) {n : Int}
    (hn : Json.IsInteger n) {ns : List Int} (hns : ∀ m ∈ ns, Json.IsInteger m) {limit : Nat}
    (hlimit : 1 ≤ limit) :
    (∃ condition, Compiler.compileJson { schema, limit }
        (.obj [("EQ", .obj [("id", .int n)])]) = .ok condition ∧
      (condition (HasFields.field record) = true ↔
        Double.roundInt record.id.toInt = Double.roundInt n)) ∧
    (∃ condition, Compiler.compileJson { schema, limit }
        (.obj [("IN", .obj [("id", .arr (ns.map .int))])]) = .ok condition ∧
      (condition (HasFields.field record) = true ↔
        ∃ m ∈ ns, Double.roundInt record.id.toInt = Double.roundInt m)) ∧
    (∀ a b : Int, Json.IsInteger a → Json.IsInteger b →
      (Json.valuesEqual (.int a) (.int b) = true ↔ Double.roundInt a = Double.roundInt b)) ∧
    ∀ a b : Int, a.natAbs < 2 ^ 53 → (Double.roundInt a = Double.roundInt b ↔ a = b) := by
  have hid := record.isInteger_id
  have hfield : schema.field? "id" = some ⟨"id", .integer⟩ := rfl
  refine ⟨?_, ?_, fun a b ha hb => Json.valuesEqual_int_iff ha hb,
    fun a b ha => Double.roundInt_eq_iff ha⟩
  · obtain ⟨condition, hcondition⟩ :
        ∃ condition, Operator.equal ⟨"id", .integer⟩ (.value (.int n)) = .ok condition := ⟨_, rfl⟩
    have hnull : Json.int n ≠ .null := by rintro ⟨⟩
    have hlookup : Registry.builtin.lookup (Text.asciiLower "EQ") =
        .ok ⟨"eq", .binary, .binary Operator.equal⟩ := Registry.lookup_builtin _
    have hcompile := Compiler.compileJson_operator_value hlimit (by decide) hfield hlookup hnull
    refine ⟨condition, hcompile.trans hcondition, ?_⟩
    rw [Operator.equal_iff hcondition, Operator.SameValue, field_id,
      ← Json.valuesEqual_int_iff hid hn]
    simp [Operand.resolve]
  · obtain ⟨condition, hcondition⟩ :
        ∃ condition, Operator.member ⟨"id", .integer⟩ (.value (.arr (ns.map .int))) =
          .ok condition := ⟨_, rfl⟩
    have hnull : Json.arr (ns.map .int) ≠ .null := by rintro ⟨⟩
    have hlookup : Registry.builtin.lookup (Text.asciiLower "IN") =
        .ok ⟨"in", .binary, .binary Operator.member⟩ := Registry.lookup_builtin _
    have hcompile := Compiler.compileJson_operator_value hlimit (by decide) hfield hlookup hnull
    refine ⟨condition, hcompile.trans hcondition, ?_⟩
    rw [Operator.member_iff hcondition, Operator.MemberOf, field_id]
    simp only [Operand.resolve, Option.some.injEq, Json.arr.injEq, exists_and_left, exists_eq_left',
      List.mem_map, exists_exists_and_eq_and]
    exact exists_congr fun m => and_congr_right fun hm => Json.valuesEqual_int_iff hid (hns m hm)

/-- The id 2^53 - 1 is found, and is not taken for one of its neighbours. -/
theorem id_equality_before_two_pow :
    (∃ condition, Compiler.compileJson { schema, limit := 1 }
        (.obj [("EQ", .obj [("id", .int 9007199254740991)])]) = .ok condition ∧
      condition (HasFields.field (numbered 9007199254740991)) = true) ∧
    ∃ condition, Compiler.compileJson { schema, limit := 1 }
        (.obj [("IN", .obj [("id", .arr [.int 9007199254740990, .int 9007199254740992])])]) =
          .ok condition ∧
      ¬ condition (HasFields.field (numbered 9007199254740991)) = true := by
  have hinteger (m : Int) (h : 0 ≤ m ∧ m ≤ 9007199254740992) : Json.IsInteger m := by
    unfold Json.IsInteger Json.leastInt Json.greatestInt
    omega
  have hid : (numbered 9007199254740991).id.toInt = 9007199254740991 := by decide
  have hns : ∀ m ∈ [(9007199254740990 : Int), 9007199254740992], Json.IsInteger m := by
    intro m hm
    simp only [List.mem_cons, List.not_mem_nil, or_false] at hm
    exact hinteger m (by omega)
  obtain ⟨⟨equal, hequal, hequal_iff⟩, ⟨member, hmember, hmember_iff⟩, -, hexact⟩ :=
    id_equality_to_53_digits (numbered 9007199254740991)
      (hinteger 9007199254740991 (by decide)) hns (Nat.le_refl 1)
  rw [hid] at hequal_iff hmember_iff
  refine ⟨⟨equal, hequal, hequal_iff.mpr rfl⟩, member, hmember, fun hmatch => ?_⟩
  obtain ⟨m, hm, heq⟩ := hmember_iff.mp hmatch
  rw [hexact _ m (by decide)] at heq
  simp only [List.mem_cons, List.not_mem_nil, or_false] at hm
  omega

/-- A filter for the id 2^53 matches a record with the id 2^53 + 1. -/
theorem neighbouring_ids_match :
    ∃ condition, Compiler.compileJson { schema, limit := 1 }
        (.obj [("EQ", .obj [("id", .int 9007199254740992)])]) = .ok condition ∧
      condition (HasFields.field (numbered 9007199254740993)) = true ∧
      (numbered 9007199254740993).id.toInt ≠ 9007199254740992 :=
  ⟨_, rfl, by decide +kernel, by decide⟩

end LogRecord

end LogSieve
