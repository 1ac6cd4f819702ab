import LogSieve.Proofs.Filter.Null

/-!
# Values and fields as operands

A field may be compared with a value or with another field of the record, and an operator treats
the two in its own way: of a value it makes one test for all records, and may refuse it, while a
field is asked anew for each record. Where it makes a condition of a value, it makes one of every
field, and these hold of the same records among those whose field has that value (`Interchanges`).
That is so for equality with any value and for patterns with any but `null`, which as a value is the
empty pattern; membership takes no fields.

`literal_agrees_with_field` says it of comparisons.
-/

namespace LogSieve

/-! ### Operators -/

namespace Operator

/-- The names of the patterns and of their complement. -/
def patternNames : List String := containmentNames ++ ["like", "not_like"]

/-- Where the operator makes a condition of the value `v`, it also makes one of every field, and for
a record whose field has this value both answer alike. -/
def Interchanges (build : Field → Operand → Except FilterFault Condition) (v : Json) : Prop :=
  ∀ field other literal, build field (.value v) = .ok literal →
    ∃ read, build field (.field other) = .ok read ∧
      ∀ fields : Fields, fields other = some v → literal fields = read fields

theorem equal_interchanges (v : Json) : Interchanges equal v := by
  intro field other literal h
  rw [equal, Except.ok.injEq] at h
  subst h
  refine ⟨_, rfl, ?_⟩
  intro fields hvalue
  simp only [Operand.resolve, hvalue]

/-- Both conditions test whether the text of the field passes the pattern, the same one. -/
theorem textual_interchanges (name : String) (test? : String → Option TextTest) {v : Json}
    (hnull : v ≠ .null) : Interchanges (textual name test?) v := by
  intro field other literal h
  obtain ⟨read, hread⟩ : ∃ read, textual name test? field (.field other) = .ok read := ⟨_, rfl⟩
  have hliteral : Operand.value v ≠ .value .null := fun heq => hnull (Operand.value.inj heq)
  refine ⟨read, hread, ?_⟩
  intro fields hvalue
  rw [Bool.eq_iff_iff, textual_iff h hliteral, textual_iff hread (by rintro ⟨⟩)]
  simp only [Operand.resolve, hvalue]

theorem Interchanges.complement {build : Field → Operand → Except FilterFault Condition} {v : Json}
    (hbuild : Interchanges build v) : Interchanges (complement build) v := by
  intro field other literal h
  obtain ⟨positive, hpositive, rfl⟩ := complement_eq_ok_iff.mp h
  obtain ⟨read, hread, hsame⟩ := hbuild field other positive hpositive
  refine ⟨read.negate, complement_eq_ok_iff.mpr ⟨read, hread, rfl⟩, ?_⟩
  intro fields hvalue
  exact congrArg (!·) (hsame fields hvalue)

/-- Equality takes any value for a field that has it, and patterns take any but `null`. -/
theorem Builtin.interchanges [RegexEngine] {name : String}
    {build : Field → Operand → Except FilterFault Condition} (h : Builtin name build) {v : Json}
    (hname : name ∈ equalityNames ∨ name ∈ patternNames ∧ v ≠ .null) : Interchanges build v := by
  rcases hname with hequality | ⟨hpattern, hnull⟩
  · rw [h.eq_equal hequality]
    exact equal_interchanges v
  · cases h with
    | equal _ => exact equal_interchanges v
    | ilike _ => exact textual_interchanges _ _ hnull
    | like => exact textual_interchanges _ _ hnull
    | notLike => exact (textual_interchanges _ _ hnull).complement
    | member => exact absurd hpattern (by decide)
    | notMember => exact absurd hpattern (by decide)

end Operator

/-! ### Comparisons -/

namespace Compiler

open Operator

/-- **A value and a field that has it are one operand.** Let a comparison of a field with a value
compile, by any name of equality, or by one of a pattern or its complement if the value is not
`null`, so that it is a text, a number or a truth value. Then the comparison with any declared field
compiles as well, and of every record in which that field has this value both hold, or neither
does. -/
theorem literal_agrees_with_field [RegexEngine] (schema : Schema) (name other operator : String)
    (v : Json)
    (hoperator : Text.asciiLower operator ∈ equalityNames ∨
      Text.asciiLower operator ∈ patternNames ∧ v ≠ .null)
    (hother : schema.hasField other = true) (literal : Condition)
    (hliteral : compile { schema } (.leaf { field := name, operator, argument := some v }) =
      .ok literal) :
    ∃ read, compile { schema } (.leaf { field := name, operator, other := some other }) = .ok read ∧
      ∀ fields : Fields, fields other = some v → literal fields = read fields := by
  rw [compile, comparison_builtin_eq_ok_iff rfl] at hliteral
  obtain ⟨field, build, operand, hfield, -, hbuiltin, -, hvalue, hcondition⟩ := hliteral
  obtain rfl : Operand.value v = operand := Option.some.inj hvalue
  obtain ⟨read, hread, hsame⟩ := hbuiltin.interchanges hoperator field other literal hcondition
  refine ⟨read, ?_, hsame⟩
  rw [compile, comparison_builtin_eq_ok_iff rfl]
  refine ⟨field, build, .field other, hfield, ?_, hbuiltin, .inl rfl, rfl, hread⟩
  rintro declared ⟨⟩
  exact hother

/-- A pair in which the text of `a` is unlike the number in `b`. -/
theorem number_agrees_with_field :
    ∃ literal read,
      compile { schema := pairSchema }
        (.leaf { field := "a", operator := "Not_Like", argument := some (.int 5) }) = .ok literal ∧
      compile { schema := pairSchema }
        (.leaf { field := "a", operator := "Not_Like", other := some "b" }) = .ok read ∧
      literal (fun name => some (if name = "a" then .str "15" else .int 5)) =
        read (fun name => some (if name = "a" then .str "15" else .int 5)) ∧
      read (fun name => some (if name = "a" then .str "15" else .int 5)) = true := by
  obtain ⟨literal, hliteral⟩ : ∃ literal, compile { schema := pairSchema }
      (.leaf { field := "a", operator := "Not_Like", argument := some (.int 5) }) = .ok literal :=
    ⟨_, rfl⟩
  have hoperator : Text.asciiLower "Not_Like" ∈ patternNames := by decide
  have hnull : Json.int 5 ≠ .null := by rintro ⟨⟩
  obtain ⟨read, hread, hsame⟩ := literal_agrees_with_field pairSchema "a" "b" "Not_Like" (.int 5)
    (.inr ⟨hoperator, hnull⟩) (by decide) literal hliteral
  refine ⟨literal, read, hliteral, hread, hsame _ rfl, ?_⟩
  cases hread
  decide

end Compiler

end LogSieve
