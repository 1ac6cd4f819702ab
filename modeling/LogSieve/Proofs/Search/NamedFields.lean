import LogSieve.Proofs.Filter.Null
import LogSieve.Proofs.Search.IdOrder
import LogSieve.Proofs.Search.Positions

/-!
# What a filter looks at

A filter that compiles asks a record for the fields that it names, its own and those it compares
with, and for nothing else: two records of any types that agree on them (`AgreeOn`) are matched
alike (`compile_congr`). Each built-in operator sees no more than its operands (`SeesOperands`), and
each group no more than its parts.

What a log record answers for a field, its JSON object and the entries that it is serialized as are
three definitions. They agree (`field_eq_lookup`, `toJson_eq_row`), and so do a record and the row
of its JSON object on all fields (`field_row`): a filter cannot tell them apart, and neither can
sorting (`filter_sees_named_fields`).
-/

namespace LogSieve

/-! ### Names -/

/-- The fields that a comparison names. -/
def Comparison.names (c : Comparison) : List String := c.field :: c.other.toList

/-- The fields that a filter names. -/
def Filter.names (filter : Filter) : List String := filter.comparisons.flatMap Comparison.names

/-- Two records answer alike when they are asked for the fields of these names. -/
def AgreeOn (names : List String) (first second : Fields) : Prop :=
  ∀ name ∈ names, first name = second name

variable {first second : Fields}

theorem agreeOn_names_iff {filter : Filter} : AgreeOn filter.names first second ↔
    ∀ c ∈ filter.comparisons, AgreeOn c.names first second :=
  List.forall_mem_flatMap

theorem AgreeOn.operandFor_eq {c : Comparison} (h : AgreeOn c.names first second) :
    c.operandFor first = c.operandFor second := by
  unfold Comparison.operandFor
  split
  · next other hother =>
    refine h other (List.mem_cons_of_mem _ ?_)
    rw [hother]
    exact List.mem_singleton_self other
  · rfl

/-! ### Operators -/

namespace Operator

/-- What the operator makes of a field and an operand sees nothing else of a record. -/
def SeesOperands (build : Field → Operand → Except FilterFault Condition) : Prop :=
  ∀ field operand condition, build field operand = .ok condition → ∀ first second : Fields,
    first field.name = second field.name → operand.resolve first = operand.resolve second →
    condition first = condition second

theorem equal_seesOperands : SeesOperands equal := by
  intro field operand condition h first second hfield hoperand
  rw [equal, Except.ok.injEq] at h
  subst h
  simp only [hfield, hoperand]

theorem member_seesOperands : SeesOperands member := by
  intro field operand condition h first second hfield _
  unfold member at h
  split at h
  · rw [Except.ok.injEq] at h
    subst h
    simp only [hfield]
  · cases h
  · cases h

theorem textual_seesOperands (name : String) (test? : String → Option TextTest) :
    SeesOperands (textual name test?) := by
  intro field operand condition h first second hfield hoperand
  unfold textual at h
  split at h
  · cases h
  · cases h
  · split at h
    · cases h
    · rw [Except.ok.injEq] at h
      subst h
      simp only [fieldText, hfield]
  · next other =>
    rw [Except.ok.injEq] at h
    subst h
    have hother : first other = second other := hoperand
    simp only [fieldText, hfield, hother]

theorem SeesOperands.complement {build : Field → Operand → Except FilterFault Condition}
    (hbuild : SeesOperands build) : SeesOperands (complement build) := by
  intro field operand condition h first second hfield hoperand
  obtain ⟨positive, hpositive, rfl⟩ := complement_eq_ok_iff.mp h
  exact congrArg (!·) (hbuild field operand positive hpositive first second hfield hoperand)

theorem Builtin.seesOperands [RegexEngine] {name : String}
    {build : Field → Operand → Except FilterFault Condition} (h : Builtin name build) :
    SeesOperands build := by
  cases h with
  | equal _ => exact equal_seesOperands
  | ilike _ => exact textual_seesOperands _ _
  | like => exact textual_seesOperands _ _
  | notLike => exact (textual_seesOperands _ _).complement
  | member => exact member_seesOperands
  | notMember => exact member_seesOperands.complement

end Operator

/-! ### Compiled filters -/

theorem Condition.all_eq (parts : List Condition) (fields : Fields) :
    all parts fields = (parts.map fun part => part fields).all id := by
  rw [List.all_map]
  rfl

theorem Condition.any_eq (parts : List Condition) (fields : Fields) :
    any parts fields = (parts.map fun part => part fields).any id := by
  rw [List.any_map]
  rfl

namespace Compiler

variable {compiler : Compiler}

theorem comparison_congr [RegexEngine] (hregistry : compiler.registry = .builtin)
    {c : Comparison} {condition : Condition} (h : compiler.comparison c = .ok condition)
    (hagree : AgreeOn c.names first second) : condition first = condition second := by
  obtain ⟨field, build, operand, hfield, -, hbuiltin, -, hoperand, hcondition⟩ :=
    (comparison_builtin_eq_ok_iff hregistry).mp h
  refine hbuiltin.seesOperands field operand condition hcondition first second ?_ ?_
  · rw [Schema.name_of_field? hfield]
    exact hagree _ List.mem_cons_self
  · rw [resolve_eq_operandFor hoperand, resolve_eq_operandFor hoperand]
    exact hagree.operandFor_eq

/-- A group sees what its parts see. -/
theorem combine_congr {kind : Connective} {parts : List Condition} {condition : Condition}
    (h : combine kind parts = .ok condition)
    (hparts : ∀ part ∈ parts, part first = part second) : condition first = condition second := by
  have hanswers : parts.map (fun part => part first) = parts.map (fun part => part second) :=
    List.map_congr_left hparts
  have hall : Condition.all parts first = Condition.all parts second := by
    rw [Condition.all_eq, Condition.all_eq, hanswers]
  have hany : Condition.any parts first = Condition.any parts second := by
    rw [Condition.any_eq, Condition.any_eq, hanswers]
  cases kind with
  | and =>
    cases h
    exact hall
  | or =>
    cases h
    exact hany
  | not =>
    rw [combine] at h
    split at h
    · cases h
    · cases h
      exact congrArg (!·) hall

mutual

/-- **A compiled filter sees only the fields that its comparisons name.** -/
theorem compile_congr [RegexEngine] (hregistry : compiler.registry = .builtin) : ∀ {filter : Filter}
    {condition : Condition}, compiler.compile filter = .ok condition →
      (∀ c ∈ filter.comparisons, AgreeOn c.names first second) → condition first = condition second
  | .leaf c, condition, h, hagree => by
    rw [compile] at h
    rw [Filter.comparisons, List.forall_mem_singleton] at hagree
    exact comparison_congr hregistry h hagree
  | .group kind members, condition, h, hagree => by
    rw [compile] at h
    obtain ⟨parts, hparts, h⟩ := bind_eq_ok_iff.mp h
    rw [Filter.comparisons] at hagree
    exact combine_congr h (compileAll_congr hregistry hparts hagree)

theorem compileAll_congr [RegexEngine] (hregistry : compiler.registry = .builtin) :
    ∀ {filters : List Filter}
    {parts : List Condition}, compiler.compileAll filters = .ok parts →
      (∀ c ∈ Filter.comparisonsAll filters, AgreeOn c.names first second) →
      ∀ part ∈ parts, part first = part second
  | [], parts, h, _ => by
    obtain rfl := Except.ok.inj h
    exact fun part hpart => absurd hpart List.not_mem_nil
  | filter :: rest, parts, h, hagree => by
    obtain ⟨part, others, hpart, hothers, rfl⟩ := compileAll_cons_eq_ok_iff.mp h
    rw [Filter.comparisonsAll, List.forall_mem_append] at hagree
    obtain ⟨hfilter, hrest⟩ := hagree
    exact List.forall_mem_cons.mpr
      ⟨compile_congr hregistry hpart hfilter, compileAll_congr hregistry hothers hrest⟩

end

end Compiler

/-! ### Rows of log records -/

theorem Row.field_mk (entries : List (String × Json)) (name : String) :
    HasFields.field (Row.mk entries) name = Entries.lookup name entries := rfl

/-- The row of the record's JSON object. -/
def LogRecord.row (record : LogRecord) : Row := ⟨Entries.ofList record.entries⟩

/-- The JSON object of a record has the entries that the record is serialized as. -/
theorem LogRecord.toJson_eq_row (record : LogRecord) :
    record.toJson = .obj record.row.entries := by
  rw [toJson, Json.ofEntries, row, entries]

theorem LogRecord.keys_entries (record : LogRecord) : record.entries.map (·.1) =
    ["id", "browser", "page_url", "country", "message", "created"] := rfl

/-- The fields of a record are the entries that it is serialized as. -/
theorem LogRecord.field_eq_lookup (record : LogRecord) (name : String) :
    HasFields.field record name = Entries.lookup name record.entries := by
  by_cases hname : name ∈ record.entries.map (·.1)
  · simp only [keys_entries, List.mem_cons, List.not_mem_nil, or_false] at hname
    rcases hname with rfl | rfl | rfl | rfl | rfl | rfl <;> rfl
  · rw [Entries.lookup_eq_none_iff.mpr hname]
    simp only [keys_entries, List.mem_cons, List.not_mem_nil, or_false, not_or] at hname
    simp [HasFields.field, hname]

/-- **A log record and its row agree on all fields.** -/
theorem LogRecord.field_row (record : LogRecord) :
    HasFields.field record.row = HasFields.field record := by
  have hnodup : (record.entries.map (·.1)).Nodup := by
    rw [keys_entries]
    decide
  funext name
  rw [row, Row.field_mk, Entries.lookup_ofList, Entries.lookup_reverse hnodup, field_eq_lookup]

/-- Records and what they are turned into come to the same places when they are sorted, if the two
agree on all fields. -/
theorem exists_order_sortRecords {R S : Type} [HasFields R] [HasFields S] {f : R → S}
    (hf : ∀ record, HasFields.field (f record) = HasFields.field record) (schema : Schema)
    (records : List R) :
    ∃ order : List (Fin records.length), order.Perm (List.finRange records.length) ∧
      sortRecords schema records = order.map records.get ∧
      sortRecords schema (records.map f) = order.map fun i => f (records.get i) := by
  have hperm : (sortRecords schema (positions records)).Perm (positions records) :=
    sortRecords_perm _
  -- both lists are the list of positions, read off
  have hrecords : sortRecords schema ((positions records).map Position.record) =
      (sortRecords schema (positions records)).map Position.record :=
    sortRecords_map (f := Position.record) (fun _ => rfl) _
  have himages : sortRecords schema (((positions records).map Position.record).map f) =
      (sortRecords schema (positions records)).map (f ∘ Position.record) := by
    rw [List.map_map]
    exact sortRecords_map (f := f ∘ Position.record) (fun i => hf i.record) _
  rw [map_record_positions] at hrecords himages
  exact ⟨_, hperm, hrecords, himages⟩

namespace Compiler

/-- **A filter looks only at the fields that it names.** If it compiles with the built-in operators,
any two records, of whatever types, that agree on these are matched alike. In particular a log
record and the row of its JSON object, which agree on all fields, are matched alike by every filter
that is accepted, as a tree or in JSON; and if log records and their rows are sorted, those of one
record come to the same place. -/
theorem filter_sees_named_fields [RegexEngine] (schema : Schema) :
    (∀ (filter : Filter) (condition : Condition), compile { schema } filter = .ok condition →
      ∀ {R S : Type} [HasFields R] [HasFields S] (r : R) (s : S),
        AgreeOn filter.names (HasFields.field r) (HasFields.field s) →
        condition (HasFields.field r) = condition (HasFields.field s)) ∧
    (∀ record : LogRecord, record.toJson = .obj record.row.entries ∧
      (∀ name, HasFields.field record name = HasFields.field record.row name) ∧
      (∀ (filter : Filter) (condition : Condition), compile { schema } filter = .ok condition →
        condition (HasFields.field record) = condition (HasFields.field record.row)) ∧
      (∀ (limit : Nat) (raw : Json) (condition : Condition),
        compileJson { schema, limit } raw = .ok condition →
        condition (HasFields.field record) = condition (HasFields.field record.row))) ∧
    ∀ records : List LogRecord,
      ∃ order : List (Fin records.length), order.Perm (List.finRange records.length) ∧
        sortRecords schema records = order.map records.get ∧
        sortRecords schema (records.map LogRecord.row) =
          order.map fun i => (records.get i).row := by
  refine ⟨fun filter condition h R S _ _ r s hagree => ?_, fun record => ?_, fun records => ?_⟩
  · exact compile_congr rfl h (agreeOn_names_iff.mp hagree)
  · have hfield := record.field_row.symm
    exact ⟨record.toJson_eq_row, congrFun hfield, fun _ condition _ => congrArg condition hfield,
      fun _ _ condition _ => congrArg condition hfield⟩
  · exact exists_order_sortRecords LogRecord.field_row schema records

/-- A log record is matched as a row is that has the browser alone. -/
theorem filter_sees_browser_only :
    ∃ condition, compile { schema := LogRecord.schema }
        (.group .not [.compare "browser" "Contains" (.str "fox")]) = .ok condition ∧
      condition (HasFields.field (LogRecord.numbered 7)) =
        condition (HasFields.field (Row.mk [("browser", .str ""), ("id", .str "none")])) ∧
      condition (HasFields.field (LogRecord.numbered 7)) =
        condition (HasFields.field (LogRecord.numbered 7).row) := by
  obtain ⟨condition, hcompile⟩ : ∃ condition, compile { schema := LogRecord.schema }
      (.group .not [.compare "browser" "Contains" (.str "fox")]) = .ok condition := ⟨_, rfl⟩
  obtain ⟨hnamed, hrow, -⟩ := filter_sees_named_fields LogRecord.schema
  obtain ⟨-, -, hfilter, -⟩ := hrow (LogRecord.numbered 7)
  refine ⟨condition, hcompile, hnamed _ condition hcompile _ _ ?_, hfilter _ condition hcompile⟩
  exact List.forall_mem_singleton.mpr rfl

end Compiler

end LogSieve
