import LogSieve.Program
import LogSieve.Proofs.File.Disk
import LogSieve.Proofs.Filter.Faults

/-!
# How a run ends

A run reads its settings, carries out its command and delivers a report. How it ends is told here
from the invocation and the files, by rules: a command asks for the records that meet a condition
(`Asks`); it gives a report (`Reports`), or its request is at fault (`Refused`), or there are no
records for it (`Stranded`). The program follows these rules (`run_report_of_reports` and the
like), and they leave no case open (`ends`). Hence `run_leaves_no_trace`: a run that fails leaves
nothing behind but its message and the exit code of its fault, and one that succeeds leaves its
report in one place.
-/

namespace LogSieve

namespace Program

section

variable [RegexEngine]

/-! ### Rules -/

/-- The text of a query without the white space at its ends; empty without a query. -/
def queryText (query : Option String) : String := String.ofList (Text.trim (query.getD "").toList)

/-- `Asks settings command compiled`: the command asks for records by a filter, and `compiled` is
what the filter compiles to. -/
inductive Asks (settings : Settings) : Command → Except FilterFault Condition → Prop where
  /-- A search asks by its terms. -/
  | terms (browser country : String) :
      Asks settings (.search browser country)
        (Compiler.compile { schema := LogRecord.schema } (Search.simpleFilter browser country))
  /-- An advanced search asks by the JSON that its query holds. -/
  | query {query : Option String} {raw : Json} : queryText query ≠ "" →
      Search.parseQuery settings.lenient (queryText query) = .ok raw →
      Asks settings (.advancedSearch query)
        (Compiler.compileJson { schema := LogRecord.schema, limit := settings.limit } raw)

/-- The record file that is named first, if any is. -/
def recordFile? (options : Options) (settings : Settings) : Option String :=
  options.data.or settings.dataPath

/-- The request is at fault. -/
inductive Refused (options : Options) (settings : Settings) : Command → Prop where
  /-- The query is no JSON text. -/
  | unreadable {query : Option String} {fault : FilterFault} : queryText query ≠ "" →
      Search.parseQuery settings.lenient (queryText query) = .error fault →
      Refused options settings (.advancedSearch query)
  /-- The filter does not compile; a record file is named. -/
  | rejected {command : Command} {fault : FilterFault} {path : String} :
      Asks settings command (.error fault) → recordFile? options settings = some path →
      Refused options settings command

/-- There are no records. -/
inductive Stranded (disk : Disk) (options : Options) (settings : Settings) : Command → Prop where
  /-- No record file is named. -/
  | noFile {command : Command} {compiled : Except FilterFault Condition} :
      Asks settings command compiled → recordFile? options settings = none →
      Stranded disk options settings command
  /-- The record file cannot be read, or holds no records. -/
  | noRecords {command : Command} {condition : Condition} {path : String} {fault : StorageFault} :
      Asks settings command (.ok condition) → recordFile? options settings = some path →
      disk.records path = .error fault → Stranded disk options settings command

/-- `Reports disk options settings colored command report`: the command gives this report. -/
inductive Reports (disk : Disk) (options : Options) (settings : Settings) (colored : Bool) :
    Command → String → Prop where
  /-- The fields and operators. -/
  | fields : Reports disk options settings colored .fields
      (Report.fields (options.format.getD settings.format) colored LogRecord.schema .builtin)
  /-- Without a query there are no results. -/
  | noQuery {query : Option String} : queryText query = "" →
      Reports disk options settings colored (.advancedSearch query)
        (Report.results (options.format.getD settings.format) colored [])
  /-- The records that the command asks for, sorted. -/
  | found {command : Command} {condition : Condition} {path : String} {records : List LogRecord} :
      Asks settings command (.ok condition) → recordFile? options settings = some path →
      disk.records path = .ok records →
      Reports disk options settings colored command
        (Report.results (options.format.getD settings.format) colored
          (execute LogRecord.schema condition records))

/-- The rules leave no case open. -/
theorem ends (disk : Disk) (options : Options) (settings : Settings) (colored : Bool)
    (command : Command) :
    (∃ report, Reports disk options settings colored command report) ∨
      Refused options settings command ∨ Stranded disk options settings command := by
  -- whatever asks for records finds them, is refused, or is stranded
  have hasks {command compiled} (h : Asks settings command compiled) :
      (∃ report, Reports disk options settings colored command report) ∨
        Refused options settings command ∨ Stranded disk options settings command := by
    cases hpath : recordFile? options settings with
    | none => exact .inr (.inr (.noFile h hpath))
    | some path =>
      cases compiled with
      | error fault => exact .inr (.inl (.rejected h hpath))
      | ok condition =>
        cases hrecords : disk.records path with
        | error fault => exact .inr (.inr (.noRecords h hpath hrecords))
        | ok records => exact .inl ⟨_, .found h hpath hrecords⟩
  cases command with
  | fields => exact .inl ⟨_, .fields⟩
  | search browser country => exact hasks (.terms browser country)
  | advancedSearch query =>
    by_cases hquery : queryText query = ""
    · exact .inl ⟨_, .noQuery hquery⟩
    · cases hparse : Search.parseQuery settings.lenient (queryText query) with
      | error fault => exact .inr (.inl (.unreadable hquery hparse))
      | ok raw => exact hasks (.query hquery hparse)

/-! ### Commands -/

section Commands

variable {disk : Disk} {options : Options} {settings : Settings} {colored : Bool}
  {command : Command}

omit [RegexEngine] in
/-- What a search over the file at a path finds. -/
theorem run_search_ofFile (path : String) (compiled : Except FilterFault Condition) :
    (Search.run (.ofFile path) LogRecord.schema compiled : StateM Disk _).run disk =
      (match compiled with
        | .error fault => .error (.badRequest fault)
        | .ok condition =>
          ((disk.records path).mapError .storage).map (execute LogRecord.schema condition),
        disk) := by
  cases compiled with
  | error fault => rfl
  | ok condition =>
    rw [Search.run, StateT.run_bind, run_fetchAll_ofFile]
    cases disk.records path <;> rfl

/-- A command that asks for records is carried out by one search. -/
theorem report_of_asks {compiled : Except FilterFault Condition}
    (h : Asks settings command compiled) :
    (report ⟨options, command⟩ settings colored : StateM Disk _) = do
      let found ← searching options settings (Search.run · LogRecord.schema compiled)
      return found.map (Report.results (options.format.getD settings.format) colored) := by
  cases h with
  | terms browser country => rfl
  | query hquery hparse =>
    rw [queryText] at hquery hparse
    simp only [report, advanced, String.isEmpty_iff, if_neg hquery, hparse]
    rfl

theorem run_report_of_reports {text : String}
    (h : Reports disk options settings colored command text) :
    (report ⟨options, command⟩ settings colored : StateM Disk _).run disk = (.ok text, disk) := by
  cases h with
  | fields => rfl
  | noQuery hquery =>
    rw [queryText] at hquery
    simp only [report, advanced, String.isEmpty_iff, if_pos hquery]
    rfl
  | found hasks hpath hrecords =>
    rw [recordFile?] at hpath
    rw [report_of_asks hasks]
    simp only [searching, hpath, StateT.run_bind, run_search_ofFile, hrecords]
    rfl

/-- A request at fault is refused in the same way whatever the files are. -/
theorem run_report_of_refused (h : Refused options settings command) :
    ∃ fault : RunFault, fault.exitCode = 2 ∧ ∀ disk colored,
      (report ⟨options, command⟩ settings colored : StateM Disk _).run disk =
        (.error fault, disk) := by
  cases h with
  | @unreadable query fault hquery hparse =>
    refine ⟨.query fault, rfl, fun disk colored => ?_⟩
    rw [queryText] at hquery hparse
    simp only [report, advanced, String.isEmpty_iff, if_neg hquery, hparse]
    rfl
  | @rejected command fault path hasks hpath =>
    refine ⟨.search (.badRequest fault), rfl, fun disk colored => ?_⟩
    rw [recordFile?] at hpath
    rw [report_of_asks hasks]
    simp only [searching, hpath, StateT.run_bind, run_search_ofFile]
    rfl

theorem run_report_of_stranded (h : Stranded disk options settings command) :
    ∃ fault : RunFault, fault.exitCode = 1 ∧
      (report ⟨options, command⟩ settings colored : StateM Disk _).run disk =
        (.error fault, disk) := by
  cases h with
  | noFile hasks hpath =>
    refine ⟨.noRecordFile, rfl, ?_⟩
    rw [recordFile?] at hpath
    rw [report_of_asks hasks]
    simp only [searching, hpath]
    rfl
  | @noRecords condition path fault hasks hpath hrecords =>
    refine ⟨.search (.storage fault), rfl, ?_⟩
    rw [recordFile?] at hpath
    rw [report_of_asks hasks]
    simp only [searching, hpath, StateT.run_bind, run_search_ofFile, hrecords]
    rfl

end Commands

/-! ### Runs -/

section Runs

variable {environment : Environment} {options : Options} {command : Command} {disk : Disk}
  {settings : Settings}

/-- Are the reports and messages of a run coloured? -/
def colors (environment : Environment) (options : Options) : Bool :=
  colored (options.color.getD .auto) environment

/-- What a run leaves behind that fails: a message and an exit code. -/
def failure (environment : Environment) (options : Options) (fault : RunFault) : Outcome where
  code := fault.exitCode
  stderr := String.ofList (Report.styled (colors environment options) "1;31" "error:") ++ " " ++
    fault.message ++ "\n"

theorem run_of_badSettings {fault : Settings.Fault}
    (h : disk.settings options.config = .error fault) :
    (run environment ⟨options, command⟩ : StateM Disk Outcome).run disk =
      (failure environment options (.settings fault), disk) := by
  rw [run, StateT.run_bind, carryOut, StateT.run_bind, run_load, h]
  rfl

/-- With settings, the command is carried out, and its report delivered. -/
theorem run_of_settings (h : disk.settings options.config = .ok settings) :
    (run environment ⟨options, command⟩ : StateM Disk Outcome).run disk =
      match (report ⟨options, command⟩ settings (colors environment options) :
        StateM Disk _).run disk with
      | (.error fault, after) => (failure environment options fault, after)
      | (.ok report, after) =>
        match (deliver options report : StateM Disk _).run after with
        | (.error fault, after) => (failure environment options fault, after)
        | (.ok stdout, after) => ({ code := 0, stdout }, after) := by
  rw [run, StateT.run_bind, carryOut, StateT.run_bind, run_load, h]
  change ((report ⟨options, command⟩ settings (colors environment options) >>= _ :
    StateM Disk _).run disk >>= _) = _
  rw [StateT.run_bind]
  generalize (report ⟨options, command⟩ settings (colors environment options) :
    StateM Disk _).run disk = reported
  obtain ⟨fault | report, after⟩ := reported
  · rfl
  · change ((deliver options report : StateM Disk _).run after >>= _) = _
    dsimp only
    generalize (deliver options report : StateM Disk _).run after = delivered
    obtain ⟨fault | stdout, after⟩ := delivered <;> rfl

omit [RegexEngine] in
theorem run_deliver_stdout (h : options.output = none) (text : String) :
    (deliver options text : StateM Disk _).run disk = (.ok (endLine text), disk) := by
  rw [deliver, h]
  rfl

omit [RegexEngine] in
theorem run_deliver_file {path : String} (h : options.output = some path) (text : String) :
    (deliver options text : StateM Disk _).run disk =
      match disk.write path text with
      | .ok after => (.ok "", after)
      | .error fault => (.error (.output path fault), disk) := by
  rw [deliver, h]
  dsimp only
  rw [StateT.run_bind, run_writeFile]
  cases disk.write path text <;> rfl

omit [RegexEngine] in
theorem getLast?_endLine (text : String) : (endLine text).toList.getLast? = some '\n' := by
  rw [endLine]
  split
  · next h => exact h
  · simp

end Runs

/-! ### The ends of a run -/

/-- The request is what a run fails for: the query cannot be read, or its filter is rejected. -/
def RequestFails (disk : Disk) (invocation : Invocation) : Prop :=
  ∃ settings, disk.settings invocation.options.config = .ok settings ∧
    Refused invocation.options settings invocation.command

/-- Something else is what a run fails for. -/
inductive OtherwiseFails (environment : Environment) (disk : Disk) (invocation : Invocation) :
    Prop where
  /-- There are no settings. -/
  | settings {fault : Settings.Fault} : disk.settings invocation.options.config = .error fault →
      OtherwiseFails environment disk invocation
  /-- There are no records. -/
  | records {settings : Settings} : disk.settings invocation.options.config = .ok settings →
      Stranded disk invocation.options settings invocation.command →
      OtherwiseFails environment disk invocation
  /-- The report cannot be written to its file. -/
  | output {settings : Settings} {report path : String} {fault : FileFault} :
      disk.settings invocation.options.config = .ok settings →
      Reports disk invocation.options settings (colors environment invocation.options)
        invocation.command report →
      invocation.options.output = some path → disk.write path report = .error fault →
      OtherwiseFails environment disk invocation

/-- `Delivers environment disk invocation stdout after`: the report is written to the standard
output, ended by a line feed, and the files stay as they are; or it becomes the content of a file,
the others stay as they are, and nothing is written to the standard output. -/
inductive Delivers (environment : Environment) (disk : Disk) (invocation : Invocation) :
    String → Disk → Prop where
  /-- No file is named for the report. -/
  | stdout {settings : Settings} {report : String} :
      disk.settings invocation.options.config = .ok settings →
      Reports disk invocation.options settings (colors environment invocation.options)
        invocation.command report →
      invocation.options.output = none →
      Delivers environment disk invocation (endLine report) disk
  /-- A file is named for it. -/
  | file {settings : Settings} {report path : String} {after : Disk} :
      disk.settings invocation.options.config = .ok settings →
      Reports disk invocation.options settings (colors environment invocation.options)
        invocation.command report →
      invocation.options.output = some path → disk.OnlyWrites path report after →
      Delivers environment disk invocation "" after

section Ends

variable (environment : Environment) {disk : Disk} {invocation : Invocation}

theorem run_of_requestFails (h : RequestFails disk invocation) :
    ∃ fault : RunFault, fault.exitCode = 2 ∧
      (run environment invocation : StateM Disk Outcome).run disk =
        (failure environment invocation.options fault, disk) := by
  obtain ⟨settings, hsettings, hrefused⟩ := h
  obtain ⟨fault, hcode, hreport⟩ := run_report_of_refused hrefused
  exact ⟨fault, hcode, by rw [run_of_settings hsettings, hreport]⟩

theorem run_of_otherwiseFails (h : OtherwiseFails environment disk invocation) :
    ∃ fault : RunFault, fault.exitCode = 1 ∧
      (run environment invocation : StateM Disk Outcome).run disk =
        (failure environment invocation.options fault, disk) := by
  cases h with
  | @settings fault hsettings => exact ⟨.settings fault, rfl, run_of_badSettings hsettings⟩
  | records hsettings hstranded =>
    obtain ⟨fault, hcode, hreport⟩ := run_report_of_stranded hstranded
    exact ⟨fault, hcode, by rw [run_of_settings hsettings, hreport]⟩
  | @output settings report path fault hsettings hreports houtput hwrite =>
    refine ⟨.output path fault, rfl, ?_⟩
    rw [run_of_settings hsettings, run_report_of_reports hreports]
    dsimp only
    rw [run_deliver_file houtput, hwrite]

/-- A run has one of three ends. -/
theorem run_ends (disk : Disk) (invocation : Invocation) :
    RequestFails disk invocation ∨ OtherwiseFails environment disk invocation ∨
      ∃ stdout after, Delivers environment disk invocation stdout after ∧
        (run environment invocation : StateM Disk Outcome).run disk =
          ({ code := 0, stdout }, after) := by
  cases hsettings : disk.settings invocation.options.config with
  | error fault => exact .inr (.inl (.settings hsettings))
  | ok settings =>
    rcases ends disk invocation.options settings (colors environment invocation.options)
      invocation.command with ⟨report, hreports⟩ | hrefused | hstranded
    · refine .inr ?_
      have hrun : (run environment invocation : StateM Disk Outcome).run disk = _ :=
        run_of_settings hsettings
      rw [run_report_of_reports hreports] at hrun
      dsimp only at hrun
      cases houtput : invocation.options.output with
      | none =>
        rw [run_deliver_stdout houtput] at hrun
        exact .inr ⟨_, _, .stdout hsettings hreports houtput, hrun⟩
      | some path =>
        rw [run_deliver_file houtput] at hrun
        cases hwrite : disk.write path report with
        | error fault => exact .inl (.output hsettings hreports houtput hwrite)
        | ok after =>
          rw [hwrite] at hrun
          exact .inr ⟨_, _,
            .file hsettings hreports houtput (Disk.onlyWrites_of_write hwrite), hrun⟩
    · exact .inl ⟨settings, hsettings, hrefused⟩
    · exact .inr (.inl (.records hsettings hstranded))

end Ends

/-- **A failing run leaves no trace.** Take any environment, any command line that was understood,
and any files. A run that does not exit with 0 has written nothing to the standard output and has
left every file as it was. It exits with 2 exactly if the request fails, because its query cannot be
read or its filter is rejected, and with 1 exactly if something else fails: the settings, the
records or the writing of the report. A run that exits with 0 has delivered the report that its
command gives, in one place: on the standard output, ended by a line feed, or as the content of one
file. -/
theorem run_leaves_no_trace (environment : Environment) (invocation : Invocation) (disk : Disk) :
    ∃ outcome after,
      (run environment invocation : StateM Disk Outcome).run disk = (outcome, after) ∧
      (outcome.code ≠ 0 → outcome.stdout = "" ∧ after = disk) ∧
      (outcome.code = 2 ↔ RequestFails disk invocation) ∧
      (outcome.code = 1 ↔ OtherwiseFails environment disk invocation) ∧
      (outcome.code = 0 ∨ outcome.code = 1 ∨ outcome.code = 2) ∧
      (outcome.code = 0 → Delivers environment disk invocation outcome.stdout after ∧
        (invocation.options.output = none → outcome.stdout.toList.getLast? = some '\n')) := by
  generalize hrun : (run environment invocation : StateM Disk Outcome).run disk = ending
  obtain ⟨outcome, after⟩ := ending
  refine ⟨outcome, after, rfl, ?_⟩
  -- each way to fail determines the run, so that only one of the three ends is possible
  have hrequest (h : RequestFails disk invocation) :
      outcome.code = 2 ∧ outcome.stdout = "" ∧ after = disk := by
    obtain ⟨fault, hcode, hfailure⟩ := run_of_requestFails environment h
    cases hrun.symm.trans hfailure
    exact ⟨hcode, rfl, rfl⟩
  have hother (h : OtherwiseFails environment disk invocation) :
      outcome.code = 1 ∧ outcome.stdout = "" ∧ after = disk := by
    obtain ⟨fault, hcode, hfailure⟩ := run_of_otherwiseFails environment h
    cases hrun.symm.trans hfailure
    exact ⟨hcode, rfl, rfl⟩
  rcases run_ends environment disk invocation with h | h | ⟨stdout, _, h, hsuccess⟩
  · obtain ⟨hcode, htrace⟩ := hrequest h
    refine ⟨fun _ => htrace, ⟨fun _ => h, fun _ => hcode⟩,
      ⟨fun hone => ?_, fun ho => (hother ho).1⟩, .inr (.inr hcode), fun hzero => ?_⟩ <;> omega
  · obtain ⟨hcode, htrace⟩ := hother h
    refine ⟨fun _ => htrace, ⟨fun htwo => ?_, fun hr => (hrequest hr).1⟩,
      ⟨fun _ => h, fun _ => hcode⟩, .inr (.inl hcode), fun hzero => ?_⟩ <;> omega
  · cases hrun.symm.trans hsuccess
    refine ⟨fun hne => absurd rfl hne, ⟨fun htwo => ?_, fun hr => (hrequest hr).1⟩,
      ⟨fun hone => ?_, fun ho => (hother ho).1⟩, .inl rfl, fun _ => ⟨h, fun hnone => ?_⟩⟩
    · cases htwo
    · cases hone
    · cases h with
      | stdout => exact getLast?_endLine _
      | file _ _ hsome => exact absurd (hnone.symm.trans hsome) (by simp)

end

/-- The overview of the fields, written to a file. -/
def fieldsToFile : Invocation where
  options := { output := some "fields.txt" }
  command := .fields

/-- It leaves nothing but that file. -/
theorem fieldsToFile_leaves_file :
    ∃ outcome after report,
      (run {} fieldsToFile : StateM Disk Outcome).run ⟨[]⟩ = (outcome, after) ∧
      outcome.code = 0 ∧ outcome.stdout = "" ∧
      Disk.OnlyWrites ⟨[]⟩ "fields.txt" report after := by
  obtain ⟨⟨code, stdout, stderr⟩, after, hrun, -, htwo, hone, hcodes, hzero⟩ :=
    run_leaves_no_trace {} fieldsToFile ⟨[]⟩
  have hwritable : (Disk.write ⟨[]⟩ "fields.txt" "").isOk := by decide +kernel
  have hrequest : ¬ RequestFails ⟨[]⟩ fieldsToFile := by
    rintro ⟨settings, -, hrefused⟩
    cases hrefused with
    | rejected hasks _ => cases hasks
  have hother : ¬ OtherwiseFails {} ⟨[]⟩ fieldsToFile := by
    intro h
    cases h with
    | settings h => cases h
    | records _ hstranded =>
      cases hstranded with
      | noFile hasks _ => cases hasks
      | noRecords hasks _ _ => cases hasks
    | output _ _ hpath hwrite =>
      cases hpath
      rw [Disk.write] at hwritable hwrite
      split at hwrite
      · next hdirectory => rw [hdirectory] at hwritable; cases hwritable
      · next hnowhere => rw [hnowhere] at hwritable; cases hwritable
      · cases hwrite
  have hcode : code = 0 := by
    have hnotTwo : code ≠ 2 := mt htwo.mp hrequest
    have hnotOne : code ≠ 1 := mt hone.mp hother
    dsimp only at hcodes
    omega
  obtain ⟨hdelivers, -⟩ := hzero hcode
  cases hdelivers with
  | stdout _ _ hnone => cases hnone
  | @file settings report path after _ _ hpath honly =>
    cases hpath
    exact ⟨_, _, report, hrun, hcode, rfl, honly⟩

end Program
end LogSieve
