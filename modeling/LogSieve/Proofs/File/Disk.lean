import LogSieve.File.Disk
import LogSieve.Proofs.Entries
import LogSieve.Record.Storage
import LogSieve.Settings

/-!
# What programs do to a directory of files

Reading leaves a directory as it is, so that a program that only reads is a function of it: here the
records and the settings in a file are written as such functions (`records`, `settings`). Writing
changes the file that the path leads to and no other (`onlyWrites_of_write`), and changes nothing if
it fails.
-/

namespace LogSieve

namespace Disk

/-! ### Writing -/

/-- The file that the path leads to holds the text, and every other file is as before. -/
def OnlyWrites (disk : Disk) (path text : String) (after : Disk) : Prop :=
  ∃ name, disk.resolve path = .file name ∧ after.content? name = some text.toUTF8 ∧
    ∀ other, other ≠ name → after.content? other = disk.content? other

theorem onlyWrites_of_write {disk after : Disk} {path text : String}
    (h : disk.write path text = .ok after) : disk.OnlyWrites path text after := by
  unfold write at h
  split at h
  · cases h
  · cases h
  · next name hname =>
    cases h
    exact ⟨name, hname, Entries.lookup_put_self _ _, fun other hother =>
      Entries.lookup_put_of_ne hother _ _⟩

/-! ### Reading -/

/-- The records in the file at a path. -/
def records (disk : Disk) (path : String) : Except StorageFault (List LogRecord) :=
  match disk.read path with
  | .error fault => .error (.unreadable path fault)
  | .ok text => (parseRecords text).mapError (.malformed path)

/-- The settings in the file at a path, or the defaults without a path. -/
def settings (disk : Disk) (path : Option String) : Except Settings.Fault Settings :=
  match path with
  | none => .ok {}
  | some path =>
    match disk.read path with
    | .error fault => .error (.unreadable path fault)
    | .ok text => Settings.parse path text

end Disk

/-! ### Runs -/

variable (disk : Disk)

theorem run_writeFile (path text : String) :
    (writeFile path text : StateM Disk _).run disk =
      match disk.write path text with
      | .ok after => (.ok (), after)
      | .error fault => (.error fault, disk) := by
  change (match disk.write path text with | .ok _ => _ | .error _ => _ : StateM Disk _).run disk = _
  cases disk.write path text <;> rfl

theorem run_fetchAll_ofFile (path : String) :
    ((Store.ofFile path).fetchAll : StateM Disk _).run disk = (disk.records path, disk) := by
  rw [Disk.records]
  change (match disk.read path with | .error _ => _ | .ok _ => _ : StateM Disk _).run disk = _
  cases disk.read path <;> rfl

theorem run_load (path : Option String) :
    (Settings.load path : StateM Disk _).run disk = (disk.settings path, disk) := by
  cases path with
  | none => rfl
  | some path =>
    rw [Disk.settings]
    change (match disk.read path with | .error _ => _ | .ok _ => _ : StateM Disk _).run disk = _
    cases disk.read path <;> rfl

end LogSieve
