import LogSieve.Entries
import LogSieve.File.Access

/-!
# A directory of files

The files of one directory as a value. Programs that use files run on it without effects: reading
leaves it as it is, and writing changes one file, or nothing if it fails.
-/

namespace LogSieve

/-- The files of a directory, in ascending order of their names. -/
structure Disk where
  /-- The names with the contents. -/
  files : List (String × ByteArray)

/-- What a path leads to. -/
inductive Place where
  /-- The file of a name in the directory. -/
  | file (name : String)
  /-- A directory. -/
  | directory
  /-- Nothing that can be used. -/
  | nowhere (fault : FileFault)

namespace Disk

/-- The content of the file of a name. -/
def content? (disk : Disk) (name : String) : Option ByteArray := Entries.lookup name disk.files

/-- The components of a path. -/
def components (path : List Char) : List (List Char) :=
  path.foldr (fun c parts =>
    if c = '/' then [] :: parts
    else
      match parts with
      | [] => [[c]]
      | part :: rest => (c :: part) :: rest) [[]]

/-- Is the name of a component short enough? -/
def isShort (name : List Char) : Bool := (String.ofList name).utf8ByteSize ≤ 255

/-- What a path leads to from the directory, when nothing but its files exists. -/
def resolve (disk : Disk) (path : String) : Place :=
  let chars := path.toList
  let parts := (components chars).filter fun part => part ≠ [] ∧ part ≠ ['.']
  if chars.contains '\x00' then .nowhere .nulInName
  else if chars.isEmpty then .nowhere .notFound
  else
    match parts with
    | [] => .directory
    | first :: rest =>
      let name := String.ofList first
      if !isShort first then .nowhere .nameTooLong
      else if chars.head? = some '/' then .nowhere .notFound
      else if first = ['.', '.'] then
        if rest.all (· = ['.', '.']) then .directory else .nowhere .notFound
      else if rest.isEmpty && chars.getLast? ≠ some '/' then .file name
      else if (disk.content? name).isSome then .nowhere .notDirectory
      else .nowhere .notFound

/-- The text of the file at a path. -/
def read (disk : Disk) (path : String) : Except FileFault String :=
  match disk.resolve path with
  | .directory => .error .isDirectory
  | .nowhere fault => .error fault
  | .file name =>
    match disk.content? name with
    | none => .error .notFound
    | some bytes =>
      match String.fromUTF8? bytes with
      | some text => .ok text
      | none => .error .notText

/-- The directory with a text written to the file at a path. -/
def write (disk : Disk) (path text : String) : Except FileFault Disk :=
  match disk.resolve path with
  | .directory => .error .isDirectory
  | .nowhere fault => .error fault
  | .file name => .ok ⟨Entries.put name text.toUTF8 disk.files⟩

end Disk

instance : FileAccess (StateM Disk) where
  readFile path := do return (← get).read path
  writeFile path text := do
    match (← get).write path text with
    | .ok disk =>
      set disk
      return .ok ()
    | .error fault => return .error fault

end LogSieve
