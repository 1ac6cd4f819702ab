/-!
# Access to files

What a program can do with text files, whatever holds them, and why it may fail.
-/

namespace LogSieve

/-- Why a file cannot be read or written. -/
inductive FileFault where
  /-- No such file, or no directory to hold it. -/
  | notFound
  /-- The file may not be used. -/
  | denied
  /-- A file stands where a directory is needed. -/
  | notDirectory
  /-- A directory stands where a file is needed. -/
  | isDirectory
  /-- A name on the way to the file is too long. -/
  | nameTooLong
  /-- The name holds a NUL character. -/
  | nulInName
  /-- The file is not UTF-8 text. -/
  | notText
  /-- Another reason, in words. -/
  | other (reason : String)
deriving DecidableEq

/-- The fault in words. -/
def FileFault.message : FileFault → String
  | notFound => "No such file or directory (os error 2)"
  | denied => "Permission denied (os error 13)"
  | notDirectory => "Not a directory (os error 20)"
  | isDirectory => "Is a directory (os error 21)"
  | nameTooLong => "File name too long (os error 36)"
  | nulInName => "file name contained an unexpected NUL byte"
  | notText => "stream did not contain valid UTF-8"
  | other reason => reason

/-- Reading and writing of whole text files. -/
class FileAccess (m : Type → Type) where
  /-- The text of the file at a path. -/
  readFile : String → m (Except FileFault String)
  /-- Gives the file at a path a text, in place of any that it has. -/
  writeFile : String → String → m (Except FileFault Unit)

export FileAccess (readFile writeFile)

end LogSieve
