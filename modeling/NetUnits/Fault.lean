/-!
# Faults of the machine

A file or program operation that the machine refuses gives a **fault**. Faults are causes; their
wording is that of the system.
-/

namespace NetUnits

/-- **Why the machine refused an operation.** -/
inductive Fault where
  /-- There is no such file, directory or program. -/
  | notFound
  /-- A file was looked for under something that is not a directory. -/
  | notDirectory
  /-- A file operation met a directory. -/
  | isDirectory
  /-- A file stands where a directory was to be made. -/
  | alreadyExists
  /-- The file may not be used so. -/
  | denied
  /-- A name is longer than the file system allows. -/
  | nameTooLong
  /-- The bytes read are not text. -/
  | invalidText
  /-- An argument of a program holds a NUL, which ends texts for the system. -/
  | nulByte
  /-- A path holds a NUL. -/
  | nulInPath
  /-- A host reported that the file does not exist. -/
  | missing
  /-- The operation is not available here. -/
  | unsupported
deriving DecidableEq

namespace Fault

/-- The wording of a fault. -/
def message : Fault → String
  | .notFound => "No such file or directory (os error 2)"
  | .notDirectory => "Not a directory (os error 20)"
  | .isDirectory => "Is a directory (os error 21)"
  | .alreadyExists => "File exists (os error 17)"
  | .denied => "Permission denied (os error 13)"
  | .nameTooLong => "File name too long (os error 36)"
  | .invalidText => "stream did not contain valid UTF-8"
  | .nulByte => "nul byte found in provided data"
  | .nulInPath => "file name contained an unexpected NUL byte"
  | .missing => "entity not found"
  | .unsupported => "Function not implemented (os error 38)"

/-- Whether the fault says that something does not exist. -/
def isNotFound : Fault → Bool
  | .notFound | .missing => true
  | _ => false

end Fault

end NetUnits
