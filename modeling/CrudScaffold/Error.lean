/-! Errors of the scaffolder: each constructor is one cause, and `ScaffoldError.message` is
the one place that words them. -/

namespace CrudScaffold

/-- Why an operation on the project's files failed. -/
inductive IoFailure where
  /-- A file was expected where a directory is. -/
  | isADirectory
  /-- A directory was expected where a file is. -/
  | notADirectory
  /-- A directory was to be made where a file is. -/
  | fileExists
deriving Repr, DecidableEq

/-- The operating system's wording of a failure. -/
def IoFailure.message : IoFailure → String
  | .isADirectory => "Is a directory (os error 21)"
  | .notADirectory => "Not a directory (os error 20)"
  | .fileExists => "File exists (os error 17)"

/-- A failure of the scaffolder. All but `clockOverflow` fail one step of a run, which goes
on with the next; `clockOverflow` stops the whole run. -/
inductive ScaffoldError where
  /-- A file operation failed on a path. -/
  | io (path : String) (failure : IoFailure)
  /-- No stub of this name exists. -/
  | stubNotFound (name : String)
  /-- A stub is not a valid template, or failed to render. -/
  | render (name : String) (detail : String)
  /-- The configuration could not be read; the detail says where and why. -/
  | config (detail : String)
  /-- A bulk document could not be read; the detail says where and why. -/
  | bulkParse (detail : String)
  /-- A model name that gives no class name. -/
  | invalidModelName (name : String)
  /-- A word that names no artifact kind. -/
  | unknownArtifactKind (word : String)
  /-- The clock was moved past the last second of its calendar. -/
  | clockOverflow
deriving Repr, DecidableEq

/-- The wording of an error. -/
def ScaffoldError.message : ScaffoldError → String
  | .io path failure => "I/O error on " ++ path ++ ": " ++ failure.message
  | .stubNotFound name => "Stub not found: " ++ name
  | .render name detail => "Failed to render stub '" ++ name ++ "': " ++ detail
  | .config detail => "Configuration error: " ++ detail
  | .bulkParse detail => detail
  | .invalidModelName name => "Invalid model name: '" ++ name ++ "'"
  | .unknownArtifactKind word => "Unknown artifact kind: '" ++ word ++ "'"
  | .clockOverflow => "\x60NaiveDateTime + TimeDelta\x60 overflowed"

end CrudScaffold
