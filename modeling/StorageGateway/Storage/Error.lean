/-!
# Why a storage operation fails

The causes, and for each the text that is shown.
-/

namespace StorageGateway

/-- Why an operation on mounts or storages fails. -/
inductive StorageError where
  | notFound (path : String)
  | alreadyExists (path : String)
  | notADirectory (path : String)
  | invalidPath (path : String)
  /-- Nothing is mounted at the path. -/
  | noMountPoint (path : String)
  /-- A source did not answer; a later request may succeed. -/
  | unavailable (reason : String)
  /-- The driver has no such operation. -/
  | unsupported (driver operation : String)
  /-- The caller gave up. -/
  | cancelled
  | other (reason : String)
deriving DecidableEq, Repr

namespace StorageError

/-- The text shown for the error. -/
def message : StorageError → String
  | notFound path => "not found: " ++ path
  | alreadyExists path => "already exists: " ++ path
  | notADirectory path => "not a directory: " ++ path
  | invalidPath path => "invalid path: " ++ path
  | noMountPoint path => "no mount point for path: " ++ path
  | unavailable reason => "backend unavailable: " ++ reason
  | unsupported driver operation => driver ++ " does not support " ++ operation
  | cancelled => "operation cancelled"
  | other reason => reason

/-- Whether the error says that nothing is there. -/
def isMissing : StorageError → Bool
  | notFound _ => true
  | noMountPoint _ => true
  | _ => false

end StorageError

end StorageGateway
