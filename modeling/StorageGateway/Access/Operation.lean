import StorageGateway.Json.Basic

/-!
# Operations

What a request wants to do at a path, and the protocol over which it came.
-/

namespace StorageGateway

/-- The protocol over which a request comes. -/
inductive Protocol where
  | http
  | webDav
  | ftp
deriving DecidableEq, Repr

namespace Protocol

/-- The name of the protocol. -/
def name : Protocol → String
  | http => "http"
  | webDav => "web_dav"
  | ftp => "ftp"

/-- The protocol of a name. -/
def ofName? (s : String) : Option Protocol := [http, webDav, ftp].find? (·.name == s)

end Protocol

/-- What a request wants to do at a path. -/
inductive Operation where
  /-- List or download. -/
  | read
  /-- Fetch anew, while listing, what storages keep of their sources. -/
  | refresh
  /-- Upload, or create a directory. -/
  | write
  /-- Give another name in the same directory. -/
  | rename
  /-- Bring to another directory, with another name if `renames`. -/
  | move (renames : Bool)
  | copy
  | remove
  | setProperties
deriving DecidableEq, Repr

namespace Operation

/-- The name of the kind of operation. -/
def name : Operation → String
  | read => "read"
  | refresh => "refresh"
  | write => "write"
  | rename => "rename"
  | move _ => "move"
  | copy => "copy"
  | remove => "remove"
  | setProperties => "set_properties"

/-- The operations that need nothing beside their names. -/
def plain : List Operation := [read, refresh, write, rename, copy, remove, setProperties]

/-- Whether the operation changes what is stored. -/
def isChange : Operation → Bool
  | read => false
  | refresh => false
  | _ => true

open Json in
/-- Read an operation: its name; or an object with its name as the only key, with `null` behind it
or, for a move, a record that tells whether it renames. -/
def ofJson? : Json → Option Operation
  | .string (some s) => plain.find? (·.name == s)
  | .object [(some "move", details)] => do
    match ← fields? ["renames"] details with
    | [renames] => return move (← required bool? renames)
    | _ => none
  | .object [(some s, .null)] => plain.find? (·.name == s)
  | _ => none

end Operation

end StorageGateway
