import StorageGateway.Path.Basic

/-!
# Where repositories are mounted

A text gives one repository on each line, `owner/name` for the root or `path:owner/name` for a path.
Blank lines, comments behind `#`, and lines that follow neither form are passed over.
-/

namespace StorageGateway

/-- A repository and the path at which it is shown. -/
structure RepositoryMount where
  point : Path
  repo : String
deriving DecidableEq

namespace RepositoryMount

/-- Whether a text is `owner/name` with neither part empty. -/
def isRepository (cs : List Char) : Bool :=
  match Text.split (· == '/') cs with
  | [owner, name] => owner != [] && name != []
  | _ => false

/-- The mount that a line without blanks around it gives. -/
def ofLine? (line : List Char) : Option RepositoryMount :=
  if line.head? = some '#' then none
  else
    let mount (point repo : List Char) : Option RepositoryMount :=
      let repo := Text.trim repo
      if isRepository repo then
        some ⟨.ofText (String.ofList (Text.trim point)), String.ofList repo⟩
      else none
    match Text.split (· == ':') line with
    | [repo] => mount [] repo
    | [point, repo] => mount point repo
    | _ => none

/-- The mounts that a text gives, in the order of its lines. -/
def listOfText (text : String) : List RepositoryMount :=
  (Text.lines text).filterMap ofLine?

end RepositoryMount

end StorageGateway
