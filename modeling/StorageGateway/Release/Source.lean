import StorageGateway.Listing.Entry
import StorageGateway.Storage.Error

/-!
# Where releases come from

A repository publishes releases, newest first, each with files attached to it; beside them it has
files of its own such as a readme. A `Source` answers for many repositories, after a delay, and can
fail for some of them.
-/

namespace StorageGateway

/-- A file that can be downloaded. -/
structure Asset where
  name : String
  size : Size
  url : String
  created : Time
  updated : Time
deriving DecidableEq

/-- A release and the files attached to it. -/
structure Release where
  tag : String
  created : Time
  published : Time
  assets : List Asset
deriving DecidableEq

namespace Release

/-- The bytes of all attached files. -/
def size (r : Release) : Size := .total (r.assets.map Asset.size)

/-- The bytes of several releases. -/
def totalSize (releases : List Release) : Size := .total (releases.map size)

end Release

/-- Where release data comes from. -/
structure Source where
  releases : Dict String (List Release)
  extras : Dict String (List Asset)
  /-- Repositories for which every call fails. -/
  failing : List String
  /-- Repositories for which only calls for their own files fail. -/
  extrasFailing : List String
  /-- How many milliseconds a call takes. -/
  delay : Nat
deriving DecidableEq

namespace Source

/-- A source that knows of no repository. -/
def empty : Source := ⟨Dict.empty, Dict.empty, [], [], 0⟩

instance : Inhabited Source := ⟨empty⟩

/-- A list with a name in it or not. -/
def mark (on : Bool) (name : String) (names : List String) : List String :=
  if on then name :: names else names.filter (· != name)

/-- Replace the releases of a repository. -/
def publish (s : Source) (repo : String) (releases : List Release) : Source :=
  { s with releases := s.releases.insert repo releases }

/-- Replace the files that a repository has of its own. -/
def provide (s : Source) (repo : String) (extras : List Asset) : Source :=
  { s with extras := s.extras.insert repo extras }

/-- Let every call for a repository fail, or succeed again. -/
def fail (s : Source) (repo : String) (on : Bool) : Source :=
  { s with failing := mark on repo s.failing }

/-- Let calls for a repository's own files fail, or succeed again. -/
def failExtras (s : Source) (repo : String) (on : Bool) : Source :=
  { s with extrasFailing := mark on repo s.extrasFailing }

/-- An answer of a source for a repository, unless every call for it fails. -/
def answering {α : Type} (s : Source) (repo : String) (answer : Except StorageError α) :
    Except StorageError α :=
  if s.failing.contains repo then .error (.unavailable (repo ++ ": upstream error")) else answer

/-- Every release of a repository, newest first. -/
def allReleases (s : Source) (repo : String) : Except StorageError (List Release) :=
  s.answering repo <|
    match s.releases.find? repo with
    | some releases => .ok releases
    | none => .error (.notFound repo)

/-- The newest release of a repository. -/
def newestRelease (s : Source) (repo : String) : Except StorageError Release :=
  s.answering repo <|
    match (s.releases.find? repo).bind List.head? with
    | some release => .ok release
    | none => .error (.notFound repo)

/-- The files that a repository has of its own. -/
def ownFiles (s : Source) (repo : String) : Except StorageError (List Asset) :=
  s.answering repo <|
    if s.extrasFailing.contains repo then
      .error (.unavailable (repo ++ ": extra files unavailable"))
    else .ok ((s.extras.find? repo).getD [])

end Source

/-- The data for which there are calls. -/
inductive DataSet where
  | newest
  | releases
  | extras
deriving DecidableEq, Repr

namespace DataSet

/-- What a call for the data brings. -/
def Content : DataSet → Type
  | newest => Release
  | releases => List Release
  | extras => List Asset

/-- What a source has to say to a call for the data. -/
def answer (source : Source) (repo : String) : (d : DataSet) → Except StorageError d.Content
  | newest => source.newestRelease repo
  | releases => source.allReleases repo
  | extras => source.ownFiles repo

end DataSet

end StorageGateway
