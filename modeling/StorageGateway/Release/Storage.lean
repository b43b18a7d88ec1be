import StorageGateway.Release.View
import StorageGateway.Release.Repository

/-!
# Storage of releases

A storage that shows any number of repositories, each at its path, as one tree. It stores nothing
itself; links lead to the host of the releases, through a proxy if one is set.
-/

namespace StorageGateway

/-- The settings of a storage of releases. -/
structure ReleasesSettings where
  /-- The repositories and their paths, one on each line. -/
  repoStructure : String
  /-- Show a directory for each release instead of the files of the newest one. -/
  showAllVersions : Bool
  /-- Show the repositories' own files too. -/
  showReadme : Bool
  /-- Fetch from several repositories at a time; this takes a token. -/
  concurrentRequests : Bool
  token : String
  /-- Stands in for the host of the releases in links, unless blank. -/
  proxy : String
  maxConcurrency : Nat
deriving DecidableEq, Repr

namespace ReleasesSettings

/-- The settings where none are given. -/
def default : ReleasesSettings := ⟨"", false, false, false, "", "", 8⟩

instance : Inhabited ReleasesSettings := ⟨default⟩

/-- The settings that fetch with a token from up to `max` repositories at a time. -/
def concurrently (c : ReleasesSettings) (token : String) (max : Nat) : ReleasesSettings :=
  { c with concurrentRequests := true, token, maxConcurrency := max }

/-- The mode of the points. -/
def mode (c : ReleasesSettings) : ViewMode := if c.showAllVersions then .allVersions else .latest

/-- The points that the settings ask for, with nothing fetched. -/
def points (c : ReleasesSettings) : List RepositoryView :=
  (RepositoryMount.listOfText c.repoStructure).map fun m =>
    .new m.point m.repo c.mode c.showReadme

/-- How the points are asked. -/
def options (c : ReleasesSettings) : GatherOptions :=
  if c.concurrentRequests && c.token != "" then .atOnce c.maxConcurrency else .inTurn

end ReleasesSettings

/-- A storage of releases. -/
structure Releases where
  settings : ReleasesSettings
  points : List RepositoryView
deriving DecidableEq

namespace Releases

/-- The storage with nothing fetched. -/
def new (settings : ReleasesSettings) : Releases := ⟨settings, settings.points⟩

/-- The storage with everything fetched forgotten. -/
def reset (r : Releases) : Releases := new r.settings

/-- The bytes known to be at all points. -/
def usage (r : Releases) : Size := .total (r.points.map RepositoryView.usage)

/-- List a path; the answer comes with the storage afterwards. -/
def list (r : Releases) (source : Source) (request : Path) (refresh : Bool) (patience : Patience) :
    Gathering RepositoryView :=
  (RepositoryView.kind source).gather r.settings.options r.points request refresh patience

/-- The host for which a proxy stands in. -/
def releasesHost : String := "https://github.com"

/-- A text without the slashes at its end. -/
def dropSlashes (cs : List Char) : List Char := (cs.reverse.dropWhile (· == '/')).reverse

/-- A link through a proxy, if one is set and the link leads to the host of the releases. -/
def throughProxy (url proxy : String) : String :=
  match dropSlashes (Text.trim proxy.toList) with
  | [] => url
  | proxy =>
    match releasesHost.toList.isPrefixOf? url.toList with
    | some rest => String.ofList (proxy ++ rest)
    | none => url

/-- The link of a listed asset. -/
def link (r : Releases) (e : Entry) : Except StorageError Link :=
  match e.locator with
  | some url => .ok ⟨throughProxy url r.settings.proxy⟩
  | none => .error (.notFound e.path.text)

end Releases

end StorageGateway
