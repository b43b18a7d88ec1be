import StorageGateway.Listing.Gather
import StorageGateway.Release.Source

/-!
# A repository at a path

A `RepositoryView` shows one repository: either the files of its newest release, or a directory for
each release. What it fetches it keeps until a refresh. A fetch that fails, or that the caller does
not wait for, leaves what is kept as it was.
-/

namespace StorageGateway

/-- Which releases a point shows. -/
inductive ViewMode where
  /-- The files of the newest release. -/
  | latest
  /-- A directory for each release. -/
  | allVersions
deriving DecidableEq, Repr

/-- The name of the mode. -/
def ViewMode.name : ViewMode → String
  | latest => "latest"
  | allVersions => "all_versions"

/-- The mode of a name. -/
def ViewMode.ofName? (s : String) : Option ViewMode :=
  [latest, allVersions].find? (·.name == s)

/-- What a point keeps of what it has fetched, and what it tells about it. -/
structure Kept where
  newest : Option Release
  releases : Option (List Release)
  extras : Option (List Asset)
  /-- The bytes that are told to be at the point. -/
  usage : Size
  /-- Whether the releases that the mode shows are told to be there. -/
  isFilled : Bool
deriving DecidableEq

namespace Kept

/-- Nothing fetched. -/
def nothing : Kept := ⟨none, none, none, 0, false⟩

/-- The data of one set, if it was fetched. -/
def data? (k : Kept) : (d : DataSet) → Option d.Content
  | .newest => k.newest
  | .releases => k.releases
  | .extras => k.extras

/-- Tell the size of releases that were fetched, if they are those that the mode of the point shows. -/
def publish (k : Kept) (mode fetched : ViewMode) (size : Size) : Kept :=
  if mode = fetched then { k with usage := size, isFilled := true } else k

/-- Keep data that was fetched. -/
def keep (k : Kept) (mode : ViewMode) : (d : DataSet) → d.Content → Kept
  | .newest, release => { k.publish mode .latest (Release.size release) with newest := some release }
  | .releases, releases =>
    { k.publish mode .allVersions (Release.totalSize releases) with releases := some releases }
  | .extras, extras => { k with extras := some extras }

end Kept

/-- A repository at a path. -/
structure RepositoryView where
  point : Path
  repo : String
  mode : ViewMode
  /-- Show the repository's own files beside the releases. -/
  showExtras : Bool
  kept : Kept
deriving DecidableEq

/-- Why a visit ends early. -/
inductive Stop where
  | failed (e : StorageError)
  /-- The caller gave up. -/
  | interrupted
deriving DecidableEq

/-- What a call for data comes to when the caller has some patience. -/
def DataSet.outcome (d : DataSet) (source : Source) (repo : String) (patience : Patience) :
    Except Stop d.Content :=
  if (patience.after source.delay).isSpent then .error .interrupted
  else (d.answer source repo).mapError .failed

/-- A call to a source, and what it came to. -/
structure Fetch where
  dataSet : DataSet
  outcome : Except Stop dataSet.Content

/-- The course of a visit: what the point keeps, and what the visit took so far. -/
structure Course where
  kept : Kept
  /-- The calls to the source, the first one first. -/
  fetches : List Fetch
  elapsed : Nat
  patience : Patience

/-- The course after a call. -/
def Course.called (c : Course) (source : Source) (repo : String) (d : DataSet) : Course :=
  { c with
    fetches := c.fetches ++ [⟨d, d.outcome source repo c.patience⟩]
    elapsed := c.elapsed + c.patience.passing source.delay
    patience := c.patience.after source.delay }

/-- A part of a visit. -/
abbrev Visiting := EStateM Stop Course

/-- Call the source for some data and wait for the answer. -/
def Visiting.call (source : Source) (repo : String) (d : DataSet) : Visiting d.Content := do
  let c ← get
  set (c.called source repo d)
  match d.outcome source repo c.patience with
  | .ok data => return data
  | .error stop => throw stop

namespace RepositoryView

/-- A point that has fetched nothing. -/
def new (point : Path) (repo : String) (mode : ViewMode) (showExtras : Bool) : RepositoryView :=
  ⟨point, repo, mode, showExtras, .nothing⟩

/-- Whether the releases that the mode shows were fetched. -/
def isFilled (p : RepositoryView) : Bool := p.kept.isFilled

/-- The bytes that are known to be at the point, those of the releases that its mode shows; none before
the first fetch. -/
def usage (p : RepositoryView) : Size := p.kept.usage

/-- Data that is kept if it was fetched before, unless a refresh is asked for, and fetched
otherwise. -/
def fetch (p : RepositoryView) (source : Source) (refresh : Bool) (d : DataSet) :
    Visiting d.Content := do
  match (← get).kept.data? d, refresh with
  | some data, false => return data
  | _, _ =>
    let data ← .call source p.repo d
    modify fun c => { c with kept := c.kept.keep p.mode d data }
    return data

/-- The newest release, fetched if it is not kept or if a refresh is asked for. -/
def newest (p : RepositoryView) (source : Source) (refresh : Bool) : Visiting Release :=
  p.fetch source refresh .newest

/-- All releases, fetched if they are not kept or if a refresh is asked for. -/
def releases (p : RepositoryView) (source : Source) (refresh : Bool) : Visiting (List Release) :=
  p.fetch source refresh .releases

/-- The repository's own files, fetched if they are not kept or if a refresh is asked for. -/
def extras (p : RepositoryView) (source : Source) (refresh : Bool) : Visiting (List Asset) :=
  p.fetch source refresh .extras

/-- Assets as the files of a directory. -/
def assetEntries (dir : Path) (assets : List Asset) : List Entry :=
  assets.map fun a => .file dir a.name a.size a.created a.updated (some a.url)

/-- The entries shown when the point itself is listed. Without the repository's own files the
others are still shown. -/
def entriesHere (p : RepositoryView) (source : Source) (refresh : Bool) :
    Visiting (List Entry) := do
  let entries ← match p.mode with
    | .latest => do
      let release ← p.newest source refresh
      pure (assetEntries p.point release.assets)
    | .allVersions => do
      let releases ← p.releases source refresh
      pure (releases.map fun r => .directory p.point r.tag r.size r.created r.published)
  if p.showExtras then
    tryCatch (do return entries ++ assetEntries p.point (← p.extras source refresh)) fun
      | .failed _ => return entries
      | .interrupted => throw .interrupted
  else return entries

/-- The directory that stands for the point in a listing of `request` above it. -/
def entriesAbove (p : RepositoryView) (source : Source) (request : Path) (child : String)
    (refresh : Bool) : Visiting (List Entry) := do
  match p.mode with
  | .latest =>
    let release ← p.newest source refresh
    return [.directory request child release.size release.created release.published]
  | .allVersions =>
    let releases ← p.releases source refresh
    match releases with
    | [] => return []
    | newest :: _ =>
      return [.directory request child (Release.totalSize releases) newest.created
        newest.published]

/-- The assets of the release whose tag is requested. Deeper down there is nothing. -/
def entriesOfTag (p : RepositoryView) (source : Source) (selector rest : String) (refresh : Bool) :
    Visiting (List Entry) := do
  if p.mode = .latest ∨ rest ≠ "" then return []
  let releases ← p.releases source refresh
  match releases.find? (·.tag == selector) with
  | some r => return assetEntries (p.point.join selector) r.assets
  | none => return []

/-- The entries that the point shows at a path on which it bears in some way. -/
def entries (p : RepositoryView) (source : Source) (request : Path) (bearing : Bearing)
    (refresh : Bool) : Visiting (List Entry) :=
  match bearing with
  | .exact => p.entriesHere source refresh
  | .ancestor child => p.entriesAbove source request child refresh
  | .descendant selector rest => p.entriesOfTag source selector rest refresh
  | .unrelated => return []

/-- Visit the point. -/
def visit (source : Source) (p : RepositoryView) (request : Path) (bearing : Bearing)
    (refresh : Bool) (patience : Patience) : Visit RepositoryView :=
  let ended (reply : Reply) (interrupted : Bool) (c : Course) : Visit RepositoryView :=
    { reply, interrupted, point := { p with kept := c.kept }, calls := c.fetches.length,
      elapsed := c.elapsed }
  match (p.entries source request bearing refresh).run ⟨p.kept, [], 0, patience⟩ with
  | .ok entries c => ended (.entries entries) false c
  | .error (.failed e) c => ended (.failed e) false c
  | .error .interrupted c => ended (.failed .cancelled) true c

/-- Repositories, as they are asked for a listing. -/
def kind (source : Source) : PointKind RepositoryView where
  label p := p.point.text
  visit := visit source

end RepositoryView

end StorageGateway
