import StorageGateway.Json.Basic
import StorageGateway.Path.Basic
import StorageGateway.Pattern.Reader

/-!
# Metas

A meta attaches rules to a directory: a password, hide patterns, and a leave to write. Each rule
holds in the directory itself and, if the meta says so, everywhere beneath it. `DirectoryRules` is a
meta in use: its path is clean and its hide patterns are read, by whichever engine there is.

A `MetaIndex` keeps the metas in use by their paths. At most one meta belongs to a directory. A
path is governed by the meta of the directory that is nearest to it on the way up.
-/

namespace StorageGateway

/-- Rules attached to a directory. -/
structure Meta where
  path : String
  /-- Empty if no password is asked for. -/
  password : String
  /-- The password guards what lies beneath too. -/
  passwordBelow : Bool
  /-- Everybody who comes here may write. -/
  write : Bool
  writeBelow : Bool
  /-- Hide patterns, one on each line. -/
  hide : String
  hideBelow : Bool
deriving DecidableEq, Repr

namespace Meta

/-- A meta without rules. -/
def plain (path : String) : Meta :=
  { path, password := "", passwordBelow := false, write := false, writeBelow := false,
    hide := "", hideBelow := false }

/-- The meta with a password. -/
def guardedBy (m : Meta) (password : String) (below : Bool) : Meta :=
  { m with password, passwordBelow := below }

/-- The meta with hide patterns. -/
def hidingMatches (m : Meta) (patterns : String) (below : Bool) : Meta :=
  { m with hide := patterns, hideBelow := below }

/-- The meta with the leave to write. -/
def openToWrite (m : Meta) (below : Bool) : Meta :=
  { m with write := true, writeBelow := below }

/-- Whether a rule of the meta holds at `p`, if it reaches below as `below` says. -/
def reaches (m : Meta) (p : Path) (below : Bool) : Bool :=
  Path.ofText m.path == p || (below && (Path.ofText m.path).covers p)

/-- Whether a password is asked for. -/
def asksPassword (m : Meta) : Bool := m.password != ""

/-- Whether there is a line that is not blank among the hide patterns. -/
def hasPatterns (m : Meta) : Bool := !Text.isAllBlank m.hide

open Json in
/-- Read a meta. -/
def ofJson? (j : Json) : Option Meta := do
  match ← fields? ["path", "password", "p_sub", "write", "w_sub", "hide", "h_sub"] j with
  | [path, password, passwordBelow, write, writeBelow, hide, hideBelow] =>
    return {
      path := ← required string? path
      password := ← optional string? "" password
      passwordBelow := ← optional bool? false passwordBelow
      write := ← optional bool? false write
      writeBelow := ← optional bool? false writeBelow
      hide := ← optional string? "" hide
      hideBelow := ← optional bool? false hideBelow }
  | _ => none

end Meta

/-- An engine that reads hide patterns. -/
class PatternEngine where
  /-- What a pattern says of a name, which is whether a part of the name matches it; nothing, if the text
  is no pattern. -/
  read? : List Char → Option (String → Bool)

/-- The engine for regular expressions. -/
instance : PatternEngine where
  read? line := (Pattern.parse? line).map Pattern.Expr.occursIn

/-- Hide patterns that were read, by what they say of names. -/
structure HidePatterns where
  patterns : List (String → Bool)

namespace HidePatterns

/-- The patterns of a text, one on each line that is not blank. A line that is no pattern is left
out. -/
def ofText [PatternEngine] (source : String) : HidePatterns :=
  ⟨(Text.lines source).filterMap PatternEngine.read?⟩

/-- Whether there is no pattern. -/
def isEmpty (h : HidePatterns) : Bool := h.patterns.isEmpty

/-- Whether one of the patterns matches a part of the name. -/
def hides (h : HidePatterns) (name : String) : Bool :=
  h.patterns.any fun pattern => pattern name

end HidePatterns

/-- A meta in use. -/
structure DirectoryRules where
  /-- The meta, its path cleaned. -/
  source : Meta
  hide : HidePatterns

namespace DirectoryRules

/-- Put a meta to use. -/
def ofMeta [PatternEngine] (m : Meta) : DirectoryRules :=
  { source := { m with path := (Path.ofText m.path).text }
    hide := if m.hasPatterns then .ofText m.hide else ⟨[]⟩ }

/-- Whether the hide patterns apply to the entries of a directory. -/
def hidesWithin (r : DirectoryRules) (dir : Path) : Bool :=
  !r.hide.isEmpty && r.source.reaches dir r.source.hideBelow

/-- Whether the password guards a path. -/
def locks (r : DirectoryRules) (p : Path) : Bool :=
  r.source.asksPassword && r.source.reaches p r.source.passwordBelow

/-- Whether the meta gives leave to write at a path. -/
def letsWrite (r : DirectoryRules) (p : Path) : Bool :=
  r.source.write && r.source.reaches p r.source.writeBelow

end DirectoryRules

/-- The metas in use, by their paths. -/
structure MetaIndex where
  metas : Dict Path DirectoryRules

namespace MetaIndex

/-- No metas. -/
def empty : MetaIndex := ⟨Dict.empty⟩

instance : Inhabited MetaIndex := ⟨empty⟩

/-- Put a meta at its path, in the stead of the one that was there. -/
def set [PatternEngine] (i : MetaIndex) (m : Meta) : MetaIndex :=
  ⟨i.metas.insert (Path.ofText m.path) (.ofMeta m)⟩

/-- The index without the meta of a path. -/
def remove (i : MetaIndex) (p : Path) : MetaIndex := ⟨i.metas.erase p⟩

/-- The meta of a path itself. -/
def get? (i : MetaIndex) (p : Path) : Option DirectoryRules := i.metas.find? p

/-- The meta of a path or, failing that, of the nearest directory above it that has one. -/
def nearest? (i : MetaIndex) (p : Path) : Option DirectoryRules :=
  p.ancestors.findSome? i.metas.find?

end MetaIndex

end StorageGateway
