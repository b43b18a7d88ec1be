import StorageGateway.Proofs.Access.Visible
import StorageGateway.Proofs.Account.Store
import StorageGateway.Proofs.Gateway.Standing
import StorageGateway.Proofs.Meta.Index

/-!
# Hidden entries

An entry that a listing leaves out for its name is expected to be out of reach as well. The listing
goes by the meta that governs the directory, while a request for the entry goes by the meta that
governs the entry; these differ as soon as the entry has a meta of its own, and then its password
alone is asked for. Main statement: `hidden_entry_denied_iff`.
-/

namespace StorageGateway

namespace DirectoryRules

/-- Rules of a path do not reach the directory that holds it. -/
theorem not_hidesWithin_of_child {r : DirectoryRules} {p q : Path} {s : String}
    (child : q.IsChild p s) (own : Path.ofText r.source.path = q) : r.hidesWithin p = false := by
  have apart : (q == p) = false := by
    rw [beq_eq_false_iff_ne]
    rintro rfl
    have covers := q.covers_refl
    rw [child.not_covers] at covers
    contradiction
  rw [hidesWithin, Meta.reaches, own, apart, child.not_covers]
  simp

end DirectoryRules

namespace Clearance

variable {c : Clearance} {rules : Option DirectoryRules} {dir child : Path}

/-- What a listing leaves out has a name that is not visible in the directory. -/
theorem not_shows_of_left_out {entries : List Entry} {e : Entry} (listed : e ∈ entries)
    (leftOut : e ∉ c.visibleEntries rules dir entries) : c.shows rules dir e.name = false := by
  rw [visibleEntries_eq_filter, List.mem_filter, not_and] at leftOut
  exact eq_false_of_ne_true (leftOut listed)

/-- Rules of a path do not hide the path. -/
theorem sees_own {r : DirectoryRules} {s : String} (isChild : child.IsChild dir s)
    (own : Path.ofText r.source.path = child) : c.sees (some r) child = true := by
  simp [sees, isChild.parent_eq, DirectoryRules.not_hidesWithin_of_child isChild own]

/-- Whoever may read a path gets past rules of its own with their password. -/
theorem mayEnter_own {r : DirectoryRules} {s : String} (isChild : child.IsChild dir s)
    (own : Path.ofText r.source.path = child) (readable : c.mayRead child = true) :
    c.mayEnter (some r) child r.source.password = true := by
  simp [mayEnter, readable, sees_own isChild own]

end Clearance

namespace Serving

variable {g g₁ : Gateway} {u : User} {d n : String} {s : Standing}

theorem resolve_below (u : User) (d : String) (segment : IsSegment n) {path : Path}
    (leads : u.resolve d = .ok path) : u.resolve (d ++ "/" ++ n) = .ok (path.join n) := by
  have up : ".." ∉ pieces (d ++ "/" ++ n) ↔ ".." ∉ pieces d := by
    rw [pieces_append, Path.pieces_of_isSegment segment, List.mem_append, List.mem_singleton,
      not_or]
    exact and_iff_left (Ne.symm segment.2.2.1)
  rw [User.resolve, Path.joinBelow] at leads ⊢
  split at leads
  · contradiction
  · next stays =>
    cases leads
    rw [if_neg (up.mpr stays), Path.join_join]

/-- To a request for an entry the user stands as to its directory, but by the rules of the entry. -/
theorem standing_below (stands : standing u d g = .ok s g₁) (segment : IsSegment n) :
    standing u (d ++ "/" ++ n) g =
      .ok { path := s.path.join n, clearance := s.clearance,
            rules := g.metas.nearest? (s.path.join n) } g₁ := by
  obtain ⟨leads, -, accounts, granted, rfl⟩ := of_standing stands
  have below := standing_run g u (d ++ "/" ++ n)
  rw [resolve_below u d segment leads] at below
  obtain ⟨c, others, run, told⟩ := below
  rw [granted] at run
  cases run
  exact told

theorem rules_of_standing (stands : standing u d g = .ok s g₁) :
    s.rules = g.metas.nearest? s.path :=
  (of_standing stands).2.1

/-- An entry that a listing of its directory leaves out is denied to every request, exactly if it
has no meta of its own or cannot be read anyway. -/
theorem hidden_entry_denied_iff [PatternEngine] (built : g.metas.Built)
    (stands : standing u d g = .ok s g₁) {entries : List Entry} {e : Entry}
    (segment : IsSegment e.name) (listed : e ∈ entries) (leftOut : e ∉ s.visibleEntries entries) :
    ((∀ options, Denied (list u (d ++ "/" ++ e.name) options g)) ∧
        ∀ password, Denied (link u (d ++ "/" ++ e.name) password g)) ↔
      g.metas.get? (s.path.join e.name) = none ∨
        s.clearance.mayRead (s.path.join e.name) = false := by
  have child := Path.isChild_join s.path segment
  have below := standing_below stands segment
  have invisible := Clearance.not_shows_of_left_out listed leftOut
  have rules := MetaIndex.nearest?_child (i := g.metas) child
  rw [← rules_of_standing stands] at rules
  constructor
  · rintro ⟨-, denied⟩
    by_contra reachable
    obtain ⟨present, readable⟩ := not_or.mp reachable
    obtain ⟨own, found⟩ := Option.ne_none_iff_exists'.mp present
    rw [found, Option.some_or] at rules
    have closed := (link_denied_iff below own.source.password).mp (denied _)
    have enters := Clearance.mayEnter_own child (built.path_eq found)
      (Bool.eq_true_of_not_eq_false readable)
    rw [← rules] at enters
    exact Bool.false_ne_true (closed.symm.trans enters)
  · intro shut
    have never : ∀ password, s.clearance.mayEnter (g.metas.nearest? (s.path.join e.name))
        (s.path.join e.name) password = false := by
      intro password
      rcases shut with absent | unreadable
      · rw [rules, absent, Option.none_or, Clearance.mayEnter.eq_def, Clearance.sees_of_child child,
          invisible]
        simp
      · rw [Clearance.mayEnter.eq_def, unreadable]
        simp
    exact ⟨fun options => (list_denied_iff below options).mpr (.inl (never _)),
      fun password => (link_denied_iff below password).mpr (never password)⟩

/-- A user who may read everything. -/
def reader : User := ⟨⟨1⟩, "bob", "/", [⟨3⟩], false, 0⟩

/-- What the roles of the reader grant. -/
def readerClearance : Clearance := ⟨[⟨⟨3⟩, "readers", "", [⟨"/", .none⟩]⟩]⟩

/-- A gateway with a tree at `/d` that holds the directory `secret`. The meta of `/d` hides that
name, and `secret` has a meta of its own that has no rules. -/
def twoMetas : Gateway :=
  { (Gateway.new .default (after
        (AccountStore.putRole ⟨⟨0⟩, "readers", "", [⟨"/", .none⟩]⟩) (.records .empty)) default).mount
      (.ofText "/d") ((Backend.memory (.new 0)).makeDirectory .root "secret" 0).backend 0 with
    metas := (MetaIndex.empty.set ((Meta.plain "/d").hidingMatches "^secret$" true)).set
      (Meta.plain "/d/secret") }

theorem built_twoMetas : twoMetas.metas.Built := .set _ (.set _ .empty)

/-- How the reader stands to the directory. -/
def readerStanding : Standing :=
  ⟨.ofText "/d", readerClearance, twoMetas.metas.nearest? (.ofText "/d")⟩

/-- The entry that is hidden. -/
def secret : Entry := .directory (.ofText "/d") "secret" 0 0 0

theorem hidden_entry_denied_twoMetas :
    (∃ g₁, standing reader "/d" twoMetas = .ok readerStanding g₁) ∧ IsSegment secret.name ∧
      secret ∉ readerStanding.visibleEntries [secret] ∧
      (((∀ options, Denied (list reader ("/d" ++ "/" ++ secret.name) options twoMetas)) ∧
          ∀ password, Denied (link reader ("/d" ++ "/" ++ secret.name) password twoMetas)) ↔
        twoMetas.metas.get? (readerStanding.path.join secret.name) = none ∨
          readerStanding.clearance.mayRead (readerStanding.path.join secret.name) = false) := by
  have stands : ∃ g₁, standing reader "/d" twoMetas = .ok readerStanding g₁ := ⟨_, rfl⟩
  have segment : IsSegment secret.name := by decide
  have leftOut : secret ∉ readerStanding.visibleEntries [secret] := by decide +kernel
  obtain ⟨g₁, run⟩ := stands
  exact ⟨⟨g₁, run⟩, segment, leftOut,
    hidden_entry_denied_iff built_twoMetas run segment List.mem_cons_self leftOut⟩

/-- The directory is there, its name is left out of the listing of `/d`, and yet it can be
listed. -/
theorem hidden_entry_listed :
    (EStateM.run' (backendEntries (.ofText "/d") false false .unlimited) twoMetas).map
        (List.map Entry.name) = some ["secret"] ∧
      EStateM.run' (list reader "/d" .default) twoMetas = some [] ∧
      EStateM.run' (list reader "/d/secret" .default) twoMetas = some [] := by
  decide +kernel

end Serving

end StorageGateway
