import StorageGateway.Proofs.Gateway.Hidden
import StorageGateway.Proofs.Gateway.Listings

/-!
# Paths that are denied for a pattern

A path is hidden as an entry of its directory, so that a request is denied for a pattern where the
listing of the directory leaves out the name of the path. The root is an entry of no directory, and
yet it is taken for an entry `/` of itself: patterns of its own meta that match this text shut it,
with everything that a listing of it would show. Main statement: `unseen_denied_iff`.
-/

namespace StorageGateway

namespace Clearance

variable {c : Clearance} {rules : Option DirectoryRules} {p q : Path} {name : String}

/-- Whatever there is in a directory, a listing by these rules shows nothing of that name. -/
def LeavesOut (c : Clearance) (rules : Option DirectoryRules) (dir : Path) (name : String) : Prop :=
  ∀ entries, ∀ e ∈ c.visibleEntries rules dir entries, e.name ≠ name

theorem leavesOut_iff : c.LeavesOut rules p name ↔ c.shows rules p name = false := by
  constructor
  · intro leavesOut
    obtain ⟨e, rfl⟩ : ∃ e : Entry, e.name = name := ⟨.directory p name 0 0 0, rfl⟩
    exact not_shows_of_left_out List.mem_cons_self fun shown => leavesOut [e] e shown rfl
  · rintro invisible entries e shown rfl
    rw [visibleEntries_eq_filter, List.mem_filter, invisible] at shown
    exact Bool.false_ne_true shown.2

/-- A path is invisible by the rules of its directory if they leave out its name there. -/
theorem sees_eq_false_iff_of_child (child : q.IsChild p name) :
    c.sees rules q = false ↔ c.LeavesOut rules p name := by
  rw [sees_of_child child, leavesOut_iff]

/-- The root is invisible by rules of its own if one of their patterns matches `/`. -/
theorem sees_root_eq_false_iff (own : ∀ r ∈ rules, Path.ofText r.source.path = .root) :
    c.sees rules .root = false ↔
      (∃ r, rules = some r ∧ r.hide.hides "/" = true) ∧ c.has .root .seeHides = false := by
  cases rules with
  | none => simp [sees]
  | some r =>
    have within : r.hide.hides "/" = true → r.hidesWithin Path.root.parent = true := by
      intro matched
      have reaches : r.source.reaches Path.root.parent r.source.hideBelow = true := by
        rw [Meta.reaches, own r rfl]
        rfl
      rw [DirectoryRules.hidesWithin, HidePatterns.isEmpty_of_hides matched, reaches]
      rfl
    have name : Path.root.lastSegment = "/" := rfl
    rw [sees, name]
    cases matched : r.hide.hides "/" with
    | false => simp [matched]
    | true => simp [within matched, matched]

/-- Whether the password gate of a path opens. -/
def opens (c : Clearance) (rules : Option DirectoryRules) (p : Path) (password : String) : Bool :=
  c.has p .accessWithoutPassword ||
    match rules with
    | none => true
    | some r => !r.locks p || r.source.password == password

theorem mayEnter_eq (c : Clearance) (rules : Option DirectoryRules) (p : Path) (password : String) :
    c.mayEnter rules p password = (c.mayRead p && c.sees rules p && c.opens rules p password) :=
  rfl

end Clearance

namespace Gateway

/-- A path that has no meta of its own is left out, for its name, when its directory is listed. -/
structure LeftOut (g : Gateway) (c : Clearance) (p : Path) : Prop where
  beneath : p ≠ .root
  unruled : g.metas.get? p = none
  leavesOut : c.LeavesOut (g.metas.nearest? p.parent) p.parent p.lastSegment

/-- The path is the root, whose own meta has a pattern that matches `/`. -/
structure RootMatched (g : Gateway) (c : Clearance) (p : Path) : Prop where
  root : p = .root
  matched : ∃ r, g.metas.get? .root = some r ∧ r.hide.hides "/" = true
  unseeing : c.has .root .seeHides = false

variable {g : Gateway} {c : Clearance} {p : Path}

theorem sees_eq_false_iff [PatternEngine] (built : g.metas.Built) :
    c.sees (g.metas.nearest? p) p = false ↔ g.LeftOut c p ∨ g.RootMatched c p := by
  rcases p.eq_root_or_isChild with rfl | child
  · have own : g.metas.nearest? .root = g.metas.get? .root := Path.nearest?_root
    rw [own, Clearance.sees_root_eq_false_iff fun r found => built.path_eq found]
    constructor
    · exact fun ⟨matched, unseeing⟩ => .inr ⟨rfl, matched, unseeing⟩
    · rintro (leftOut | atRoot)
      · exact absurd rfl leftOut.beneath
      · exact ⟨atRoot.matched, atRoot.unseeing⟩
  · rw [MetaIndex.nearest?_child child]
    cases found : g.metas.get? p with
    | none =>
      rw [Option.none_or, Clearance.sees_eq_false_iff_of_child child]
      constructor
      · exact fun leavesOut => .inl ⟨child.ne_root, found, leavesOut⟩
      · rintro (leftOut | atRoot)
        · exact leftOut.leavesOut
        · exact absurd atRoot.root child.ne_root
    | some r =>
      rw [Option.some_or, Clearance.sees_own child (built.path_eq found)]
      refine iff_of_false Bool.noConfusion ?_
      rintro (leftOut | atRoot)
      · rw [leftOut.unruled] at found
        contradiction
      · exact child.ne_root atRoot.root

end Gateway

namespace Serving

variable {g g₁ h : Gateway} {u : User} {d request : String} {s : Standing}
  {options : ListingOptions} {entries : List Entry}

/-- What a user's roles grant is the same for every request. -/
theorem clearance_eq_of_standing {t : Standing} {g₂ : Gateway}
    (stands : standing u request g = .ok s g₁) (other : standing u d g = .ok t g₂) :
    t.clearance = s.clearance := by
  obtain ⟨-, -, accounts, granted, -⟩ := of_standing stands
  obtain ⟨-, -, others, again, -⟩ := of_standing other
  rw [granted] at again
  exact (EStateM.Result.ok.inj again).1.symm

/-- A listing of the directory does not show what is left out. -/
theorem not_listed_of_leftOut (stands : standing u request g = .ok s g₁)
    (leftOut : g.LeftOut s.clearance s.path) (leads : u.resolve d = .ok s.path.parent)
    (listed : list u d options g = .ok entries h) : ∀ e ∈ entries, e.name ≠ s.path.lastSegment := by
  obtain ⟨t, g₂, own, directory, -, rfl⟩ := of_list_ok listed
  have path : t.path = s.path.parent :=
    Except.ok.inj ((of_standing directory).1.symm.trans leads)
  have leavesOut := leftOut.leavesOut
  rw [← clearance_eq_of_standing stands directory, ← path,
    ← rules_of_standing directory] at leavesOut
  exact leavesOut _

/-- A listing is denied for a pattern exactly where the name of the path is left out of its
directory or where the path is the root and its own meta has a pattern that matches `/`. -/
theorem unseen_denied_iff [PatternEngine] (built : g.metas.Built)
    (stands : standing u request g = .ok s g₁) (options : ListingOptions) :
    (Denied (list u request options g) ∧ s.clearance.sees s.rules s.path = false ↔
        g.LeftOut s.clearance s.path ∨ g.RootMatched s.clearance s.path) ∧
      (s.clearance.mayRead s.path = true →
        s.clearance.opens s.rules s.path options.password = true →
        (options.refresh = true → s.allows .http .refresh = true) →
        (Denied (list u request options g) ↔
          g.LeftOut s.clearance s.path ∨ g.RootMatched s.clearance s.path)) ∧
      (g.LeftOut s.clearance s.path → ∀ d others entries h, u.resolve d = .ok s.path.parent →
        list u d others g = .ok entries h → ∀ e ∈ entries, e.name ≠ s.path.lastSegment) := by
  have rules := rules_of_standing stands
  have unseen := Gateway.sees_eq_false_iff (c := s.clearance) (p := s.path) built
  rw [← rules] at unseen
  have enters := s.clearance.mayEnter_eq s.rules s.path options.password
  refine ⟨?_, fun readable opens fresh => ?_, fun leftOut d others entries h leads listed =>
    not_listed_of_leftOut stands leftOut leads listed⟩
  · rw [← unseen, and_iff_right_of_imp]
    intro hidden
    refine (list_denied_iff stands options).mpr (.inl ?_)
    rw [Standing.mayEnter, enters, hidden, Bool.and_false, Bool.false_and]
  · have allowed : ¬ (options.refresh = true ∧ s.allows .http .refresh = false) := by
      rintro ⟨anew, refused⟩
      rw [fresh anew] at refused
      contradiction
    rw [list_denied_iff stands options, or_iff_left allowed, ← unseen, Standing.mayEnter, enters,
      readable, opens, Bool.true_and, Bool.and_true]

/-- A gateway with a tree at `/d`, where names at the root are hidden unless they start with a small
letter. -/
def smallLetters : Gateway :=
  { (Gateway.new .default (after
        (AccountStore.putRole ⟨⟨0⟩, "readers", "", [⟨"/", .none⟩]⟩) (.records .empty)) default).mount
      (.ofText "/d") (.memory (.new 0)) 0 with
    metas := MetaIndex.empty.set ((Meta.plain "/").hidingMatches "^[^a-z]" false) }

theorem built_smallLetters : smallLetters.metas.Built := .set _ .empty

theorem unseen_denied_smallLetters : ∃ s g₁,
    standing reader "/.git" smallLetters = .ok s g₁ ∧ s.path = .ofText "/.git" ∧
      Denied (list reader "/.git" .default smallLetters) ∧
      (Denied (list reader "/.git" .default smallLetters) ∧
          s.clearance.sees s.rules s.path = false ↔
        smallLetters.LeftOut s.clearance s.path ∨ smallLetters.RootMatched s.clearance s.path) := by
  have stands : ∃ s g₁, standing reader "/.git" smallLetters = .ok s g₁ ∧
      s.path = .ofText "/.git" := ⟨_, _, rfl, rfl⟩
  have denied : Denied (list reader "/.git" .default smallLetters) := by decide +kernel
  obtain ⟨s, g₁, run, path⟩ := stands
  exact ⟨s, g₁, run, path, denied, (unseen_denied_iff built_smallLetters run .default).1⟩

/-- The root is shut though it is readable and not guarded, and though the directory `d`, which is
all there is, has a name that is not hidden. -/
theorem root_denied_for_pattern :
    Denied (list reader "/" .default smallLetters) ∧
      readerClearance.mayRead .root = true ∧
      readerClearance.opens (smallLetters.metas.nearest? .root) .root "" = true ∧
      readerClearance.sees (smallLetters.metas.nearest? .root) .root = false ∧
      readerClearance.visibleEntries (smallLetters.metas.nearest? .root) .root
          [.directory .root "d" 0 0 0] = [.directory .root "d" 0 0 0] := by
  decide +kernel

end Serving

end StorageGateway
