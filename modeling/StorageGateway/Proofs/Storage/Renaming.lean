import Mathlib.Data.List.Induction
import StorageGateway.Proofs.Listing.Weights
import StorageGateway.Proofs.Path.Splicing
import StorageGateway.Proofs.Storage.Failures

/-!
# Renamed directories

A rename takes a node and all beneath it to another name in the directory. The nodes can be moved one
after another, and their order does not matter: none comes to a place where another one is, as nothing
lies at the new name or beneath it. So nothing is lost, nothing else is taken along, and files and bytes
stay the same. Main statements: `carryEach_eq_rekeyed` and `rename_relocates`.
-/

namespace StorageGateway

namespace Path.Follows

variable {old new p q r : Path}

theorem target_unique (first : Follows old new p q) (second : Follows old new p r) : q = r :=
  Option.some.inj ((follow?_eq_some_iff.mpr first).symm.trans (follow?_eq_some_iff.mpr second))

theorem source_unique (first : Follows old new p r) (second : Follows old new q r) : p = q :=
  first.symm.target_unique second.symm

theorem exists_of_covers (new : Path) (above : old.covers p = true) : ∃ q, Follows old new p q := by
  cases moved : p.follow? old new with
  | some q => exact ⟨q, follow?_eq_some_iff.mp moved⟩
  | none =>
    rw [follow?_eq_none_iff, above] at moved
    contradiction

/-- The text of a place is that of the new path with the tail after it that came after the old one. -/
theorem exists_tail (h : Follows old new p q) (beneath : old ≠ root) (below : new ≠ root) :
    ∃ tail, p.text = old.text ++ tail ∧ q.text = new.text ++ tail := by
  obtain ⟨rest, before, after⟩ := h
  have stem : ∀ {a b : Path}, a ≠ root → b.segments = a.segments ++ rest →
      b.text = a.text ++ String.ofList (written rest) := by
    intro a b notRoot shape
    have notTop : b ≠ root := by
      rintro rfl
      exact notRoot (Path.ext (List.append_eq_nil_iff.mp shape.symm).1)
    have stems := b.stem_eq
    rwa [shape, written_append, ← stem_eq, stem_of_ne_root notRoot, stem_of_ne_root notTop] at stems
  exact ⟨_, stem beneath before, stem below after⟩

end Path.Follows

namespace MemoryTree

variable {t s : MemoryTree} {p q r target place : Path} {n : Node} {name : String} {now : Time}
  {done : List Path}

/-! ## One node after another -/

/-- What is at `q` is taken away and put where it belongs when `p` becomes `target`. -/
def carry (p target : Path) (now : Time) (t : MemoryTree) (q : Path) : MemoryTree :=
  match t.node? q with
  | none => t
  | some n => ⟨(t.nodes.erase q).insert ((q.follow? p target).getD q) { n with modified := now }⟩

/-- What is at some paths is moved, one after another. -/
def carryEach (t : MemoryTree) (p target : Path) (now : Time) (order : List Path) : MemoryTree :=
  order.foldl (carry p target now) t

/-- The paths at `p` and beneath it at which there is something. -/
def pathsWithin (t : MemoryTree) (p : Path) : List Path := (t.nodes.filter fun q _ => p.covers q).keys

theorem mem_pathsWithin : q ∈ t.pathsWithin p ↔ p.covers q = true ∧ t.node? q ≠ none := by
  unfold pathsWithin Dict.keys
  rw [List.mem_map]
  constructor
  · rintro ⟨⟨r, n⟩, among, rfl⟩
    rw [Dict.mem_entries_iff, Dict.find?_filter, Option.filter_eq_some_iff] at among
    exact ⟨among.2, fun absent => nomatch absent.symm.trans among.1⟩
  · rintro ⟨covers, present⟩
    obtain ⟨n, found⟩ := Option.ne_none_iff_exists'.mp present
    refine ⟨(q, n), ?_, rfl⟩
    rw [Dict.mem_entries_iff, Dict.find?_filter, Option.filter_eq_some_iff]
    exact ⟨found, covers⟩

theorem nodup_pathsWithin (t : MemoryTree) (p : Path) : (t.pathsWithin p).Nodup := by
  unfold pathsWithin Dict.keys
  refine List.pairwise_map.mpr ((t.nodes.filter _).increasing.imp ?_)
  rintro a b before same
  rw [same, KeyOrder.before_irrefl] at before
  contradiction

theorem node?_carry (now : Time) (moved : Path.Follows p target q place) (found : t.node? q = some n)
    (r : Path) :
    (carry p target now t q).node? r =
      if r = place then some { n with modified := now } else if r = q then none else t.node? r := by
  unfold carry
  rw [found]
  dsimp only
  rw [Path.follow?_eq_some_iff.mpr moved, Option.getD_some]
  unfold node?
  rw [Dict.find?_insert, Dict.find?_erase]

/-- What is at `p` and beneath it can go to `target`: nothing belongs to both, and nothing is at
`target` or beneath it. -/
structure Vacant (t : MemoryTree) (p target : Path) : Prop where
  apart : ∀ {q}, p.covers q = true → target.covers q = false
  free : ∀ {q}, target.covers q = true → t.node? q = none

/-- `s` is `t` after what is at some paths within `p` has been moved. -/
structure Carried (t s : MemoryTree) (p target : Path) (now : Time) (done : List Path) : Prop where
  /-- At a new place there is what has been moved to it. -/
  arrived : ∀ {q r}, Path.Follows p target q r →
    s.node? r = if q ∈ done then (t.node? q).map ({ · with modified := now }) else none
  /-- Everywhere else there is what was there, unless it has been moved. -/
  left : ∀ {r}, target.covers r = false → s.node? r = if r ∈ done then none else t.node? r

theorem Vacant.carried (vacant : t.Vacant p target) : t.Carried t p target now [] where
  arrived moved := vacant.free moved.new_covers
  left _ := rfl

namespace Carried

theorem carry (carried : t.Carried s p target now done) (vacant : t.Vacant p target)
    (within : p.covers q = true) (fresh : q ∉ done) :
    t.Carried (carry p target now s q) p target now (done ++ [q]) := by
  obtain ⟨place, moved⟩ := Path.Follows.exists_of_covers target within
  have same : s.node? q = t.node? q := by
    rw [carried.left (vacant.apart within), if_neg fresh]
  cases found : t.node? q with
  | none =>
    -- there is nothing to move
    have still : MemoryTree.carry p target now s q = s := by
      unfold MemoryTree.carry
      rw [same, found]
    rw [still]
    refine ⟨fun {a r} follows => ?_, fun {r} outside => ?_⟩
    · rw [carried.arrived follows]
      by_cases here : a = q
      · subst here
        simp [fresh, found]
      · simp [here]
    · rw [carried.left outside]
      by_cases here : r = q
      · subst here
        simp [fresh, found]
      · simp [here]
  | some n =>
    have step := node?_carry now moved (same.trans found)
    refine ⟨fun {a r} follows => ?_, fun {r} outside => ?_⟩
    · rw [step]
      by_cases here : a = q
      · subst here
        rw [if_pos (follows.target_unique moved), found]
        simp
      · have elsewhere : r ≠ place := by
          rintro rfl
          exact here (follows.source_unique moved)
        have differ : r ≠ q := by
          rintro rfl
          exact Bool.false_ne_true ((vacant.apart within).symm.trans follows.new_covers)
        rw [if_neg elsewhere, if_neg differ, carried.arrived follows]
        simp [here]
    · have elsewhere : r ≠ place := by
        rintro rfl
        exact Bool.false_ne_true (outside.symm.trans moved.new_covers)
      rw [step, if_neg elsewhere, carried.left outside]
      by_cases here : r = q
      · simp [here]
      · simp [here]

/-- All that was moved has come to where a rename puts it. -/
theorem eq_rekeyed (carried : t.Carried s p target now done) (vacant : t.Vacant p target)
    (all : ∀ q, q ∈ done ↔ p.covers q = true ∧ t.node? q ≠ none) : s = t.rekeyed p target now := by
  apply ext_node?
  intro r
  rw [node?_rekeyed]
  cases covers : target.covers r with
  | true =>
    obtain ⟨q, back⟩ := Path.Follows.exists_of_covers p covers
    have bare : (t.without p).node? r = none := by
      rw [node?_without, vacant.free covers, ite_self]
    rw [carried.arrived back.symm, Path.follow?_eq_some_iff.mpr back, Option.bind_some, bare,
      Option.or_none]
    by_cases moved : q ∈ done
    · rw [if_pos moved]
    · rw [if_neg moved]
      have absent : t.node? q = none := by
        by_contra present
        exact moved ((all q).mpr ⟨back.new_covers, present⟩)
      rw [absent, Option.map_none]
  | false =>
    rw [carried.left covers, Path.follow?_eq_none_iff.mpr covers, Option.bind_none, Option.map_none,
      Option.none_or, node?_without]
    by_cases within : p.covers r = true
    · rw [if_pos within]
      by_cases moved : r ∈ done
      · rw [if_pos moved]
      · rw [if_neg moved]
        by_contra present
        exact moved ((all r).mpr ⟨within, present⟩)
    · rw [if_neg within, if_neg fun moved => within ((all r).mp moved).1]

end Carried

/-- After any number of moves each of the paths has been moved once. -/
theorem Vacant.carryEach (vacant : t.Vacant p target) (now : Time) {order : List Path}
    (within : ∀ q ∈ order, p.covers q = true) (distinct : order.Nodup) :
    t.Carried (t.carryEach p target now order) p target now order := by
  induction order using List.reverseRecOn with
  | nil => exact vacant.carried
  | append_singleton done q ih =>
    obtain ⟨distinctBefore, -, apart⟩ := List.nodup_append.mp distinct
    have carried := ih (fun r among => within r (List.mem_append_left _ among)) distinctBefore
    have fresh : q ∉ done := fun among => apart q among q List.mem_cons_self rfl
    have step := carried.carry vacant (within q (by simp)) fresh
    unfold MemoryTree.carryEach at step ⊢
    rwa [List.foldl_append]

/-- In whichever order the nodes are moved, none comes to a place where there is another. -/
theorem Vacant.place_free (vacant : t.Vacant p target) (now : Time) {order done rest : List Path}
    (within : ∀ q ∈ order, p.covers q = true) (distinct : order.Nodup)
    (shape : order = done ++ q :: rest) (moved : Path.Follows p target q place) :
    (t.carryEach p target now done).node? place = none := by
  subst shape
  obtain ⟨distinctBefore, -, apart⟩ := List.nodup_append.mp distinct
  have carried := vacant.carryEach now (fun r among => within r (List.mem_append_left _ among))
    distinctBefore
  have fresh : q ∉ done := fun among => apart q among q List.mem_cons_self rfl
  rw [carried.arrived moved, if_neg fresh]

/-- In whichever order the nodes are moved, the tree comes to be the same. -/
theorem carryEach_eq_rekeyed (vacant : t.Vacant p target) (now : Time) {order : List Path}
    (all : order.Perm (t.pathsWithin p)) : t.carryEach p target now order = t.rekeyed p target now := by
  have within : ∀ q, q ∈ order ↔ p.covers q = true ∧ t.node? q ≠ none := fun q =>
    all.mem_iff.trans mem_pathsWithin
  have carried := vacant.carryEach now (fun q among => ((within q).mp among).1)
    (all.nodup_iff.mpr (t.nodup_pathsWithin p))
  exact carried.eq_rekeyed vacant within

/-! ## All nodes at once -/

/-- The entry of a node after a move. -/
def carriedEntry (p target : Path) (now : Time) (entry : Path × Node) : Path × Node :=
  match entry.1.follow? p target with
  | some place => (place, { entry.2 with modified := now })
  | none => entry

theorem carriedEntry_eq_iff {entry : Path × Node} :
    carriedEntry p target now entry = (r, n) ↔
      (∃ q m, entry = (q, m) ∧ Path.Follows p target q r ∧ n = { m with modified := now }) ∨
        (p.covers r = false ∧ entry = (r, n)) := by
  obtain ⟨q, m⟩ := entry
  unfold carriedEntry
  cases moved : q.follow? p target with
  | some place =>
    have follows := Path.follow?_eq_some_iff.mp moved
    simp only [Prod.mk.injEq]
    constructor
    · rintro ⟨rfl, rfl⟩
      exact .inl ⟨q, m, ⟨rfl, rfl⟩, follows, rfl⟩
    · rintro (⟨_, _, ⟨rfl, rfl⟩, also, rfl⟩ | ⟨outside, rfl, -⟩)
      · exact ⟨follows.target_unique also, rfl⟩
      · exact absurd (outside.symm.trans follows.covers) Bool.false_ne_true
  | none =>
    have outside := Path.follow?_eq_none_iff.mp moved
    simp only [Prod.mk.injEq]
    constructor
    · rintro ⟨rfl, rfl⟩
      exact .inr ⟨outside, rfl, rfl⟩
    · rintro (⟨_, _, ⟨rfl, rfl⟩, follows, -⟩ | ⟨-, rfl, rfl⟩)
      · exact absurd (outside.symm.trans follows.covers) Bool.false_ne_true
      · exact ⟨rfl, rfl⟩

/-- What was at `p` or beneath it is at its new place, and everything else is where it was. -/
theorem Vacant.node?_rekeyed_eq_some_iff (vacant : t.Vacant p target) :
    (t.rekeyed p target now).node? r = some n ↔
      (∃ q m, Path.Follows p target q r ∧ t.node? q = some m ∧ n = { m with modified := now }) ∨
        (p.covers r = false ∧ t.node? r = some n) := by
  rw [node?_rekeyed, node?_without]
  cases covers : target.covers r with
  | true =>
    obtain ⟨q, back⟩ := Path.Follows.exists_of_covers p covers
    rw [Path.follow?_eq_some_iff.mpr back, Option.bind_some, vacant.free covers, ite_self,
      Option.or_none, Option.map_eq_some_iff]
    constructor
    · rintro ⟨m, found, rfl⟩
      exact .inl ⟨q, m, back.symm, found, rfl⟩
    · rintro (⟨a, m, follows, found, rfl⟩ | ⟨-, absurdly⟩)
      · obtain rfl := follows.source_unique back.symm
        exact ⟨m, found, rfl⟩
      · contradiction
  | false =>
    rw [Path.follow?_eq_none_iff.mpr covers, Option.bind_none, Option.map_none, Option.none_or]
    cases within : p.covers r with
    | true =>
      simp only [if_true, reduceCtorEq, Bool.true_eq_false, false_and, or_false, false_iff]
      rintro ⟨q, m, follows, -⟩
      exact Bool.false_ne_true (covers.symm.trans follows.new_covers)
    | false =>
      simp only [Bool.false_eq_true, if_false, true_and]
      refine ⟨.inr, ?_⟩
      rintro (⟨q, m, follows, -⟩ | stays)
      · exact absurd (covers.symm.trans follows.new_covers) Bool.false_ne_true
      · exact stays

/-- The entries are those of before, each at its new place. -/
theorem Vacant.entries_rekeyed (vacant : t.Vacant p target) (now : Time) :
    (t.rekeyed p target now).nodes.entries.Perm (t.nodes.entries.map (carriedEntry p target now)) := by
  refine (List.perm_ext_iff_of_nodup (Dict.nodup_entries _) ?_).mpr ?_
  · refine List.Nodup.map_on ?_ t.nodes.nodup_entries
    rintro ⟨q, m⟩ first ⟨r, k⟩ second same
    have found : t.node? q = some m := (Dict.mem_entries_iff _ _ _).mp first
    have known : t.node? r = some k := (Dict.mem_entries_iff _ _ _).mp second
    suffices q = r by
      subst this
      rw [Option.some.inj (found.symm.trans known)]
    generalize image : carriedEntry p target now (r, k) = moved at same
    obtain ⟨place, node⟩ := moved
    rcases carriedEntry_eq_iff.mp same with ⟨_, _, ⟨⟩, follows, -⟩ | ⟨outside, ⟨⟩⟩
    · rcases carriedEntry_eq_iff.mp image with ⟨_, _, ⟨⟩, also, -⟩ | ⟨-, ⟨⟩⟩
      · exact follows.source_unique also
      · rw [vacant.free follows.new_covers] at known
        contradiction
    · rcases carriedEntry_eq_iff.mp image with ⟨_, _, ⟨⟩, also, -⟩ | ⟨-, ⟨⟩⟩
      · rw [vacant.free also.new_covers] at found
        contradiction
      · rfl
  · rintro ⟨r, n⟩
    rw [Dict.mem_entries_iff, List.mem_map]
    change (t.rekeyed p target now).node? r = some n ↔ _
    rw [vacant.node?_rekeyed_eq_some_iff]
    constructor
    · rintro (⟨q, m, follows, found, rfl⟩ | ⟨outside, found⟩)
      · exact ⟨(q, m), (Dict.mem_entries_iff _ _ _).mpr found,
          carriedEntry_eq_iff.mpr (.inl ⟨q, m, rfl, follows, rfl⟩)⟩
      · exact ⟨(r, n), (Dict.mem_entries_iff _ _ _).mpr found,
          carriedEntry_eq_iff.mpr (.inr ⟨outside, rfl⟩)⟩
    · rintro ⟨entry, among, image⟩
      rcases carriedEntry_eq_iff.mp image with ⟨q, m, rfl, follows, rfl⟩ | ⟨outside, rfl⟩
      · exact .inl ⟨q, m, follows, (Dict.mem_entries_iff _ _ _).mp among, rfl⟩
      · exact .inr ⟨outside, (Dict.mem_entries_iff _ _ _).mp among⟩

theorem Vacant.size_rekeyed (vacant : t.Vacant p target) (now : Time) :
    (t.rekeyed p target now).nodes.size = t.nodes.size := by
  unfold Dict.size
  rw [(vacant.entries_rekeyed now).length_eq, List.length_map]

theorem Vacant.usage_rekeyed (vacant : t.Vacant p target) (now : Time) (rooted : t.Rooted)
    (rootedAfter : (t.rekeyed p target now).Rooted) :
    (t.rekeyed p target now).usage = t.usage := by
  have kept : ∀ entry : Path × Node,
      (carriedEntry p target now entry).2.isDirectory = entry.2.isDirectory ∧
        (carriedEntry p target now entry).2.size = entry.2.size := by
    intro entry
    unfold carriedEntry
    cases entry.1.follow? p target <;> exact ⟨rfl, rfl⟩
  have files : (t.rekeyed p target now).files.Perm (t.files.map (carriedEntry p target now)) := by
    refine ((vacant.entries_rekeyed now).filter fun file => !file.2.isDirectory).trans (.of_eq ?_)
    rw [List.filter_map]
    refine congrArg _ (List.filter_congr fun entry _ => ?_)
    rw [Function.comp_apply, (kept entry).1]
  rw [rootedAfter.usage_eq, rooted.usage_eq]
  refine (Size.total_perm (files.map fun file => file.2.size)).trans ?_
  rw [List.map_map]
  exact congrArg Size.total (List.map_congr_left fun entry _ => (kept entry).2)

/-! ## Renames -/

/-- `s` is what `t` comes to when all that is at `p` and beneath it goes to `target`. -/
structure Relocates (t s : MemoryTree) (p target : Path) (now : Time) : Prop where
  /-- Whatever was at `p` or beneath it follows, with all that it had but the time of its last change;
  everything else is where it was; and there is nothing more. -/
  nodes : ∀ r n, s.node? r = some n ↔
    (∃ q m, Path.Follows p target q r ∧ t.node? q = some m ∧ n = { m with modified := now }) ∨
      (p.covers r = false ∧ t.node? r = some n)
  /-- To follow is to have the text of `target` in the place of that of `p`. -/
  texts : ∀ q r, Path.Follows p target q r →
    ∃ tail, q.text = p.text ++ tail ∧ r.text = target.text ++ tail
  /-- The nodes can be moved one after another in any order, each to a place that is free by then. -/
  inAnyOrder : ∀ order, order.Perm (t.pathsWithin p) →
    t.carryEach p target now order = s ∧
      ∀ done q rest place, order = done ++ q :: rest → Path.Follows p target q place →
        (t.carryEach p target now done).node? place = none
  size : s.nodes.size = t.nodes.size
  usage : s.usage = t.usage
  rooted : s.Rooted

theorem Vacant.relocates (vacant : t.Vacant p target) (now : Time) (rooted : t.Rooted)
    (rootedAfter : (t.rekeyed p target now).Rooted) (beneath : p ≠ .root) (below : target ≠ .root) :
    t.Relocates (t.rekeyed p target now) p target now where
  nodes _ _ := vacant.node?_rekeyed_eq_some_iff
  texts _ _ follows := follows.exists_tail beneath below
  inAnyOrder order all := by
    refine ⟨carryEach_eq_rekeyed vacant now all, fun done q rest place shape moved => ?_⟩
    exact vacant.place_free now (fun q among => (mem_pathsWithin.mp (all.mem_iff.mp among)).1)
      (all.nodup_iff.mpr (t.nodup_pathsWithin p)) shape moved
  size := vacant.size_rekeyed now
  usage := vacant.usage_rekeyed now rooted rootedAfter
  rooted := rootedAfter

/-- A rename that succeeds moves what is there to a free place in the same directory. -/
theorem Rooted.of_rename {e : Entry} (rooted : t.Rooted)
    (renamed : MemoryTree.rename p name now t = .ok e s) :
    ∃ n, p ≠ .root ∧ t.node? p = some n ∧ t.node? (p.parent.join name) = none ∧
      (p.parent.join name).IsChild p.parent name ∧
      e = { n with modified := now }.entryAt (p.parent.join name) ∧
      s = t.rekeyed p (p.parent.join name) now := by
  rw [rename_run] at renamed
  by_cases refused : p = .root ∨ name = "" ∨ name.toList.any isSeparator
  · rw [if_pos refused] at renamed
    contradiction
  · rw [if_neg refused] at renamed
    obtain ⟨beneath, notEmpty, whole⟩ : p ≠ .root ∧ name ≠ "" ∧ ¬ name.toList.any isSeparator := by
      simpa [not_or] using refused
    cases found : t.node? p with
    | none =>
      rw [found] at renamed
      contradiction
    | some n =>
      rw [found] at renamed
      cases free : t.node? (p.parent.join name) with
      | some m =>
        simp only [free, Option.isSome_some, if_true] at renamed
        contradiction
      | none =>
        simp only [free, Option.isSome_none, Bool.false_eq_true, if_false] at renamed
        cases renamed
        have segment := rooted.isSegment_of_free (rooted.parent found beneath) notEmpty whole free
        exact ⟨n, beneath, rfl, rfl, Path.isChild_join _ segment, rfl, rfl⟩

theorem Rooted.vacant (rooted : t.Rooted) (beneath : p ≠ .root) (found : t.node? p = some n)
    (free : t.node? target = none) (child : target.IsChild p.parent name) : t.Vacant p target where
  apart {q} within := by
    have own : p.IsChild p.parent p.lastSegment := p.eq_root_or_isChild.resolve_left beneath
    by_contra also
    obtain rfl := own.eq_of_covers child within (Bool.eq_true_of_not_eq_false also)
    rw [found] at free
    contradiction
  free covers := rooted.free_below free covers

/-- A rename that succeeds in a tree that hangs together moves all that is at the path and beneath it,
loses nothing and takes nothing else along, and answers with the entry at the new path. -/
theorem rename_relocates {e : Entry} (rooted : t.Rooted) (renamed : rename p name now t = .ok e s) :
    (p.parent.join name).IsChild p.parent name ∧ t.Relocates s p (p.parent.join name) now ∧
      ∃ n, s.node? (p.parent.join name) = some n ∧ e = n.entryAt (p.parent.join name) := by
  obtain ⟨n, beneath, found, free, child, rfl, rfl⟩ := rooted.of_rename renamed
  have vacant := rooted.vacant beneath found free child
  have rootedAfter := rooted.rekeyed beneath found free child now
  refine ⟨child, vacant.relocates now rooted rootedAfter beneath child.ne_root, ?_⟩
  refine ⟨{ n with modified := now }, vacant.node?_rekeyed_eq_some_iff.mpr (.inl ?_), rfl⟩
  exact ⟨p, n, ⟨[], by simp, by simp⟩, found, rfl⟩

/-- A directory is renamed, with a file beside it whose name starts alike. -/
theorem rename_relocates_shelf :
    let e : Entry := ⟨.ofText "/docs/new", "new", 0, .directory, 1, 9, none⟩
    let target := (Path.ofText "/docs/old").parent.join "new"
    shelf.Rooted ∧ ∃ s, rename (.ofText "/docs/old") "new" 9 shelf = .ok e s ∧
      target.IsChild (Path.ofText "/docs/old").parent "new" ∧
      shelf.Relocates s (.ofText "/docs/old") target 9 ∧
      ∃ n, s.node? target = some n ∧ e = n.entryAt target := by
  intro e target
  have told : outcome (rename (.ofText "/docs/old") "new" 9) shelf = .ok e := by decide +kernel
  obtain ⟨s, renamed⟩ := of_outcome_ok told
  exact ⟨rooted_shelf, s, renamed, rename_relocates rooted_shelf renamed⟩

end MemoryTree

end StorageGateway
