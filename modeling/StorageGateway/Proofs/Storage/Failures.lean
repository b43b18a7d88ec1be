import StorageGateway.Proofs.Storage.Rooted

/-!
# Changes that fail

Directories are made on the way down to a path before it is known whether anything can be put there.
In a tree that hangs together none has been made when this is refused: a file in the way lies in
directories that are there, and so does whatever is at the path itself. Main statement:
`failed_request_keeps`.
-/

namespace StorageGateway

namespace MemoryTree

variable {α : Type} {t s : MemoryTree} {p : Path} {n : Node} {now : Time} {e : StorageError}

/-- If the change fails, the tree stays as it is. -/
def KeptByFailure (x : Change α) (t : MemoryTree) : Prop := ∀ e s, x t = .error e s → s = t

namespace KeptByFailure

variable {x : Change α}

theorem of_ok {v : α} (run : x t = .ok v s) : KeptByFailure x t := by
  intro e r failed
  rw [run] at failed
  contradiction

theorem of_error (run : x t = .error e t) : KeptByFailure x t := by
  intro f r failed
  rw [run] at failed
  cases failed
  rfl

theorem discard (kept : KeptByFailure x t) :
    KeptByFailure (Functor.discard x : Change Unit) t := by
  intro e s failed
  rw [discard_run] at failed
  cases run : x t with
  | ok v r =>
    rw [run] at failed
    contradiction
  | error reason r =>
    rw [run] at failed
    cases failed
    exact kept _ _ run

end KeptByFailure

/-- The directories on the way down to a path do not concern the path itself. -/
theorem node?_furnished_above (t : MemoryTree) (p : Path) (now : Time) :
    (t.furnished now p.parent.wayTo).node? p = t.node? p := by
  have apart : p ∉ p.parent.wayTo := by
    rw [Path.mem_wayTo]
    rintro ⟨beneath, covers⟩
    rw [(p.eq_root_or_isChild.resolve_left beneath).not_covers] at covers
    contradiction
  rw [node?_furnished, if_neg apart, Option.or_none]

namespace Rooted

/-- On the way down to what is there no directory is missing. -/
theorem furnished_above (rooted : t.Rooted) (found : t.node? p = some n) (now : Time) :
    t.furnished now p.parent.wayTo = t := by
  apply furnished_eq_self
  intro q above
  obtain ⟨beneath, covers⟩ := Path.mem_wayTo.mp above
  have differ : q ≠ p := by
    rintro rfl
    rw [(q.eq_root_or_isChild.resolve_left beneath).not_covers] at covers
    contradiction
  obtain ⟨m, there, -⟩ := rooted.above found (Path.covers_trans covers p.parent_covers) differ
  simp [there]

theorem keptByFailure_putFile (rooted : t.Rooted) (p : Path) (size : Size)
    (locator : Option String) (now : Time) :
    KeptByFailure (MemoryTree.putFile p size locator now) t := by
  have run := putFile_run p size locator now t
  by_cases top : p = .root
  · rw [if_pos top] at run
    exact .of_error run
  · rw [if_neg top] at run
    rcases rooted.makeAbove_run p now with ⟨s, made, -, -, rfl⟩ | ⟨q, -, -, refused⟩
    · rw [made] at run
      dsimp only at run
      rw [node?_furnished_above] at run
      cases taken : (t.node? p).any Node.isDirectory with
      | false =>
        rw [taken, if_neg Bool.false_ne_true] at run
        exact .of_ok run
      | true =>
        -- a directory is at the path, so those above it are there too
        rw [taken, if_pos rfl] at run
        obtain ⟨n, found, -⟩ := (Option.any_eq_true _ _).mp taken
        rw [rooted.furnished_above found now] at run
        exact .of_error run
    · rw [refused] at run
      exact .of_error run

theorem keptByFailure_addDirectory (rooted : t.Rooted) (p : Path) (now : Time) :
    KeptByFailure (MemoryTree.addDirectory p now) t := by
  have run := addDirectory_run p now t
  rcases rooted.makeAbove_run p now with ⟨s, made, -, -, rfl⟩ | ⟨q, -, -, refused⟩
  · rw [made] at run
    dsimp only at run
    rw [node?_furnished_above] at run
    cases found : t.node? p with
    | none =>
      rw [found] at run
      exact .of_ok run
    | some n =>
      rw [found, rooted.furnished_above found now] at run
      cases directory : n.isDirectory with
      | true =>
        simp only [directory, if_true] at run
        exact .of_ok run
      | false =>
        simp only [directory, Bool.false_eq_true, if_false] at run
        exact .of_error run
  · rw [refused] at run
    exact .of_error run

end Rooted

theorem keptByFailure_makeDirectory (parent name : String) (now : Time) (t : MemoryTree) :
    KeptByFailure (makeDirectory parent name now) t := by
  have run := makeDirectory_run parent name now t
  cases found : t.node? (.ofText parent) with
  | none =>
    rw [found] at run
    exact .of_error run
  | some n =>
    rw [found] at run
    dsimp only at run
    split at run
    · split at run
      · exact .of_error run
      · exact .of_ok run
    · exact .of_error run

theorem keptByFailure_remove (p : Path) (t : MemoryTree) : KeptByFailure (remove p) t := by
  have run := remove_run p t
  split at run
  · exact .of_error run
  · split at run
    · exact .of_error run
    · exact .of_ok run

theorem keptByFailure_rename (p : Path) (name : String) (now : Time) (t : MemoryTree) :
    KeptByFailure (rename p name now) t := by
  have run := rename_run p name now t
  split at run
  · exact .of_error run
  · cases found : t.node? p with
    | none =>
      rw [found] at run
      exact .of_error run
    | some n =>
      rw [found] at run
      dsimp only at run
      split at run
      · exact .of_error run
      · exact .of_ok run

end MemoryTree

namespace TreeRequest

open MemoryTree

variable {t : MemoryTree} {e : StorageError}

theorem keptByFailure_run (rooted : t.Rooted) (request : TreeRequest) :
    KeptByFailure request.run t := by
  cases request with
  | putFile path size locator now => exact (rooted.keptByFailure_putFile _ size locator now).discard
  | addDirectory path now => exact rooted.keptByFailure_addDirectory _ now
  | makeDirectory parent name now => exact (keptByFailure_makeDirectory parent name now t).discard
  | remove path => exact keptByFailure_remove _ t
  | rename path name now => exact (keptByFailure_rename _ name now t).discard

/-- A request that fails leaves a tree that hangs together as it was, with no directory made on the
way. -/
theorem failed_request_keeps (rooted : t.Rooted) (request : TreeRequest)
    (failed : outcome request.run t = .error e) : after request.run t = t := by
  cases run : request.run t with
  | ok v s =>
    rw [outcome_of_ok run] at failed
    contradiction
  | error reason s =>
    rw [after_of_error run]
    exact keptByFailure_run rooted request reason s run

end TreeRequest

/-- A tree with files at two depths, beside one with a name that starts like that of a directory. -/
def MemoryTree.shelf : MemoryTree :=
  serve (new 0) [.putFile "/docs/old/x" (.ofNat 4) none 1,
    .putFile "/docs/older" (.ofNat 5) (some "https://cdn/o") 2,
    .putFile "/docs/old/deep/y" (.ofNat 3) none 3]

theorem MemoryTree.rooted_shelf : shelf.Rooted := by
  refine (rooted_new 0).serve fun request among s => ?_
  simp only [List.mem_cons, List.not_mem_nil, or_false] at among
  rcases among with rfl | rfl | rfl <;> exact id

/-- No directory is made beneath a file. -/
theorem TreeRequest.failed_request_keeps_shelf :
    let request := TreeRequest.putFile "/docs/older/new/z" (.ofNat 1) none 9
    MemoryTree.shelf.Rooted ∧
      outcome request.run MemoryTree.shelf = .error (.notADirectory "/docs/older") ∧
      after request.run MemoryTree.shelf = MemoryTree.shelf := by
  intro request
  have failed : outcome request.run MemoryTree.shelf = .error (.notADirectory "/docs/older") := by
    decide +kernel
  exact ⟨MemoryTree.rooted_shelf, failed,
    failed_request_keeps MemoryTree.rooted_shelf request failed⟩

end StorageGateway
