import StorageGateway.Proofs.Gateway.Standing
import StorageGateway.Proofs.Path.Joining

/-!
# Requests stay below the base path

Whatever a user asks for is asked for at one path, which the base path of the user covers, and it
comes to the same as if this path were the base path and nothing more were asked for. Main
statement: `requests_confined`.
-/

namespace StorageGateway

namespace User

/-- The user with another base path. -/
def movedTo (u : User) (p : Path) : User := { u with basePath := p.text }

/-- An empty request leads to the base path. -/
theorem resolve_movedTo (u : User) (p : Path) : (u.movedTo p).resolve "" = .ok p := by
  have stays : ".." ∉ pieces "" := by decide
  rw [resolve, movedTo, Path.ofText_text, Path.joinBelow, if_neg stays]
  exact congrArg Except.ok (Path.ext ((Path.segments_join stays p).trans (List.append_nil _)))

end User

namespace Serving

variable {u : User} {request : String} {p : Path}

/-- How a user stands to a request depends on where it leads and on their roles alone. -/
theorem standing_eq_of_resolve (leads : u.resolve request = .ok p) :
    standing u request = standing (u.movedTo p) "" := by
  rw [standing, standing, leads, u.resolve_movedTo p]
  rfl

theorem path_of_standing (leads : u.resolve request = .ok p) {g h : Gateway} {s : Standing}
    (stands : standing u request g = .ok s h) : s.path = p := by
  have own := (of_standing stands).1
  rw [leads] at own
  exact (Except.ok.inj own).symm

/-- A request that is not refused leads to the path of its segments below those of the base path,
and whatever is asked for there is asked for at this path alone. It is refused exactly if `..` stands
in it, whatever is asked for. -/
theorem requests_confined (u : User) (request : String) :
    let base := Path.ofText u.basePath
    match u.resolve request with
    | .error e =>
      e = .relativePath request ∧ StandsIn ".." request ∧
        ∀ (g : Gateway) (options : ListingOptions) (protocol : Protocol) (op : Operation)
          (password : String),
          list u request options g = .error (.path e) g ∧
            allows u request protocol op g = .error (.path e) g ∧
            link u request password g = .error (.path e) g
    | .ok p =>
      ¬ StandsIn ".." request ∧
        p = .ofText (base.text ++ "/" ++ request) ∧ (Path.ofText p.text).text = p.text ∧
        p.segments = base.segments ++ ((pieces request).filter fun s => s ≠ "" ∧ s ≠ ".") ∧
        base.covers p = true ∧
        (∀ g s h, standing u request g = .ok s h → s.path = p) ∧
        ∀ (options : ListingOptions) (protocol : Protocol) (op : Operation) (password : String),
          list u request options = list (u.movedTo p) "" options ∧
            allows u request protocol op = allows (u.movedTo p) "" protocol op ∧
            link u request password = link (u.movedTo p) "" password := by
  intro base
  have spec := base.joinBelow_spec request
  change match u.resolve request with | .error e => _ | .ok p => _ at spec
  cases leads : u.resolve request with
  | error e =>
    rw [leads] at spec
    refine ⟨spec.1, spec.2, fun g options protocol op password => ?_⟩
    have refused := standing_of_error leads g
    exact ⟨bind_of_error refused, bind_of_error refused, bind_of_error refused⟩
  | ok p =>
    rw [leads] at spec
    obtain ⟨allowed, text, segments, covers⟩ := spec
    refine ⟨allowed, text, by rw [Path.ofText_text], segments, covers,
      fun g s h => path_of_standing leads, fun options protocol op password => ?_⟩
    have same := standing_eq_of_resolve leads
    refine ⟨?_, ?_, ?_⟩
    · rw [list, same, list]
    · rw [allows, same, allows]
    · rw [link, same, link]

end Serving

end StorageGateway
