import StorageGateway.Proofs.Access.PathLimit

/-!
# What a decision rests on

Whether an operation is allowed rests on the permissions that are granted at the path, on whether a
scope covers it, and on whether its meta gives leave to write. The leave counts where an operation asks
for nothing else than to write: there it stands in for the permission, and it takes nothing away. Main
statements: `allows_of_asksLeave`, `allows_of_not_asksLeave` and `allows_by_facts`.
-/

namespace StorageGateway

namespace Clearance

variable {c d : Clearance} {rules others : Option DirectoryRules} {p q : Path} {perms : PermissionSet}
  {protocol : Protocol} {op : Operation}

/-- One who has `perms` at the path can do the operation if they can write there, and otherwise not. -/
inductive AsksLeave (perms : PermissionSet) : Protocol → Operation → Prop
  | refresh (protocol : Protocol) : AsksLeave perms protocol .refresh
  | write : AsksLeave perms .http .write
  | setProperties : AsksLeave perms .http .setProperties
  | upload (access : perms.contains .ftpAccess = true) (manage : perms.contains .ftpManage = true) :
    AsksLeave perms .ftp .write

theorem protocolAllows_of_asksLeave (asks : AsksLeave perms protocol op) (other : op ≠ .refresh)
    (mayWrite : Bool) : protocolAllows perms mayWrite protocol op = mayWrite := by
  cases asks with
  | refresh => contradiction
  | write => rfl
  | setProperties => rfl
  | upload access manage =>
    rw [protocolAllows, access, manage, if_pos rfl]
    rfl

theorem protocolAllows_of_not_asksLeave (apart : ¬ AsksLeave perms protocol op)
    (mayWrite mayWriteToo : Bool) :
    protocolAllows perms mayWrite protocol op = protocolAllows perms mayWriteToo protocol op := by
  cases protocol with
  | http =>
    cases op with
    | write => exact absurd .write apart
    | setProperties => exact absurd .setProperties apart
    | read | refresh | rename | move _ | copy | remove => rfl
  | webDav => rfl
  | ftp =>
    by_cases uploads : op = .write
    · subst uploads
      cases access : perms.contains .ftpAccess with
      | false => rw [protocolAllows, protocolAllows, access, Bool.false_and, Bool.false_and]
      | true =>
        cases manage : perms.contains .ftpManage with
        | false =>
          rw [protocolAllows, protocolAllows, manage, Bool.false_and, Bool.false_and]
        | true => exact absurd (.upload access manage) apart
    · rw [protocolAllows, protocolAllows, if_neg uploads, if_neg uploads]

/-- What asks for leave is allowed to those who can write. -/
theorem allows_of_asksLeave (asks : AsksLeave (c.effective p) protocol op) :
    c.allows rules p protocol op = c.mayWrite rules p := by
  rw [allows, withinLimit_everywhere, Bool.true_and]
  by_cases fresh : op = .refresh
  · rw [if_pos fresh]
  · rw [if_neg fresh, protocolAllows_of_asksLeave asks fresh]

/-- Metas do not matter to anything else. -/
theorem allows_of_not_asksLeave (apart : ¬ AsksLeave (c.effective p) protocol op)
    (rules others : Option DirectoryRules) :
    c.allows rules p protocol op = c.allows others p protocol op := by
  have other : op ≠ .refresh := by
    rintro rfl
    exact apart (.refresh protocol)
  rw [allows, allows, if_neg other, if_neg other,
    protocolAllows_of_not_asksLeave apart (c.mayWrite rules p) (c.mayWrite others p)]

theorem allows_congr (granted : c.effective p = d.effective q) (readable : c.mayRead p = d.mayRead q)
    (leave : rules.any (·.letsWrite p) = others.any (·.letsWrite q)) :
    c.allows rules p protocol op = d.allows others q protocol op := by
  have has (perm : Permission) : c.has p perm = d.has q perm := by
    rw [Clearance.has, Clearance.has, granted]
  rw [allows, allows, withinLimit, withinLimit, mayWrite, mayWrite, has, has, granted, readable,
    leave]

/-- Decisions are alike where permissions, readability and leave to write are. A leave that is given
denies nothing; it decides just what asks for it, to one without the permission to write, and over
WebDAV this is to refresh and nothing else. -/
theorem allows_by_facts (c : Clearance) (p : Path) :
    (∀ (d : Clearance) (q : Path) (rules others : Option DirectoryRules),
      c.effective p = d.effective q → c.mayRead p = d.mayRead q →
        rules.any (·.letsWrite p) = others.any (·.letsWrite q) → ∀ protocol op,
          c.allows rules p protocol op = d.allows others q protocol op) ∧
      (∀ off on : Option DirectoryRules,
        off.any (·.letsWrite p) = false → on.any (·.letsWrite p) = true → ∀ protocol op,
          (c.allows off p protocol op = true → c.allows on p protocol op = true) ∧
            (c.allows off p protocol op ≠ c.allows on p protocol op ↔
              c.has p .write = false ∧ AsksLeave (c.effective p) protocol op)) ∧
      ∀ (rules others : Option DirectoryRules) (op : Operation), op ≠ .refresh →
        c.allows rules p .webDav op = c.allows others p .webDav op := by
  refine ⟨fun d q rules others granted readable leave protocol op =>
    allows_congr granted readable leave, ?_, ?_⟩
  · intro off on closed given protocol op
    by_cases asks : AsksLeave (c.effective p) protocol op
    · rw [allows_of_asksLeave asks, allows_of_asksLeave asks, mayWrite, mayWrite, closed, given,
        Bool.or_false, Bool.or_true]
      refine ⟨fun _ => rfl, ?_⟩
      rw [and_iff_left asks, Ne, Bool.not_eq_true]
    · rw [allows_of_not_asksLeave asks off on]
      exact ⟨id, iff_of_false (fun differ => differ rfl) fun both => asks both.2⟩
  · intro rules others op other
    refine allows_of_not_asksLeave ?_ rules others
    rintro ⟨⟩
    exact other rfl

/-- A user who may upload to `/in` over FTP where the meta gives leave to write. -/
def uploader : Clearance :=
  ⟨[⟨⟨3⟩, "uploaders", "", [⟨"/in", .ofList [.ftpAccess, .ftpManage]⟩]⟩]⟩

/-- A user who has the same permissions in `/out`, by two roles. -/
def twiceBound : Clearance :=
  ⟨[⟨⟨4⟩, "access", "", [⟨"/", .single .ftpAccess⟩]⟩,
    ⟨⟨5⟩, "manage", "", [⟨"/out", .single .ftpManage⟩]⟩]⟩

/-- The rules of a directory, with a leave to write in it and beneath it. -/
def openAt (path : String) : Option DirectoryRules :=
  some (.ofMeta ((Meta.plain path).openToWrite true))

theorem allows_by_facts_uploader :
    uploader.effective (.ofText "/in/a") = twiceBound.effective (.ofText "/out/b") ∧
      uploader.mayRead (.ofText "/in/a") = twiceBound.mayRead (.ofText "/out/b") ∧
      (openAt "/in").any (·.letsWrite (.ofText "/in/a")) =
        (openAt "/out").any (·.letsWrite (.ofText "/out/b")) ∧
      uploader.allows (openAt "/in") (.ofText "/in/a") .ftp .write =
        twiceBound.allows (openAt "/out") (.ofText "/out/b") .ftp .write ∧
      uploader.allows (openAt "/out") (.ofText "/in/a") .ftp .write = false ∧
      uploader.allows (openAt "/in") (.ofText "/in/a") .ftp .write = true ∧
      (uploader.allows (openAt "/out") (.ofText "/in/a") .ftp .write ≠
          uploader.allows (openAt "/in") (.ofText "/in/a") .ftp .write ↔
        uploader.has (.ofText "/in/a") .write = false ∧
          AsksLeave (uploader.effective (.ofText "/in/a")) .ftp .write) ∧
      uploader.allows (openAt "/in") (.ofText "/in/a") .webDav .write =
        uploader.allows none (.ofText "/in/a") .webDav .write := by
  have ⟨facts, leave, webDav⟩ := allows_by_facts uploader (.ofText "/in/a")
  have granted : uploader.effective (.ofText "/in/a") = twiceBound.effective (.ofText "/out/b") := by
    decide +kernel
  have readable : uploader.mayRead (.ofText "/in/a") = twiceBound.mayRead (.ofText "/out/b") := by
    decide +kernel
  have alike : (openAt "/in").any (·.letsWrite (.ofText "/in/a")) =
      (openAt "/out").any (·.letsWrite (.ofText "/out/b")) := by
    decide +kernel
  exact ⟨granted, readable, alike, facts _ _ _ _ granted readable alike .ftp .write,
    by decide +kernel, by decide +kernel,
    (leave (openAt "/out") (openAt "/in") (by decide +kernel) (by decide +kernel) .ftp .write).2,
    webDav _ _ .write (by decide)⟩

end Clearance

end StorageGateway
