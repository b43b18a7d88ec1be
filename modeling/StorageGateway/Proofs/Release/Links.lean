import Mathlib.Data.List.DropRight
import StorageGateway.Proofs.Text
import StorageGateway.Release.Storage

/-!
# Links through a proxy

A proxy stands in for the host of the releases. In a link to this host nothing comes after the name of
the host, or else a path, a port, a query or a fragment. But a link to another host can begin with the
same characters; then the proxy takes the place of a part of a name, and the link leads elsewhere. Main
statement: `link_hostExact_iff`.
-/

namespace StorageGateway

namespace Releases

variable {r : Releases} {e : Entry} {url proxy setting : String}

/-! ## What stands in for the host -/

/-- `proxy` is a setting without the blanks around it, and then without the slashes at its end. -/
def IsStandIn (proxy setting : String) : Prop :=
  ∃ slashes, Text.IsCore (proxy.toList ++ slashes) setting.toList ∧ (∀ c ∈ slashes, c = '/') ∧
    proxy.toList.getLast? ≠ some '/'

theorem dropSlashes_append {cs slashes : List Char} (all : ∀ c ∈ slashes, c = '/')
    (ends : cs.getLast? ≠ some '/') : dropSlashes (cs ++ slashes) = cs := by
  have pass : ∀ c ∈ slashes.reverse, (c == '/') = true := fun c among =>
    beq_iff_eq.mpr (all c (List.mem_reverse.mp among))
  rw [dropSlashes, List.reverse_append, List.dropWhile_append_of_pos pass]
  cases shape : cs.reverse with
  | nil => rw [List.reverse_eq_nil_iff.mp shape]; rfl
  | cons c before =>
    have last : cs.getLast? = some c := by rw [← List.head?_reverse, shape, List.head?_cons]
    have other : (c == '/') = false :=
      beq_eq_false_iff_ne.mpr fun same => ends (same ▸ last)
    rw [List.dropWhile_cons, other, if_neg Bool.false_ne_true, ← shape, List.reverse_reverse]

theorem eq_dropSlashes_append (cs : List Char) :
    ∃ slashes, cs = dropSlashes cs ++ slashes ∧ (∀ c ∈ slashes, c = '/') ∧
      (dropSlashes cs).getLast? ≠ some '/' := by
  refine ⟨cs.rtakeWhile (· == '/'), List.rdropWhile_append_rtakeWhile.symm, fun c among => ?_,
    fun last => ?_⟩
  · have slash := List.mem_rtakeWhile_imp among
    exact eq_of_beq slash
  · obtain ⟨nonempty, same⟩ := List.mem_getLast?_eq_getLast last
    exact List.rdropWhile_last_not (· == '/') cs nonempty (beq_iff_eq.mpr same.symm)

theorem isStandIn_dropSlashes (setting : String) :
    IsStandIn (String.ofList (dropSlashes (Text.trim setting.toList))) setting := by
  obtain ⟨slashes, shape, all, ends⟩ := eq_dropSlashes_append (Text.trim setting.toList)
  refine ⟨slashes, ?_, all, ?_⟩
  · rw [String.toList_ofList, ← shape]
    exact Text.isCore_trim _
  · rwa [String.toList_ofList]

theorem isStandIn_iff :
    IsStandIn proxy setting ↔ dropSlashes (Text.trim setting.toList) = proxy.toList := by
  constructor
  · rintro ⟨slashes, core, all, ends⟩
    rw [Text.trim_eq_iff.mpr core, dropSlashes_append all ends]
  · intro same
    have standIn := isStandIn_dropSlashes setting
    rwa [same, String.ofList_toList] at standIn

theorem IsStandIn.unique {other : String} (standIn : IsStandIn proxy setting)
    (also : IsStandIn other setting) : proxy = other :=
  String.toList_inj.mp ((isStandIn_iff.mp standIn).symm.trans (isStandIn_iff.mp also))

/-! ## What becomes of a link -/

theorem link_eq (located : e.locator = some url) :
    r.link e = .ok ⟨throughProxy url r.settings.proxy⟩ := by
  rw [link, located]

/-- Without a proxy a link stays. -/
theorem throughProxy_unset (unset : IsStandIn "" setting) (url : String) :
    throughProxy url setting = url := by
  rw [throughProxy, isStandIn_iff.mp unset]
  rfl

/-- Whatever begins like the host goes through the proxy. -/
theorem throughProxy_append (standIn : IsStandIn proxy setting) (set : proxy ≠ "") (rest : String) :
    throughProxy (releasesHost ++ rest) setting = proxy ++ rest := by
  have starts : releasesHost.toList.isPrefixOf? (releasesHost ++ rest).toList = some rest.toList := by
    rw [String.toList_append, List.isPrefixOf?_eq_some_iff_append_eq]
  rw [throughProxy, isStandIn_iff.mp standIn]
  split
  · next none => exact absurd (String.toList_eq_nil_iff.mp none) set
  · rw [starts]
    dsimp only
    rw [String.ofList_append, String.ofList_toList, String.ofList_toList]

/-- Whatever begins otherwise stays. -/
theorem throughProxy_of_other (other : ∀ rest, url ≠ releasesHost ++ rest) (setting : String) :
    throughProxy url setting = url := by
  have none : releasesHost.toList.isPrefixOf? url.toList = none := by
    rw [Option.eq_none_iff_forall_ne_some]
    intro rest found
    refine other (String.ofList rest) (String.toList_inj.mp ?_)
    rw [String.toList_append, String.toList_ofList,
      List.isPrefixOf?_eq_some_iff_append_eq.mp found]
  rw [throughProxy, none]
  split <;> rfl

/-! ## Links to the host and to other hosts -/

/-- The link leads to the host: nothing comes after its name, or else a path, a port, a query or a
fragment. -/
def LeadsToHost (url rest : String) : Prop :=
  url = releasesHost ++ rest ∧ ∀ c ∈ rest.toList.head?, c ∈ ['/', ':', '?', '#']

/-- Just the links to the host go through the proxy. -/
structure HostExact (r : Releases) (e : Entry) (url : String) : Prop where
  /-- If nothing stands in for the host, a link stays as it is. -/
  unset : IsStandIn "" r.settings.proxy → r.link e = .ok ⟨url⟩
  /-- What stands in for the host takes its place in a link to the host, -/
  routed : ∀ proxy rest, IsStandIn proxy r.settings.proxy → proxy ≠ "" → LeadsToHost url rest →
    r.link e = .ok ⟨proxy ++ rest⟩
  /-- and a link to another host stays as it is. -/
  kept : (∀ rest, ¬ LeadsToHost url rest) → r.link e = .ok ⟨url⟩

/-- Just the links to the host go through the proxy, unless a link begins like one to the host and goes
on with the name of another host. -/
theorem link_hostExact_iff (located : e.locator = some url) :
    HostExact r e url ↔
      IsStandIn "" r.settings.proxy ∨ IsStandIn releasesHost r.settings.proxy ∨
        ∀ rest, url = releasesHost ++ rest → LeadsToHost url rest := by
  have standIn := isStandIn_dropSlashes r.settings.proxy
  generalize String.ofList (dropSlashes (Text.trim r.settings.proxy.toList)) = proxy at standIn
  constructor
  · intro hostExact
    by_cases none : proxy = ""
    · exact .inl (none ▸ standIn)
    refine .inr (or_iff_not_imp_right.mpr fun astray => ?_)
    -- a link to another host that goes through the proxy and stays as it is
    obtain ⟨rest, rfl, other⟩ : ∃ rest, url = releasesHost ++ rest ∧ ¬ LeadsToHost url rest := by
      simpa only [not_forall, exists_prop] using astray
    have stays := hostExact.kept fun after leads => by
      rw [(String.append_right_inj _).mp leads.1] at other
      exact other (leads.1 ▸ leads)
    rw [link_eq located, throughProxy_append standIn none] at stays
    have same : proxy ++ rest = releasesHost ++ rest := Link.mk.inj (Except.ok.inj stays)
    rwa [(String.append_left_inj _).mp same] at standIn
  · rintro (unset | same | whole)
    · have stays : r.link e = .ok ⟨url⟩ := by rw [link_eq located, throughProxy_unset unset]
      exact ⟨fun _ => stays, fun other _ also set _ => absurd (also.unique unset) set, fun _ => stays⟩
    · have stays : r.link e = .ok ⟨url⟩ := by
        rw [link_eq located]
        by_cases starts : ∃ rest, url = releasesHost ++ rest
        · obtain ⟨rest, rfl⟩ := starts
          rw [throughProxy_append same (by decide)]
        · rw [throughProxy_of_other (not_exists.mp starts)]
      refine ⟨fun _ => stays, fun other rest also _ leads => ?_, fun _ => stays⟩
      rw [also.unique same, ← leads.1]
      exact stays
    · refine ⟨fun unset => ?_, fun other rest also set leads => ?_, fun elsewhere => ?_⟩
      · rw [link_eq located, throughProxy_unset unset]
      · rw [link_eq located, leads.1, throughProxy_append also set]
      · have other : ∀ rest, url ≠ releasesHost ++ rest := fun rest starts =>
          elsewhere rest (whole rest starts)
        rw [link_eq located, throughProxy_of_other other]

/-- A storage with a proxy. -/
def mirrored : Releases := .new { ReleasesSettings.default with proxy := " https://mirror.example// " }

/-- An asset in the root. -/
def assetAt (url : String) : Entry := .file .root "a.zip" 0 0 0 (some url)

theorem link_hostExact_iff_mirrored :
    (assetAt "https://github.com:443/a.zip").locator = some "https://github.com:443/a.zip" ∧
      HostExact mirrored (assetAt "https://github.com:443/a.zip") "https://github.com:443/a.zip" ∧
      mirrored.link (assetAt "https://github.com:443/a.zip") =
        .ok ⟨"https://mirror.example:443/a.zip"⟩ := by
  have whole : ∀ rest, "https://github.com:443/a.zip" = releasesHost ++ rest →
      LeadsToHost "https://github.com:443/a.zip" rest := by
    refine fun rest starts => ⟨starts, fun c first => ?_⟩
    obtain rfl : ":443/a.zip" = rest := (String.append_right_inj releasesHost).mp starts
    obtain rfl : ':' = c := Option.some.inj first
    decide
  exact ⟨rfl, (link_hostExact_iff rfl).mpr (.inr (.inr whole)), by decide⟩

/-- A host whose name goes on from that of the host of the releases is taken for it, and the link leads
to a third one. -/
theorem other_host_routed :
    mirrored.link (assetAt "https://github.com.evil/x") = .ok ⟨"https://mirror.example.evil/x"⟩ ∧
      ¬ HostExact mirrored (assetAt "https://github.com.evil/x") "https://github.com.evil/x" := by
  have routed : mirrored.link (assetAt "https://github.com.evil/x") =
      .ok ⟨"https://mirror.example.evil/x"⟩ := by decide
  refine ⟨routed, fun hostExact => ?_⟩
  have elsewhere : ∀ rest, ¬ LeadsToHost "https://github.com.evil/x" rest := by
    rintro rest ⟨starts, boundary⟩
    obtain rfl : ".evil/x" = rest := (String.append_right_inj releasesHost).mp starts
    exact absurd (boundary '.' rfl) (by decide)
  rw [hostExact.kept elsewhere] at routed
  exact absurd routed (by decide)

end Releases

end StorageGateway
