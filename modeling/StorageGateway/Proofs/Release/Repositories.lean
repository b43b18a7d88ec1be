import StorageGateway.Proofs.Text
import StorageGateway.Release.Repository

/-!
# The lines that mount repositories

A text of mounts is read line by line. Which mount a line gives, if any, is told by a grammar; what is
read from a text are the mounts of its lines, so that no line bears on another, and mounts that are
written one on each line are read back. Main statement: `listOfText_readsByLine`.
-/

namespace StorageGateway

namespace RepositoryMount

open Text

/-! ## The grammar -/

/-- A name of a repository: an owner and a name with the only `/` between them. -/
def IsRepositoryName (repo : List Char) : Prop :=
  ∃ owner name, repo = owner ++ '/' :: name ∧ '/' ∉ owner ∧ '/' ∉ name ∧ owner ≠ [] ∧ name ≠ []

/-- A line without the blanks around it mounts a repository if it is no comment and names the
repository, behind the path at which it is mounted and a `:` if that is not the root. -/
inductive Gives (line : List Char) : RepositoryMount → Prop
  | atRoot {repo : List Char} :
    IsCore repo line → repo.head? ≠ some '#' → ':' ∉ repo → IsRepositoryName repo →
      Gives line ⟨.root, String.ofList repo⟩
  | atPoint {content before after point repo : List Char} :
    IsCore content line → content.head? ≠ some '#' →
      content = before ++ ':' :: after → ':' ∉ before → ':' ∉ after →
      IsCore point before → IsCore repo after → IsRepositoryName repo →
      Gives line ⟨.ofText (String.ofList point), String.ofList repo⟩

/-- The lines of a text, with nothing of the newlines between them. -/
structure IsLines (lines : List (List Char)) (text : String) : Prop where
  nonempty : lines ≠ []
  uncut : ∀ line ∈ lines, '\n' ∉ line
  joined : ['\n'].intercalate lines = text.toList

/-- The mounts that lines give: one for each line that gives a mount, in their order. -/
inductive Reads : List (List Char) → List RepositoryMount → Prop
  | none : Reads [] []
  | mount {line : List Char} {m : RepositoryMount} {lines : List (List Char)}
      {mounts : List RepositoryMount} :
    Gives line m → Reads lines mounts → Reads (line :: lines) (m :: mounts)
  | skip {line : List Char} {lines : List (List Char)} {mounts : List RepositoryMount} :
    (∀ m, ¬ Gives line m) → Reads lines mounts → Reads (line :: lines) mounts

variable {line content repo : List Char} {m : RepositoryMount} {lines : List (List Char)}
  {mounts : List RepositoryMount} {text : String}

/-! ## What a line gives -/

theorem isRepository_iff : isRepository repo = true ↔ IsRepositoryName repo := by
  unfold isRepository IsRepositoryName
  constructor
  · intro named
    split at named
    · next owner name cut =>
      obtain ⟨shape, before, after⟩ := split_eq_pair_iff.mp cut
      exact ⟨owner, name, shape, before, after, by simpa using named⟩
    · contradiction
  · rintro ⟨owner, name, shape, before, after, owned, named⟩
    rw [split_eq_pair_iff.mpr ⟨shape, before, after⟩]
    simp [owned, named]

theorem ofLine?_eq_some_iff (isCore : IsCore content line) :
    ofLine? content = some m ↔ Gives line m := by
  have same : ∀ {other}, IsCore other line → other = content := fun {other} also =>
    (trim_eq_iff.mpr also).symm.trans (trim_eq_iff.mpr isCore)
  have trimmed : trim content = content := trim_eq_iff.mpr isCore.self
  unfold ofLine?
  constructor
  · intro read
    split at read
    · contradiction
    · next noComment =>
      dsimp only at read
      split at read
      · next repo cut =>
        obtain ⟨rfl, plain⟩ := split_eq_single_iff.mp cut
        rw [trimmed] at read
        split at read
        · next named =>
          cases read
          exact .atRoot isCore noComment plain (isRepository_iff.mp named)
        · contradiction
      · next before after cut =>
        obtain ⟨shape, once, noMore⟩ := split_eq_pair_iff.mp cut
        split at read
        · next named =>
          cases read
          exact .atPoint isCore noComment shape once noMore (isCore_trim before) (isCore_trim after)
            (isRepository_iff.mp named)
        · contradiction
      · contradiction
  · intro gives
    cases gives with
    | @atRoot repo core noComment plain named =>
      obtain rfl := same core
      rw [if_neg noComment, split_eq_single_iff.mpr ⟨rfl, plain⟩]
      dsimp only
      rw [trimmed, if_pos (isRepository_iff.mpr named)]
      rfl
    | @atPoint content before after point repo core noComment shape once noMore pointCore repoCore
        named =>
      obtain rfl := same core
      rw [if_neg noComment, split_eq_pair_iff.mpr ⟨shape, once, noMore⟩]
      dsimp only
      rw [trim_eq_iff.mpr pointCore, trim_eq_iff.mpr repoCore, if_pos (isRepository_iff.mpr named)]

/-! ## What a text gives -/

theorem isLines_split (text : String) : IsLines (split (· == '\n') text.toList) text where
  nonempty := split_ne_nil _ _
  uncut _ among := not_cut_iff.mp (not_cut_of_mem_split among)
  joined := intercalate_split _ _

theorem IsLines.split_eq (isLines : IsLines lines text) :
    split (· == '\n') text.toList = lines := by
  rw [← isLines.joined, split_intercalate isLines.nonempty isLines.uncut]

/-- Blank lines give nothing, so it makes no difference that they are left out. -/
theorem listOfText_eq (text : String) :
    listOfText text = (split (· == '\n') text.toList).filterMap fun line => ofLine? (trim line) := by
  have blank : ofLine? [] = none := rfl
  unfold listOfText Text.lines
  induction split (· == '\n') text.toList with
  | nil => rfl
  | cons line rest ih =>
    rw [List.map_cons, List.filterMap_cons]
    cases content : trim line with
    | nil =>
      rw [List.filter_cons_of_neg (by simp), ih, blank]
    | cons c others =>
      rw [List.filter_cons_of_pos (by simp), List.filterMap_cons, ih]

theorem reads_filterMap (lines : List (List Char)) :
    Reads lines (lines.filterMap fun line => ofLine? (trim line)) := by
  induction lines with
  | nil => exact .none
  | cons line rest ih =>
    rw [List.filterMap_cons]
    cases read : ofLine? (trim line) with
    | none =>
      refine .skip (fun m gives => ?_) ih
      rw [(ofLine?_eq_some_iff (isCore_trim line)).mpr gives] at read
      contradiction
    | some m => exact .mount ((ofLine?_eq_some_iff (isCore_trim line)).mp read) ih

/-- What is read is settled by the lines. -/
theorem Reads.eq_filterMap (reads : Reads lines mounts) :
    mounts = lines.filterMap fun line => ofLine? (trim line) := by
  induction reads with
  | none => rfl
  | @mount line m lines mounts gives _ ih =>
    have read := (ofLine?_eq_some_iff (isCore_trim line)).mpr gives
    rw [List.filterMap_cons, read, ih]
  | @skip line lines mounts idle _ ih =>
    have read : ofLine? (trim line) = Option.none := by
      by_contra present
      obtain ⟨m, read⟩ := Option.ne_none_iff_exists'.mp present
      exact idle m ((ofLine?_eq_some_iff (isCore_trim line)).mp read)
    rw [List.filterMap_cons, read, ih]

theorem listOfText_eq_iff (isLines : IsLines lines text) :
    listOfText text = mounts ↔ Reads lines mounts := by
  rw [listOfText_eq, isLines.split_eq]
  constructor
  · rintro rfl
    exact reads_filterMap lines
  · exact fun reads => reads.eq_filterMap.symm

theorem listOfText_append (a b : String) :
    listOfText (a ++ "\n" ++ b) = listOfText a ++ listOfText b := by
  have joined : (a ++ "\n" ++ b).toList = a.toList ++ '\n' :: b.toList := by
    rw [String.toList_append, String.toList_append, List.append_assoc]
    rfl
  have cut : split (· == '\n') (a.toList ++ '\n' :: b.toList) =
      split (· == '\n') a.toList ++ split (· == '\n') b.toList :=
    split_append a.toList rfl b.toList
  rw [listOfText_eq, listOfText_eq, listOfText_eq, joined, cut, List.filterMap_append]

theorem listOfText_idle (whole : '\n' ∉ text.toList) (idle : ∀ m, ¬ Gives text.toList m) :
    listOfText text = [] := by
  have isLines : IsLines [text.toList] text :=
    ⟨List.cons_ne_nil _ _, by simpa using whole, List.intercalate_singleton⟩
  exact (listOfText_eq_iff isLines).mpr (.skip idle .none)

/-! ## Mounts that are written -/

/-- The mount can be written on one line: nothing in it would end the line or be taken for another
`:`, and no blank would be lost. -/
structure Printable (m : RepositoryMount) : Prop where
  point : ∀ c ∈ m.point.text.toList, c ≠ ':' ∧ c ≠ '\n'
  pointEnds : ∀ c ∈ m.point.text.toList.getLast?, isBlank c = false
  repo : ∀ c ∈ m.repo.toList, c ≠ ':' ∧ c ≠ '\n'
  trimmed : IsCore m.repo.toList m.repo.toList
  named : IsRepositoryName m.repo.toList

/-- The line that gives the mount. -/
def asLine (m : RepositoryMount) : String := m.point.text ++ ":" ++ m.repo

/-- The text of some mounts, one on each line. -/
def textOf (mounts : List RepositoryMount) : String := "\n".intercalate (mounts.map asLine)

theorem head?_text (p : Path) : p.text.toList.head? = some '/' := by
  unfold Path.text
  cases segments : p.segments with
  | nil => rfl
  | cons s rest =>
    rw [if_neg (List.cons_ne_nil s rest), String.toList_ofList]
    rfl

theorem toList_asLine (m : RepositoryMount) :
    m.asLine.toList = m.point.text.toList ++ ':' :: m.repo.toList := by
  unfold asLine
  rw [String.toList_append, String.toList_append, List.append_assoc]
  rfl

namespace Printable

theorem isCore_point (printable : m.Printable) :
    IsCore m.point.text.toList m.point.text.toList := by
  refine .of_ends (fun c first => ?_) printable.pointEnds
  rw [head?_text, Option.mem_some_iff] at first
  rw [← first]
  rfl

theorem isCore_asLine (printable : m.Printable) : IsCore m.asLine.toList m.asLine.toList := by
  obtain ⟨owner, name, shape, -⟩ := printable.named
  have ends := printable.trimmed.ends
  rw [toList_asLine]
  refine .of_ends (fun c first => ?_) fun c last => ?_
  · rw [List.head?_append, head?_text, Option.some_or, Option.mem_some_iff] at first
    rw [← first]
    rfl
  · have named : m.repo.toList ≠ [] := by simp [shape]
    rw [List.append_cons, List.getLast?_append_of_ne_nil _ named] at last
    exact ends c last

theorem gives (printable : m.Printable) : Gives m.asLine.toList m := by
  have noComment : m.asLine.toList.head? ≠ some '#' := by
    rw [toList_asLine, List.head?_append, head?_text]
    simp
  have once : ':' ∉ m.point.text.toList := fun present => (printable.point ':' present).1 rfl
  have noMore : ':' ∉ m.repo.toList := fun present => (printable.repo ':' present).1 rfl
  have read := Gives.atPoint printable.isCore_asLine noComment m.toList_asLine once noMore
    printable.isCore_point printable.trimmed printable.named
  rwa [String.ofList_toList, String.ofList_toList, Path.ofText_text] at read

theorem newline_not_mem (printable : m.Printable) : '\n' ∉ m.asLine.toList := by
  rw [toList_asLine, List.mem_append, List.mem_cons]
  rintro (present | same | present)
  · exact (printable.point _ present).2 rfl
  · contradiction
  · exact (printable.repo _ present).2 rfl

end Printable

theorem reads_lines (printable : ∀ m ∈ mounts, m.Printable) :
    Reads (mounts.map fun m => m.asLine.toList) mounts := by
  induction mounts with
  | nil => exact .none
  | cons m rest ih =>
    exact .mount (printable m List.mem_cons_self).gives
      (ih fun other later => printable other (List.mem_cons_of_mem _ later))

/-- Mounts that are written one on each line are read back. -/
theorem listOfText_textOf (printable : ∀ m ∈ mounts, m.Printable) :
    listOfText (textOf mounts) = mounts := by
  cases mounts with
  | nil => rfl
  | cons first rest =>
    have isLines : IsLines ((first :: rest).map fun m => m.asLine.toList) (textOf (first :: rest)) := by
      refine ⟨List.cons_ne_nil _ _, ?_, ?_⟩
      · intro line among
        obtain ⟨m, present, rfl⟩ := List.mem_map.mp among
        exact (printable m present).newline_not_mem
      · unfold textOf
        rw [String.toList_intercalate, List.map_map]
        rfl
    exact (listOfText_eq_iff isLines).mpr (reads_lines printable)

/-! ## Reading line by line -/

/-- The laws of reading mounts from a text line by line. -/
structure ReadsByLine (read : String → List RepositoryMount) : Prop where
  /-- What is read are the mounts that the lines give, one after another. -/
  grammar : ∀ text, (∃ lines, IsLines lines text) ∧
    ∀ lines, IsLines lines text → ∀ mounts, read text = mounts ↔ Reads lines mounts
  /-- What comes before a newline is read first, and then what comes after it. -/
  append : ∀ a b, read (a ++ "\n" ++ b) = read a ++ read b
  /-- A line that gives no mount can be left out. -/
  idle : ∀ line : String, '\n' ∉ line.toList → (∀ m, ¬ Gives line.toList m) →
    read line = [] ∧ ∀ a b, read (a ++ "\n" ++ line ++ "\n" ++ b) = read (a ++ "\n" ++ b)
  /-- What is written is read back. -/
  written : ∀ mounts : List RepositoryMount, (∀ m ∈ mounts, m.Printable) →
    read (textOf mounts) = mounts

/-- Mounts are read from a text line by line. -/
theorem listOfText_readsByLine : ReadsByLine listOfText where
  grammar text := ⟨⟨_, isLines_split text⟩, fun _ isLines _ => listOfText_eq_iff isLines⟩
  append := listOfText_append
  idle line whole idle := by
    have nothing := listOfText_idle whole idle
    refine ⟨nothing, fun a b => ?_⟩
    rw [listOfText_append, listOfText_append, listOfText_append, nothing, List.append_nil]
  written _ := listOfText_textOf

/-- Blanks around a line, a path and a name are dropped, and a path is cleaned; a line with two `:`, one
with two `/` and a comment are passed over. -/
example :
    listOfText "  \\gh//x/. :\u00a0o w/n \r\n#a/b\na:b:c/d\n\no/n\n a/b/c\n:o/n" =
      [⟨.ofText "/gh/x", "o w/n"⟩, ⟨.root, "o/n"⟩, ⟨.root, "o/n"⟩] := by
  decide +kernel

end RepositoryMount

end StorageGateway
