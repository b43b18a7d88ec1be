import StorageGateway.Proofs.Path.Splicing
import StorageGateway.Proofs.Text

/-!
# Clean texts

The text of a path is clean: it starts with a `/`, has no backslash, and between its slashes stand
segments only. These are the texts that cleaning leaves as they are, so that each path has one of
them. Cleaning follows the pieces of a text one after another, and what it makes of a text with more
after it depends on the path of the text alone. Main statements: `isCleanPath_iff` and
`clean_form`.
-/

namespace StorageGateway

/-- The form of a clean text, told without cleaning it. -/
structure IsNormal (text : String) : Prop where
  starts : ∃ rest, text = "/" ++ rest
  plain : '\x5c' ∉ text.toList
  /-- No piece after the first `/` is empty, `.` or `..`. -/
  segments : ∀ rest, text = "/" ++ rest → rest ≠ "" →
    ∀ s, StandsIn s rest → s ≠ "" ∧ s ≠ "." ∧ s ≠ ".."
  /-- Only the text `/` ends with a `/`. -/
  ends : ∀ front, text = front ++ "/" → front = ""

/-! ## Pieces and separators -/

/-- A text without a backslash is cut at its slashes. -/
theorem pieces_of_plain {text : String} (plain : '\x5c' ∉ text.toList) :
    pieces text = (Text.split (· == '/') text.toList).map String.ofList := by
  rw [pieces]
  refine congrArg _ (Text.split_congr fun c among => ?_)
  have other : (c == '\x5c') = false := beq_eq_false_iff_ne.mpr fun same => plain (same ▸ among)
  rw [isSeparator, other, Bool.or_false]

/-- The pieces of a text without a backslash, with slashes between them, are the text. -/
theorem intercalate_pieces {text : String} (plain : '\x5c' ∉ text.toList) :
    "/".intercalate (pieces text) = text := by
  apply String.toList_inj.mp
  rw [String.toList_intercalate, pieces_of_plain plain, List.map_map]
  have back : String.toList ∘ String.ofList = id := funext fun _ => String.toList_ofList
  rw [back, List.map_id]
  exact Text.intercalate_split '/' text.toList

/-- A separator before a text adds an empty piece. -/
theorem pieces_slash_append (text : String) : pieces ("/" ++ text) = "" :: pieces text := by
  have cut := pieces_append "" text
  rwa [String.empty_append] at cut

theorem pieces_append_slash (text : String) : pieces (text ++ "/") = pieces text ++ [""] := by
  have cut := pieces_append text ""
  rwa [String.append_empty] at cut

theorem pieces_append_backslash (a b : String) :
    pieces (a ++ "\x5c" ++ b) = pieces (a ++ "/" ++ b) := by
  rw [pieces_append, pieces, String.toList_append, String.toList_append, List.append_assoc]
  change List.map _ (Text.split isSeparator (a.toList ++ '\x5c' :: b.toList)) = _
  rw [Text.split_append a.toList (by decide), List.map_append]
  rfl

namespace Path

variable {p q : Path} {s a b text : String}

theorem separator_not_mem (segment : IsSegment s) {c : Char} (cuts : isSeparator c = true) :
    c ∉ s.toList := by
  intro present
  rw [segment.2.2.2 c present] at cuts
  contradiction

/-! ## Texts of paths -/

/-- Segments below a path are written behind a `/`, with a `/` between them. -/
theorem written_eq_intercalate (s : String) (more : List String) :
    String.ofList (written (s :: more)) = "/" ++ "/".intercalate (s :: more) := by
  induction more generalizing s with
  | nil => rw [written_cons, String.intercalate_singleton, written, List.flatMap_nil,
      String.ofList_nil, String.append_empty]
  | cons t others ih =>
    rw [written_cons, ih, String.intercalate_cons_cons, String.append_assoc, String.append_assoc]

/-- The text of a path is a `/` and its segments with a `/` between them. -/
theorem text_eq_intercalate (p : Path) : p.text = "/" ++ "/".intercalate p.segments := by
  rw [text]
  cases segments : p.segments with
  | nil => rfl
  | cons s more => rw [if_neg (List.cons_ne_nil s more), written_eq_intercalate]

/-- Segments with a `/` between them are cut apart again. -/
theorem pieces_intercalate {more : List String} (all : ∀ s ∈ more, IsSegment s)
    (nonempty : more ≠ []) : pieces ("/".intercalate more) = more := by
  cases more with
  | nil => contradiction
  | cons s others =>
    have whole := pieces_append_written "" all
    rw [String.empty_append, written_eq_intercalate, pieces_slash_append] at whole
    exact (List.cons_inj_right _).mp whole

theorem pieces_text (beneath : p.segments ≠ []) : pieces p.text = "" :: p.segments := by
  rw [text_eq_intercalate, pieces_slash_append, pieces_intercalate p.isSegment beneath]

theorem backslash_not_mem_text (p : Path) : '\x5c' ∉ p.text.toList := by
  rw [text]
  split
  · decide
  · rw [String.toList_ofList, written, List.mem_flatMap]
    rintro ⟨s, among, present⟩
    rcases List.mem_cons.mp present with same | inside
    · contradiction
    · exact separator_not_mem (p.isSegment s among) rfl inside

/-! ## The form of clean texts -/

theorem isNormal_text (p : Path) : IsNormal p.text where
  starts := ⟨_, p.text_eq_intercalate⟩
  plain := p.backslash_not_mem_text
  segments rest shape present s stands := by
    rw [text_eq_intercalate, String.append_right_inj] at shape
    subst shape
    have beneath : p.segments ≠ [] := by
      intro none
      rw [none] at present
      contradiction
    rw [← mem_pieces_iff, pieces_intercalate p.isSegment beneath] at stands
    obtain ⟨nonempty, notDot, notUp, -⟩ := p.isSegment s stands
    exact ⟨nonempty, notDot, notUp⟩
  ends front shape := by
    cases segments : p.segments with
    | nil =>
      rw [text_eq_intercalate, segments] at shape
      have none : "" = front := (String.append_left_inj "/").mp shape
      exact none.symm
    | cons s more =>
      -- the last piece would be empty, but it is a segment
      have cut := congrArg pieces shape
      rw [pieces_text (segments ▸ List.cons_ne_nil s more), segments, pieces_append_slash] at cut
      have last := congrArg List.getLast? cut
      rw [List.getLast?_cons_cons, List.getLast?_concat, ← segments] at last
      exact absurd rfl (p.isSegment "" (List.mem_of_getLast? last)).1

/-- A text of this form is left as it is. -/
theorem text_ofText (normal : IsNormal text) : (ofText text).text = text := by
  obtain ⟨rest, rfl⟩ := normal.starts
  by_cases none : rest = ""
  · subst none
    decide
  · have plain : '\x5c' ∉ rest.toList := fun present =>
      normal.plain (by rw [String.toList_append]; exact List.mem_append_right _ present)
    have all : ∀ s ∈ pieces rest, IsSegment s := by
      intro s among
      have stands := mem_pieces_iff.mp among
      obtain ⟨nonempty, notDot, notUp⟩ := normal.segments rest rfl none s stands
      exact ⟨nonempty, notDot, notUp, stands.1⟩
    have segments : (ofText ("/" ++ rest)).segments = pieces rest := by
      change walk [] (pieces ("/" ++ rest)) = pieces rest
      rw [pieces_slash_append]
      exact walk_segments all
    rw [text_eq_intercalate, segments, intercalate_pieces plain]

/-- Cleaning leaves just the texts of this form as they are. -/
theorem isCleanPath_iff : IsCleanPath text ↔ IsNormal text :=
  ⟨fun clean => clean ▸ isNormal_text (ofText text), text_ofText⟩

/-! ## One piece after another -/

theorem ofText_congr (same : pieces a = pieces b) : ofText a = ofText b := by
  apply Path.ext
  change walk [] (pieces a) = walk [] (pieces b)
  rw [same]

theorem ofText_slash_append (text : String) : ofText ("/" ++ text) = ofText text := by
  apply Path.ext
  change walk [] (pieces ("/" ++ text)) = walk [] (pieces text)
  rw [pieces_slash_append]
  rfl

/-- A text with more after it leads on from the path of the text. -/
theorem ofText_goesOn (text more : String) : ofText (text ++ "/" ++ more) = (ofText text).join more :=
  (join_join root text more).symm

theorem join_of_idle (p : Path) (idle : s = "" ∨ s = ".") : p.join s = p := by
  rcases idle with rfl | rfl
  · rfl
  · exact p.join_dot

/-- A child is written behind its directory. -/
theorem IsChild.text_eq (child : q.IsChild p s) : q.text = p.stem ++ "/" ++ s := by
  rw [← stem_of_ne_root child.ne_root, stem_eq, child, written_append, ← stem_eq, written_cons,
    written, List.flatMap_nil, String.ofList_nil, String.append_empty, String.append_assoc]

/-- The laws of the clean form of a text. -/
structure CanonicalForm (text : String) : Prop where
  /-- The clean text is normal, -/
  normal : IsNormal (ofText text).text
  /-- and just the normal texts are clean already. -/
  fixed : (ofText text).text = text ↔ IsNormal text
  /-- To clean twice is to clean once. -/
  again : (ofText (ofText text).text).text = (ofText text).text
  /-- What goes on from a text may as well go on from the clean one, -/
  goesOn : ∀ more,
    (ofText (text ++ "/" ++ more)).text = (ofText ((ofText text).text ++ "/" ++ more)).text
  /-- and so may what is asked for below it. -/
  asked : ∀ request p, (ofText text).joinBelow request = .ok p ↔
    ¬ StandsIn ".." request ∧ p.text = (ofText (text ++ "/" ++ request)).text
  /-- A path starts at the root with a `/` or without one, -/
  leading : (ofText ("/" ++ text)).text = (ofText text).text
  /-- and a backslash separates like a `/`. -/
  backslash : ∀ more, (ofText (text ++ "\x5c" ++ more)).text = (ofText (text ++ "/" ++ more)).text
  /-- Of the pieces, an empty one and `.` lead nowhere, -/
  stays : ∀ s, s = "" ∨ s = "." → (ofText (text ++ "/" ++ s)).text = (ofText text).text
  /-- `..` leads to the directory, which is the root itself for the root, -/
  up : (ofText (text ++ "/" ++ "..")).text = (ofText text).parent.text
  /-- and any other leads to a child of its name. -/
  down : ∀ s, IsSegment s → (ofText (text ++ "/" ++ s)).text = (ofText text).stem ++ "/" ++ s

/-- Every text has a clean form, whatever pieces and separators it mixes. -/
theorem clean_form (text : String) : CanonicalForm text where
  normal := isNormal_text _
  fixed := isCleanPath_iff
  again := by rw [ofText_text]
  goesOn more := by rw [ofText_append, ofText_goesOn]
  asked request p := by
    have spec := joinBelow_spec (ofText text) request
    cases answer : (ofText text).joinBelow request with
    | error e =>
      rw [answer] at spec
      exact iff_of_false (by simp) fun stays => stays.1 spec.2
    | ok q =>
      rw [answer] at spec
      obtain ⟨stays, place, -⟩ := spec
      rw [ofText_append, ← ofText_goesOn] at place
      rw [Except.ok.injEq, place]
      exact ⟨fun same => ⟨stays, same ▸ rfl⟩, fun same => (text_injective same.2).symm⟩
  leading := by rw [ofText_slash_append]
  backslash more := by rw [ofText_congr (pieces_append_backslash text more)]
  stays s idle := by rw [ofText_goesOn, join_of_idle _ idle]
  up := by rw [ofText_goesOn, join_dots]
  down s segment := by
    rw [ofText_goesOn]
    exact (isChild_join (ofText text) segment).text_eq

/-- Climbs end at the root, and a clean text is told from others by its form alone. -/
example :
    (ofText "a\\.//b/../../../c/").text = "/c" ∧ (ofText "/a/..b/c.").text = "/a/..b/c." := by
  decide +kernel

end Path

end StorageGateway
