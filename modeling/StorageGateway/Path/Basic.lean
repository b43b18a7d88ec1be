import StorageGateway.Dict.Basic
import StorageGateway.Text

/-!
# Paths

A `Path` is the list of its segments below the root. Any text names a path: `\` separates like
`/`, empty and `.` segments are left out, and `..` goes up by one segment, though never above the
root. A path is written with one `/` before each segment, the root as `/`.

Whether a path lies beneath another is decided by whole segments: `/a` covers `/a` and `/a/b`,
never `/ab`. Main statements: a written path reads back (`ofText_text`), and reading in two steps
is reading at once (`join_join`).
-/

namespace StorageGateway

/-- The two characters that separate segments. -/
def isSeparator (c : Char) : Bool := c == '/' || c == '\x5c'

/-- The texts between the separators of a path text. -/
def pieces (text : String) : List String :=
  (Text.split isSeparator text.toList).map String.ofList

theorem pieces_append (a b : String) : pieces (a ++ "/" ++ b) = pieces a ++ pieces b := by
  unfold pieces
  rw [String.toList_append, String.toList_append, List.append_assoc]
  show List.map _ (Text.split isSeparator (a.toList ++ '/' :: b.toList)) = _
  rw [Text.split_append a.toList (by decide), List.map_append]

/-- A text that can stand as one segment of a path. -/
def IsSegment (s : String) : Prop :=
  s ≠ "" ∧ s ≠ "." ∧ s ≠ ".." ∧ ∀ c ∈ s.toList, isSeparator c = false

instance (s : String) : Decidable (IsSegment s) :=
  have : Decidable (∀ c ∈ s.toList, isSeparator c = false) := List.decidableBAll _ _
  inferInstanceAs (Decidable (_ ∧ _ ∧ _ ∧ _))

/-- A path, as the segments on the way down from the root. -/
@[ext] structure Path where
  /-- The segments, outermost first. -/
  segments : List String
  isSegment : ∀ s ∈ segments, IsSegment s

/-- A relative request tried to leave the place it starts from. -/
inductive PathError where
  /-- The request, as it was given, has a `..` segment. -/
  | relativePath (request : String)
deriving DecidableEq, Repr

/-- The text shown for a path error. -/
def PathError.message : PathError → String
  | .relativePath request => "relative path not allowed: " ++ request

namespace Path

instance : DecidableEq Path := fun p q =>
  decidable_of_iff (p.segments = q.segments) ⟨Path.ext, fun h => h ▸ rfl⟩

/-- The path of no segments. -/
def root : Path := ⟨[], by simp⟩

instance : Inhabited Path := ⟨root⟩

/-! ## Reading and writing -/

/-- Where one piece of a path text leads from the place reached so far. -/
def step (segments : List String) (piece : String) : List String :=
  if piece = "" ∨ piece = "." then segments
  else if piece = ".." then segments.dropLast
  else segments ++ [piece]

/-- Follow the pieces one after another. -/
def walk (segments : List String) (steps : List String) : List String :=
  steps.foldl step segments

theorem isSegment_of_mem_pieces {text piece : String} (h : piece ∈ pieces text)
    (he : ¬(piece = "" ∨ piece = ".")) (hu : piece ≠ "..") : IsSegment piece := by
  obtain ⟨cs, hcs, rfl⟩ := List.mem_map.mp h
  refine ⟨fun e => he (.inl e), fun e => he (.inr e), hu, ?_⟩
  rw [String.toList_ofList]
  exact Text.not_cut_of_mem_split hcs

theorem isSegment_walk {segments steps : List String} (h : ∀ s ∈ segments, IsSegment s)
    (hs : ∀ s ∈ steps, ¬(s = "" ∨ s = ".") → s ≠ ".." → IsSegment s) :
    ∀ s ∈ walk segments steps, IsSegment s := by
  induction steps generalizing segments with
  | nil => exact h
  | cons piece rest ih =>
    refine ih ?_ fun s hm => hs s (List.mem_cons_of_mem _ hm)
    intro s hm
    unfold step at hm
    split at hm
    · exact h s hm
    · split at hm
      · exact h s (List.dropLast_subset _ hm)
      · next he hu =>
        rcases List.mem_append.mp hm with hm | hm
        · exact h s hm
        · rw [List.mem_singleton.mp hm]
          exact hs piece List.mem_cons_self he hu

/-- The path that a text leads to from `p`. -/
def join (p : Path) (text : String) : Path :=
  ⟨walk p.segments (pieces text),
    isSegment_walk p.isSegment fun _ h he hu => isSegment_of_mem_pieces h he hu⟩

/-- The path that a text names. -/
def ofText (text : String) : Path := root.join text

/-- Following two texts one after the other is following them at once. -/
theorem join_join (p : Path) (a b : String) : (p.join a).join b = p.join (a ++ "/" ++ b) := by
  apply Path.ext
  show walk (walk p.segments (pieces a)) (pieces b) = walk p.segments (pieces (a ++ "/" ++ b))
  rw [pieces_append]
  exact (List.foldl_append).symm

/-- The characters of a written path below the root. -/
def written (segments : List String) : List Char :=
  segments.flatMap fun s => '/' :: s.toList

/-- The path as it is written: a `/` before each segment, and `/` for the root. -/
def text (p : Path) : String :=
  if p.segments = [] then "/" else String.ofList (written p.segments)

instance : ToString Path := ⟨text⟩

/-! ## Parts of a path -/

/-- The directory that holds `p`; the root holds itself. -/
def parent (p : Path) : Path :=
  ⟨p.segments.dropLast, fun s h => p.isSegment s (List.dropLast_subset _ h)⟩

/-- The last segment, or `/` for the root. -/
def lastSegment (p : Path) : String := p.segments.getLast?.getD "/"

/-- Whether `child` is `parent` or lies beneath it. -/
def covers (parent child : Path) : Bool := parent.segments.isPrefixOf child.segments

/-- Whether `child` lies beneath `parent` and differs from it. -/
def strictlyCovers (parent child : Path) : Bool := parent != child && parent.covers child

/-- The segments of `whole` below `base`, if `base` covers it. -/
def below? (base whole : Path) : Option (List String) :=
  base.segments.isPrefixOf? whole.segments

/-- The first segment of `whole` below `base`, and the text of what follows it. -/
def splitBelow? (whole base : Path) : Option (String × String) :=
  match base.below? whole with
  | some (segment :: rest) => some (segment, String.intercalate "/" rest)
  | _ => none

/-- The first segment of `whole` below `base`. -/
def firstBelow? (whole base : Path) : Option String :=
  (whole.splitBelow? base).map Prod.fst

/-- The paths from `p` up to the root, `p` first. -/
def ancestors (p : Path) : List Path :=
  (List.range (p.segments.length + 1)).map fun n =>
    ⟨p.segments.take (p.segments.length - n), fun s h => p.isSegment s (List.mem_of_mem_take h)⟩

/-- `p` with more segments beneath it. -/
def append (p : Path) (more : List String) (h : ∀ s ∈ more, IsSegment s) : Path :=
  ⟨p.segments ++ more, fun s hm => (List.mem_append.mp hm).elim (p.isSegment s) (h s)⟩

/-- The segments of a path from the `n`th on, as a path of their own. -/
def drop (p : Path) (n : Nat) : Path :=
  ⟨p.segments.drop n, fun s h => p.isSegment s (List.mem_of_mem_drop h)⟩

/-- The place of `p` after `old` has become `new`, if `p` is `old` or lies beneath it. -/
def follow? (p old new : Path) : Option Path :=
  if old.covers p then
    some (new.append (p.drop old.segments.length).segments (p.drop old.segments.length).isSegment)
  else none

/-- The place of `p` seen from `base`, which covers it. -/
def within (p base : Path) : Path := p.drop base.segments.length

/-- The path that a request leads to from a base. A request with a `..` segment is refused, not
followed, so that no request leaves its base. -/
def joinBelow (base : Path) (request : String) : Except PathError Path :=
  if ".." ∈ pieces request then .error (.relativePath request)
  else .ok (base.join request)

/-! ## A written path reads back -/

theorem pieces_written {segments : List String} (h : ∀ s ∈ segments, IsSegment s)
    (hne : segments ≠ []) :
    pieces (String.ofList (written segments)) = "" :: segments := by
  unfold pieces
  rw [String.toList_ofList]
  suffices Text.split isSeparator (written segments) = [] :: segments.map String.toList by
    rw [this]
    simp [Function.comp_def]
  induction segments with
  | nil => exact absurd rfl hne
  | cons s rest ih =>
    have hs := (h s List.mem_cons_self).2.2.2
    show Text.split isSeparator ('/' :: (s.toList ++ written rest)) = _
    rw [Text.split_cons_of_cut (by decide)]
    cases rest with
    | nil => simp [written, Text.split_eq_singleton hs]
    | cons t others =>
      have hrest := ih (fun x hx => h x (List.mem_cons_of_mem _ hx)) (by simp)
      have hw : written (t :: others) = '/' :: (t.toList ++ written others) := rfl
      rw [hw] at hrest ⊢
      rw [Text.split_cons_of_cut (by decide)] at hrest
      rw [Text.split_append_cut hs (by decide)]
      simpa using hrest

/-- Pieces that are segments are all kept. -/
theorem walk_segments {segments more : List String} (h : ∀ s ∈ more, IsSegment s) :
    walk segments more = segments ++ more := by
  induction more generalizing segments with
  | nil => simp [walk]
  | cons s rest ih =>
    obtain ⟨h1, h2, h3, -⟩ := h s List.mem_cons_self
    show walk (step segments s) rest = _
    rw [ih fun x hx => h x (List.mem_cons_of_mem _ hx)]
    simp [step, h1, h2, h3]

/-- A written path reads back. -/
@[simp] theorem ofText_text (p : Path) : ofText p.text = p := by
  apply Path.ext
  show walk [] (pieces p.text) = p.segments
  unfold text
  split
  · next h => rw [h]; decide
  · next h =>
    rw [pieces_written p.isSegment h]
    show walk (step [] "") p.segments = _
    rw [show step [] "" = [] from rfl, walk_segments p.isSegment, List.nil_append]

/-- Two paths written alike are the same path. -/
theorem text_injective {p q : Path} (h : p.text = q.text) : p = q := by
  rw [← ofText_text p, h, ofText_text]

/-- Paths in the order of their texts. -/
instance : KeyOrder Path := KeyOrder.along text text_injective

end Path

/-! ## Clean texts -/

/-- Cleaning leaves the text as it is. -/
def IsCleanPath (text : String) : Prop := (Path.ofText text).text = text

instance (text : String) : Decidable (IsCleanPath text) := inferInstanceAs (Decidable (_ = _))

theorem isCleanPath_text (p : Path) : IsCleanPath p.text := by
  rw [IsCleanPath, Path.ofText_text]

end StorageGateway
