import StorageGateway.Proofs.Path.Covering

/-!
# Requests below a base

A request is refused exactly if `..` stands in it between separators or ends of the text. Any other
request leads below its base, by the segments that it names one after another. Main statements:
`mem_pieces_iff` and `joinBelow_spec`.
-/

namespace StorageGateway

/-! ## Pieces of a text -/

/-- A piece stands in a text: it holds no character of the class, and what comes before and after it,
if anything, ends or starts with such a character. -/
def Text.StandsIn (cut : Char → Bool) (piece cs : List Char) : Prop :=
  (∀ c ∈ piece, cut c = false) ∧
    ∃ before after, cs = before ++ piece ++ after ∧
      (∀ c ∈ before.getLast?, cut c = true) ∧ ∀ c ∈ after.head?, cut c = true

namespace Text

variable {cut : Char → Bool} {piece cs : List Char}

/-- A text is one piece, or a first piece with a character of the class after it. -/
theorem split_cases (cut : Char → Bool) (cs : List Char) :
    ∃ first, (∀ c ∈ first, cut c = false) ∧
      (cs = first ∧ split cut cs = [first] ∨
        ∃ c rest, cut c = true ∧ cs = first ++ c :: rest ∧
          split cut cs = first :: split cut rest) := by
  induction cs with
  | nil => exact ⟨[], by simp, .inl ⟨rfl, rfl⟩⟩
  | cons c rest ih =>
    by_cases cuts : cut c = true
    · exact ⟨[], by simp, .inr ⟨c, rest, cuts, rfl, split_cons_of_cut cuts rest⟩⟩
    · obtain ⟨first, uncut, shape⟩ := ih
      have all : ∀ d ∈ c :: first, cut d = false := by
        intro d present
        rcases List.mem_cons.mp present with rfl | later
        · exact eq_false_of_ne_true cuts
        · exact uncut d later
      refine ⟨c :: first, all, ?_⟩
      rcases shape with ⟨rfl, -⟩ | ⟨d, others, cutsLater, rfl, -⟩
      · exact .inl ⟨rfl, split_eq_singleton all⟩
      · exact .inr ⟨d, others, cutsLater, rfl, split_append_cut all cutsLater others⟩

namespace StandsIn

theorem at_start (uncut : ∀ c ∈ piece, cut c = false) {after : List Char}
    (starts : ∀ c ∈ after.head?, cut c = true) : StandsIn cut piece (piece ++ after) :=
  ⟨uncut, [], after, rfl, by simp, starts⟩

theorem further_on (stands : StandsIn cut piece cs) (first : List Char) {c : Char}
    (cuts : cut c = true) : StandsIn cut piece (first ++ c :: cs) := by
  obtain ⟨uncut, before, after, rfl, ends, starts⟩ := stands
  refine ⟨uncut, first ++ c :: before, after, by simp, fun d last => ?_, starts⟩
  rcases List.eq_nil_or_concat before with rfl | ⟨front, e, rfl⟩
  · obtain rfl : c = d := by simpa using last
    exact cuts
  · have shape : first ++ c :: front.concat e = (first ++ c :: front) ++ [e] := by simp
    rw [shape, List.getLast?_concat] at last
    exact ends d (by simpa using last)

end StandsIn

/-- The pieces of a text are those that stand in it. -/
theorem mem_split_iff : piece ∈ split cut cs ↔ StandsIn cut piece cs := by
  constructor
  · intro present
    have uncut := not_cut_of_mem_split present
    -- the first piece, or a piece of what follows it
    induction length : cs.length using Nat.strongRecOn generalizing cs with
    | _ n ih =>
      obtain ⟨first, -, ⟨rfl, one⟩ | ⟨c, rest, cuts, rfl, more⟩⟩ := split_cases cut cs
      · rw [one, List.mem_singleton] at present
        subst present
        exact ⟨uncut, [], [], by simp, by simp, by simp⟩
      · rw [more, List.mem_cons] at present
        rcases present with rfl | later
        · exact .at_start uncut (by simpa using cuts)
        · have shorter : rest.length < n := by
            rw [← length, List.length_append, List.length_cons]
            omega
          exact (ih rest.length shorter later rfl).further_on first cuts
  · rintro ⟨uncut, before, after, rfl, ends, starts⟩
    have head : piece ∈ split cut (piece ++ after) := by
      cases after with
      | nil => simp [split_eq_singleton uncut]
      | cons c rest => simp [split_append_cut uncut (starts c (by simp))]
    rcases List.eq_nil_or_concat before with rfl | ⟨front, c, rfl⟩
    · exact head
    · rw [List.concat_eq_append, List.append_assoc, List.append_assoc, List.singleton_append,
        split_append front (ends c (by simp))]
      exact List.mem_append_right _ head

end Text

/-- A text stands in another between separators or ends of the text. -/
def StandsIn (piece text : String) : Prop := Text.StandsIn isSeparator piece.toList text.toList

theorem mem_pieces_iff {piece text : String} : piece ∈ pieces text ↔ StandsIn piece text := by
  rw [StandsIn, ← Text.mem_split_iff, pieces, List.mem_map]
  constructor
  · rintro ⟨cs, present, rfl⟩
    rwa [String.toList_ofList]
  · exact fun present => ⟨_, present, String.ofList_toList⟩

example : StandsIn ".." "a\\../b" := mem_pieces_iff.mp (by decide)

namespace Path

/-! ## Segments of a request -/

/-- The segments that a text names, up to `..`: its pieces but for empty ones and `.`. -/
def named (text : String) : List String := (pieces text).filter fun s => s ≠ "" ∧ s ≠ "."

/-- A walk that never goes up adds the same segments wherever it starts. -/
theorem walk_of_not_up {steps : List String} (stays : ".." ∉ steps) (segments : List String) :
    walk segments steps = segments ++ steps.filter fun s => s ≠ "" ∧ s ≠ "." := by
  induction steps generalizing segments with
  | nil => exact (List.append_nil segments).symm
  | cons piece rest ih =>
    rw [List.mem_cons, not_or] at stays
    change walk (step segments piece) rest = _
    rw [ih stays.2, step]
    by_cases skipped : piece = "" ∨ piece = "."
    · rw [if_pos skipped, List.filter_cons_of_neg]
      simpa [or_iff_not_imp_left] using skipped
    · rw [if_neg skipped, if_neg (Ne.symm stays.1), List.filter_cons_of_pos, List.append_assoc]
      · rfl
      · simpa [not_or] using skipped

theorem segments_join {request : String} (stays : ".." ∉ pieces request) (base : Path) :
    (base.join request).segments = base.segments ++ named request :=
  walk_of_not_up stays base.segments

/-- A path with a request after it, written as one text, names what the request leads to. -/
theorem ofText_append (base : Path) (request : String) :
    ofText (base.text ++ "/" ++ request) = base.join request := by
  rw [ofText, ← join_join]
  exact congrArg (join · request) (ofText_text base)

/-- A request is refused exactly if `..` stands in it, and otherwise it adds the segments that it
names to those of the base. -/
theorem joinBelow_spec (base : Path) (request : String) :
    match base.joinBelow request with
    | .error e => e = .relativePath request ∧ StandsIn ".." request
    | .ok p =>
      ¬ StandsIn ".." request ∧ p = ofText (base.text ++ "/" ++ request) ∧
        p.segments = base.segments ++ named request ∧ base.covers p = true := by
  rw [joinBelow]
  by_cases up : ".." ∈ pieces request
  · rw [if_pos up]
    exact ⟨rfl, mem_pieces_iff.mp up⟩
  · rw [if_neg up]
    have segments := segments_join up base
    exact ⟨fun stands => up (mem_pieces_iff.mpr stands), (ofText_append base request).symm,
      segments, covers_iff.mpr ⟨named request, segments.symm⟩⟩

end Path

end StorageGateway
