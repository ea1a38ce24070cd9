/-!
Texts cut at a separator or into lines. Main statements: joining the pieces gives the text back, and
joined pieces are cut where they were joined.
-/
namespace LoadProbe.Text

/-- The pieces between separators; there is always one more of them than separators. -/
def split (separator : Char) : List Char → List (List Char)
  | [] => [[]]
  | c :: rest =>
    if c = separator then [] :: split separator rest
    else
      match split separator rest with
      | [] => [[c]]
      | piece :: pieces => (c :: piece) :: pieces

/-- A line without the carriage return that may stand before its line feed. -/
def dropReturn (line : List Char) : List Char :=
  if line.getLast? = some '\r' then line.dropLast else line

/-- Drops a last piece that is empty, and the carriage return of every piece but the last. -/
def closeLines : List (List Char) → List (List Char)
  | [] => []
  | [last] => if last = [] then [] else [last]
  | line :: rest => dropReturn line :: closeLines rest

/-- The lines of a text, each up to a line feed or to the end. -/
def lines (text : List Char) : List (List Char) := closeLines (split '\n' text)

theorem split_ne_nil (separator : Char) (text : List Char) : split separator text ≠ [] := by
  cases text with
  | nil => simp [split]
  | cons c rest =>
    unfold split
    split
    · simp
    · split <;> simp

theorem intercalate_split (separator : Char) (text : List Char) :
    [separator].intercalate (split separator text) = text := by
  induction text with
  | nil => rfl
  | cons c rest ih =>
    unfold split
    split
    · next same =>
      cases pieces : split separator rest with
      | nil => exact absurd pieces (split_ne_nil _ _)
      | cons piece more =>
        rw [pieces] at ih
        simp [same, ← ih, List.intercalate]
    · cases pieces : split separator rest with
      | nil => exact absurd pieces (split_ne_nil _ _)
      | cons piece more =>
        rw [pieces] at ih
        cases more <;> simp_all [List.intercalate]

theorem split_of_not_mem {separator : Char} {piece : List Char} (none : separator ∉ piece) :
    split separator piece = [piece] := by
  induction piece with
  | nil => rfl
  | cons c rest ih =>
    have other : c ≠ separator := fun same => none (same ▸ List.mem_cons_self)
    have later : separator ∉ rest := fun found => none (List.mem_cons_of_mem c found)
    rw [split, if_neg other, ih later]

theorem split_append_cons {separator : Char} {piece : List Char} (none : separator ∉ piece)
    (rest : List Char) :
    split separator (piece ++ separator :: rest) = piece :: split separator rest := by
  induction piece with
  | nil => rw [List.nil_append, split, if_pos rfl]
  | cons c more ih =>
    have other : c ≠ separator := fun same => none (same ▸ List.mem_cons_self)
    have later : separator ∉ more := fun found => none (List.mem_cons_of_mem c found)
    rw [List.cons_append, split, if_neg other, ih later]

/-- Pieces without the separator are cut where they were joined. -/
theorem split_intercalate {separator : Char} {pieces : List (List Char)} (nonempty : pieces ≠ [])
    (none : ∀ piece ∈ pieces, separator ∉ piece) :
    split separator ([separator].intercalate pieces) = pieces := by
  induction pieces with
  | nil => exact absurd rfl nonempty
  | cons piece rest ih =>
    have first : separator ∉ piece := none piece List.mem_cons_self
    cases rest with
    | nil => rw [List.intercalate_singleton, split_of_not_mem first]
    | cons second more =>
      have later := ih (List.cons_ne_nil _ _) fun other member =>
        none other (List.mem_cons_of_mem piece member)
      rw [List.intercalate_cons_cons, List.append_assoc, List.singleton_append,
        split_append_cons first, later]

/-- Joined pieces hold nothing but the pieces and what they are joined with. -/
theorem eq_or_mem_of_mem_intercalate {separator c : Char} {pieces : List (List Char)}
    (member : c ∈ [separator].intercalate pieces) :
    c = separator ∨ ∃ piece ∈ pieces, c ∈ piece := by
  induction pieces with
  | nil => exact absurd member List.not_mem_nil
  | cons piece rest ih =>
    cases rest with
    | nil =>
      rw [List.intercalate_singleton] at member
      exact .inr ⟨piece, List.mem_cons_self, member⟩
    | cons second more =>
      rw [List.intercalate_cons_cons] at member
      rcases List.mem_append.mp member with front | later
      · rcases List.mem_append.mp front with inside | between
        · exact .inr ⟨piece, List.mem_cons_self, inside⟩
        · exact .inl (List.mem_singleton.mp between)
      · rcases ih later with same | ⟨other, found, inside⟩
        · exact .inl same
        · exact .inr ⟨other, List.mem_cons_of_mem piece found, inside⟩

theorem not_mem_of_mem_split {separator : Char} {text piece : List Char}
    (member : piece ∈ split separator text) : separator ∉ piece := by
  induction text generalizing piece with
  | nil =>
    obtain rfl : piece = [] := by simpa [split] using member
    exact List.not_mem_nil
  | cons c rest ih =>
    unfold split at member
    split at member
    · rcases List.mem_cons.mp member with rfl | later
      · exact List.not_mem_nil
      · exact ih later
    · next other =>
      cases pieces : split separator rest with
      | nil => exact absurd pieces (split_ne_nil _ _)
      | cons first more =>
        rw [pieces] at member ih
        rcases List.mem_cons.mp member with rfl | later
        · intro found
          rcases List.mem_cons.mp found with same | inside
          · exact other same.symm
          · exact ih List.mem_cons_self inside
        · exact ih (List.mem_cons_of_mem first later)

end LoadProbe.Text
