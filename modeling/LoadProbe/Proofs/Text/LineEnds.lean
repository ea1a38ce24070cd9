import LoadProbe.Proofs.Text.Lines

/-!
Lines and what ends them: a line feed, with a carriage return before it or without. Main statements:
`hasLines_iff`, the lines of a text are told by how it is put together, and `trim_lines_joinLines`,
lines that are put together with any ends come back.
-/
namespace LoadProbe.Text

/-- A text with its lines. Each line goes up to a line feed, less the carriage return that may stand
before it; what is behind the last line feed is one more line, if it is anything. -/
inductive HasLines : List Char → List (List Char) → Prop where
  | none : HasLines [] []
  | rest {line : List Char} (some : line ≠ []) (single : '\n' ∉ line) : HasLines line [line]
  | feed {line rest : List Char} {lines : List (List Char)} (single : '\n' ∉ line)
      (plain : line.getLast? ≠ some '\r') (more : HasLines rest lines) :
      HasLines (line ++ '\n' :: rest) (line :: lines)
  | returnFeed {line rest : List Char} {lines : List (List Char)} (single : '\n' ∉ line)
      (more : HasLines rest lines) : HasLines (line ++ '\r' :: '\n' :: rest) (line :: lines)

theorem dropReturn_append_return (line : List Char) : dropReturn (line ++ ['\r']) = line := by
  rw [dropReturn, if_pos List.getLast?_concat, List.dropLast_concat]

theorem lines_of_not_mem {line : List Char} (some : line ≠ []) (single : '\n' ∉ line) :
    lines line = [line] := by
  rw [lines, split_of_not_mem single, closeLines, if_neg some]

theorem lines_append_feed {line : List Char} (single : '\n' ∉ line) (rest : List Char) :
    lines (line ++ '\n' :: rest) = dropReturn line :: lines rest := by
  rw [lines, lines, split_append_cons single, closeLines]
  exact split_ne_nil '\n' rest

theorem lines_append_returnFeed {line : List Char} (single : '\n' ∉ line) (rest : List Char) :
    lines (line ++ '\r' :: '\n' :: rest) = line :: lines rest := by
  have whole : line ++ '\r' :: '\n' :: rest = (line ++ ['\r']) ++ '\n' :: rest := by simp
  have before : '\n' ∉ line ++ ['\r'] := by simpa using single
  rw [whole, lines_append_feed before, dropReturn_append_return]

theorem HasLines.lines_eq {text : List Char} {pieces : List (List Char)}
    (cut : HasLines text pieces) : lines text = pieces := by
  induction cut with
  | none => rfl
  | rest some single => exact lines_of_not_mem some single
  | feed single plain _ ih => rw [lines_append_feed single, ih, dropReturn, if_neg plain]
  | returnFeed single _ ih => rw [lines_append_returnFeed single, ih]

theorem hasLines_append_feed {line rest : List Char} {pieces : List (List Char)}
    (single : '\n' ∉ line) (more : HasLines rest pieces) :
    HasLines (line ++ '\n' :: rest) (dropReturn line :: pieces) := by
  unfold dropReturn
  split
  · next last =>
    have whole : line.dropLast ++ ['\r'] = line := List.dropLast_append_getLast? '\r' last
    have before : '\n' ∉ line.dropLast := fun member => single (List.dropLast_subset line member)
    have cut := HasLines.returnFeed before more
    rwa [← List.singleton_append, ← List.append_assoc, whole] at cut
  · next plain => exact .feed single plain more

/-- Every text has lines. The induction is on its length, from line feed to line feed. -/
theorem hasLines_lines (text : List Char) : HasLines text (lines text) := by
  induction counted : text.length using Nat.strongRecOn generalizing text with
  | ind size ih =>
    by_cases single : '\n' ∈ text
    · obtain ⟨line, rest, rfl, before⟩ := List.eq_append_cons_of_mem single
      have shorter : rest.length < size := by
        rw [← counted, List.length_append, List.length_cons]
        omega
      rw [lines_append_feed before]
      exact hasLines_append_feed before (ih rest.length shorter rest rfl)
    · by_cases empty : text = []
      · rw [empty]
        exact .none
      · rw [lines_of_not_mem empty single]
        exact .rest empty single

/-- The lines of a text are those that it is put together of. -/
theorem hasLines_iff {text : List Char} {pieces : List (List Char)} :
    HasLines text pieces ↔ pieces = lines text := by
  constructor
  · exact fun cut => cut.lines_eq.symm
  · rintro rfl
    exact hasLines_lines text

/-- How a line is ended. -/
inductive LineEnd where
  | feed
  | returnFeed
  deriving DecidableEq, Repr

def LineEnd.chars : LineEnd → List Char
  | .feed => ['\n']
  | .returnFeed => ['\r', '\n']

/-- Lines put together with their ends, the end of the last one only if the text is closed. -/
def joinLines (closed : Bool) : List (List Char × LineEnd) → List Char
  | [] => []
  | [(line, close)] => if closed then line ++ close.chars else line
  | (line, close) :: rest => line ++ close.chars ++ joinLines closed rest

/-- Whatever ends it, a line comes back but for blanks. -/
theorem trim_lines_append {line : List Char} (single : '\n' ∉ line) (close : LineEnd)
    (rest : List Char) :
    (lines (line ++ close.chars ++ rest)).map trim = trim line :: (lines rest).map trim := by
  cases close with
  | feed =>
    rw [LineEnd.chars, List.append_assoc, List.singleton_append, lines_append_feed single,
      List.map_cons, trim_dropReturn]
  | returnFeed =>
    rw [LineEnd.chars, List.append_assoc, List.cons_append, List.singleton_append,
      lines_append_returnFeed single, List.map_cons]

/-- Lines that were put together come back but for blanks. A last line without an end has to be
something, for nothing shows an empty one. -/
theorem trim_lines_joinLines {closed : Bool} {pieces : List (List Char × LineEnd)}
    (single : ∀ piece ∈ pieces, '\n' ∉ piece.1)
    (some : closed = true ∨ ∀ piece ∈ pieces.getLast?, piece.1 ≠ []) :
    (lines (joinLines closed pieces)).map trim = pieces.map fun piece => trim piece.1 := by
  induction pieces with
  | nil => rfl
  | cons piece rest ih =>
    obtain ⟨line, close⟩ := piece
    have first : '\n' ∉ line := single (line, close) List.mem_cons_self
    cases rest with
    | nil =>
      cases closed with
      | true =>
        have alone := trim_lines_append first close []
        rwa [List.append_nil] at alone
      | false =>
        have ink : line ≠ [] := some.resolve_left Bool.false_ne_true (line, close) rfl
        rw [joinLines, if_neg Bool.false_ne_true, lines_of_not_mem ink first]
        rfl
    | cons second more =>
      have later := ih (fun piece member => single piece (List.mem_cons_of_mem _ member))
        (by simpa using some)
      rw [joinLines, trim_lines_append first, later]
      · rfl
      · exact List.cons_ne_nil second more

end LoadProbe.Text
