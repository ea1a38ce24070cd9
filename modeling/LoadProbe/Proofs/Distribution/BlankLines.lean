import LoadProbe.Distribution
import LoadProbe.Proofs.Text.Lines

/-!
Distributions and blank lines. What is read of a text follows from its rows and from whether the
first of them stands on the first line, for only there it may be a heading. Main statement:
`blank_lines_ignored_iff`.
-/
namespace LoadProbe.Distribution

/-- The points of rows, or the first row that holds none. -/
def gather : List (List Char) → Except String (List Point)
  | [] => .ok []
  | row :: rest =>
    match readPoint? row with
    | some point => (gather rest).map (point :: ·)
    | none => .error (String.ofList row)

/-- Rows without a heading in front. -/
def dropHeading : List (List Char) → List (List Char)
  | [] => []
  | row :: rest => if readPoint? row = none then rest else row :: rest

/-- Whether the first line is no blank one. -/
def opensWithRow (lines : List (List Char)) : Bool := lines.head?.any (Text.trim · ≠ [])

/-- The rows that have to hold points. -/
def dataRows (lines : List (List Char)) : List (List Char) :=
  if opensWithRow lines then dropHeading (Text.inked lines) else Text.inked lines

/-- What a fault says of a row, wherever the row stands. -/
def Fault.row? : Fault → Option String
  | .malformedRow _ row => some row
  | .noRows => none

/-- Two texts read alike: as the same points, or with the same fault but for the number of a line. -/
inductive Alike : Except Fault Distribution → Except Fault Distribution → Prop where
  | points {one other : Distribution} (same : one.points = other.points) : Alike (.ok one) (.ok other)
  | malformedRow (line otherLine : Nat) (row : String) :
      Alike (.error (.malformedRow line row)) (.error (.malformedRow otherLine row))
  | noRows : Alike (.error .noRows) (.error .noRows)

/-- What is read of a text whose rows come to points or hold none. -/
def conclude : Except String (List Point) → Except (Option String) (List Point)
  | .ok [] => .error none
  | .ok points => .ok points
  | .error row => .error (some row)

/-- What was read, without the number of a line. -/
def told (outcome : Except Fault Distribution) : Except (Option String) (List Point) :=
  (outcome.map (·.points)).mapError Fault.row?

theorem alike_iff_told_eq {one other : Except Fault Distribution} :
    Alike one other ↔ told one = told other := by
  constructor
  · intro alike
    cases alike with
    | points same => exact congrArg Except.ok same
    | malformedRow line otherLine row => rfl
    | noRows => rfl
  · intro same
    match one, other with
    | .ok one, .ok other => exact .points (Except.ok.inj same)
    | .error (.malformedRow line row), .error (.malformedRow otherLine otherRow) =>
      obtain rfl : row = otherRow := Option.some.inj (Except.error.inj same)
      exact .malformedRow line otherLine row
    | .error .noRows, .error .noRows => exact .noRows
    | .ok _, .error _ => cases same
    | .error _, .ok _ => cases same
    | .error (.malformedRow _ _), .error .noRows => cases same
    | .error .noRows, .error (.malformedRow _ _) => cases same

theorem conclude_inj {one other : Except String (List Point)} :
    conclude one = conclude other ↔ one = other := by
  match one, other with
  | .error _, .error _ => simp [conclude]
  | .ok [], .ok [] => simp
  | .ok (_ :: _), .ok (_ :: _) => simp [conclude]
  | .ok [], .ok (_ :: _) | .ok (_ :: _), .ok [] => simp [conclude]
  | .ok [], .error _ | .error _, .ok [] => simp [conclude]
  | .ok (_ :: _), .error _ | .error _, .ok (_ :: _) => simp [conclude]

theorem mapError_map {Cause Fault Value Other : Type} (outcome : Except Cause Value)
    (f : Value → Other) (g : Cause → Fault) :
    (outcome.map f).mapError g = (outcome.mapError g).map f := by
  cases outcome <;> rfl

/-- Behind the first line, every row has to hold a point. -/
theorem readRows_later {number : Nat} (later : 1 < number) (lines : List (List Char)) :
    (readRows number lines).mapError Fault.row? = (gather (Text.inked lines)).mapError some := by
  induction lines generalizing number with
  | nil => rfl
  | cons line rest ih =>
    have following := ih (Nat.lt_succ_of_lt later)
    rw [readRows]
    by_cases blank : Text.trim line = []
    · rw [Text.inked_cons_of_blank blank, ← following]
      simp only [if_pos blank]
    · rw [Text.inked_cons blank, gather]
      simp only [if_neg blank]
      cases readPoint? (Text.trim line) with
      | none => simp only [if_neg (Nat.ne_of_gt later)]; rfl
      | some point =>
        dsimp only
        rw [mapError_map, mapError_map, following]

/-- On the first line, a row without a point is a heading. -/
theorem readRows_first (lines : List (List Char)) :
    (readRows 1 lines).mapError Fault.row? = (gather (dataRows lines)).mapError some := by
  cases lines with
  | nil => rfl
  | cons line rest =>
    have second : 1 < 1 + 1 := Nat.lt_succ_self 1
    have following := readRows_later second rest
    rw [readRows]
    by_cases blank : Text.trim line = []
    · have none : opensWithRow (line :: rest) = false := by simp [opensWithRow, blank]
      have rows : dataRows (line :: rest) = Text.inked rest := by
        rw [dataRows, none, Text.inked_cons_of_blank blank, if_neg Bool.false_ne_true]
      rw [rows, ← following]
      simp only [if_pos blank]
    · have opens : opensWithRow (line :: rest) = true := by simp [opensWithRow, blank]
      have rows : dataRows (line :: rest) =
          dropHeading (Text.trim line :: Text.inked rest) := by
        rw [dataRows, if_pos opens, Text.inked_cons blank]
      rw [rows, dropHeading]
      simp only [if_neg blank, if_true]
      cases point? : readPoint? (Text.trim line) with
      | none => simpa using following
      | some point =>
        rw [if_neg (Option.some_ne_none point), gather, point?]
        dsimp only
        rw [mapError_map, mapError_map, following]

/-- Reading comes to what the rows come to. -/
theorem told_read (text : String) :
    told (read text) = conclude (gather (dataRows (Text.lines text.toList))) := by
  have rows := readRows_first (Text.lines text.toList)
  rw [read]
  generalize readRows 1 (Text.lines text.toList) = found at rows ⊢
  generalize gather (dataRows (Text.lines text.toList)) = gathered at rows ⊢
  match found, gathered with
  | .error fault, .error row => exact congrArg Except.error (Except.error.inj rows)
  | .ok [], .ok points =>
    obtain rfl : [] = points := Except.ok.inj rows
    rfl
  | .ok (point :: rest), .ok points =>
    obtain rfl : point :: rest = points := Except.ok.inj rows
    rfl
  | .ok _, .error _ => cases rows
  | .error _, .ok _ => cases rows

theorem gather_eq_error_iff {rows : List (List Char)} {row : List Char} :
    gather rows = .error (String.ofList row) ↔
      rows.find? (fun later => readPoint? later = none) = some row := by
  induction rows with
  | nil => simp [gather]
  | cons first rest ih =>
    rw [gather, List.find?_cons]
    cases point? : readPoint? first with
    | none => simp [String.ofList_inj]
    | some point =>
      cases gathered : gather rest with
      | error malformed => simpa [gathered, Except.map] using ih
      | ok points => simpa [gathered, Except.map] using ih

/-- A heading that is no point matters, unless the next row without a point has its text. -/
theorem gather_dropHeading_iff (rows : List (List Char)) :
    gather (dropHeading rows) = gather rows ↔
      ∀ row rest, rows = row :: rest → readPoint? row = none →
        rest.find? (fun later => readPoint? later = none) = some row := by
  cases rows with
  | nil => simp [dropHeading]
  | cons first later =>
    cases point? : readPoint? first with
    | some point =>
      simp only [dropHeading, point?, reduceCtorEq, if_false, true_iff]
      intro row rest same none
      obtain ⟨rfl, rfl⟩ := List.cons.inj same
      rw [point?] at none
      cases none
    | none =>
      rw [dropHeading, if_pos point?, gather, point?, gather_eq_error_iff]
      constructor
      · intro found row rest same _
        obtain ⟨rfl, rfl⟩ := List.cons.inj same
        exact found
      · exact fun found => found first later rfl point?

/-- Blank lines that are put in or taken out change nothing that is read, but in one case: where they
move a first row that is no point onto the first line or off it, and no later row without a point has
the same text. For such a row is left out as a heading on the first line only, and malformed behind
blank lines. -/
theorem blank_lines_ignored_iff {text other : String}
    (same : Text.SameButBlankLines text.toList other.toList) :
    (Alike (read text) (read other) ↔
      opensWithRow (Text.lines text.toList) = opensWithRow (Text.lines other.toList) ∨
      ∀ row rest, Text.rows text.toList = row :: rest → readPoint? row = none →
        rest.find? (fun later => readPoint? later = none) = some row) ∧
    ∀ row rest, Text.rows text.toList = row :: rest → readPoint? row = none →
      opensWithRow (Text.lines text.toList) = false →
      ∃ line, read text = .error (.malformedRow line (String.ofList row)) := by
  have rows : Text.inked (Text.lines text.toList) = Text.inked (Text.lines other.toList) :=
    same.rows_eq
  constructor
  · rw [alike_iff_told_eq, told_read, told_read, conclude_inj, ← gather_dropHeading_iff, Text.rows,
      dataRows, dataRows, ← rows]
    cases opensWithRow (Text.lines text.toList) <;> cases opensWithRow (Text.lines other.toList) <;>
      simp [eq_comm]
  · intro row rest found noPoint behind
    have outcome := told_read text
    rw [dataRows, behind, if_neg Bool.false_ne_true] at outcome
    rw [Text.rows] at found
    rw [found, gather, noPoint] at outcome
    match read text, outcome with
    | .error (.malformedRow line malformed), outcome =>
      obtain rfl : malformed = String.ofList row := Option.some.inj (Except.error.inj outcome)
      exact ⟨line, rfl⟩
    | .error .noRows, outcome => cases outcome
    | .ok _, outcome => cases outcome

/-- Behind the heading and at the end, blank lines change nothing. -/
theorem blank_lines_ignored_heading :
    Text.SameButBlankLines "v,fx\n1,1\n".toList "v,fx\n \t\n1,1\n\n".toList ∧
      Alike (read "v,fx\n1,1\n") (read "v,fx\n \t\n1,1\n\n") := by
  have inner : Text.BlankLineAdded "v,fx\n1,1\n".toList "v,fx\n \t\n1,1\n".toList :=
    @Text.BlankLineAdded.before "v,fx\n".toList [' ', '\t'] (.inr rfl) (by simp [Text.isBlank])
      "1,1\n".toList
  have last : Text.BlankLineAdded "v,fx\n \t\n1,1\n".toList "v,fx\n \t\n1,1\n\n".toList :=
    @Text.BlankLineAdded.behind [] (by simp) _
  have same : Text.SameButBlankLines "v,fx\n1,1\n".toList "v,fx\n \t\n1,1\n\n".toList :=
    .trans _ _ _ (.rel _ _ inner) (.rel _ _ last)
  exact ⟨same, (blank_lines_ignored_iff same).1.mpr (.inl (by decide))⟩

/-- A heading behind a blank line is no heading. -/
theorem heading_behind_blank_malformed :
    Text.BlankLineAdded "value,fx\n1,1\n".toList "\nvalue,fx\n1,1\n".toList ∧
      (∃ distribution, read "value,fx\n1,1\n" = .ok distribution) ∧
      read "\nvalue,fx\n1,1\n" = .error (.malformedRow 2 "value,fx") ∧
      ¬ Alike (read "value,fx\n1,1\n") (read "\nvalue,fx\n1,1\n") := by
  have added : Text.BlankLineAdded "value,fx\n1,1\n".toList "\nvalue,fx\n1,1\n".toList :=
    @Text.BlankLineAdded.before [] [] (.inl rfl) (by simp) _
  have good : (read "value,fx\n1,1\n").isOk = true := by decide +kernel
  have bad : read "\nvalue,fx\n1,1\n" = .error (.malformedRow 2 "value,fx") := by rfl
  rw [bad]
  cases found : read "value,fx\n1,1\n" with
  | error fault => simp [found, Except.isOk, Except.toBool] at good
  | ok distribution => exact ⟨added, ⟨distribution, rfl⟩, rfl, nofun⟩

end LoadProbe.Distribution
