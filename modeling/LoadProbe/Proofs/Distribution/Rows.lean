import LoadProbe.Distribution.Load
import LoadProbe.Proofs.Text.LineEnds

/-!
The rows of a distribution. Which lines hold a point, which line is to blame for a text that is no
distribution, and what is looked up in the points that were read. Main statement: `readAt_decided`,
for every text.
-/
namespace LoadProbe.Distribution

open Text (trim)

/-- A line holds a point if its first two columns between commas, without the blanks around them, are
the numbers. Whatever stands behind these columns does not count. -/
def HoldsPoint (line : List Char) (point : Point) : Prop :=
  ∃ value share further, trim line = value ++ ',' :: (share ++ further) ∧
    ',' ∉ value ∧ ',' ∉ share ∧ (further = [] ∨ further.head? = some ',') ∧
    Binary64.read? (trim value) = some point.1 ∧ Binary64.read? (trim share) = some point.2

/-- A line that is not blank and holds no point. -/
def Malformed (line : List Char) : Prop := trim line ≠ [] ∧ ∀ point, ¬ HoldsPoint line point

/-- The first malformed line of those numbered two and above. -/
def FirstMalformed (lines : List (List Char)) (number : Nat) (line : List Char) : Prop :=
  ∃ first front rest, lines = first :: (front ++ line :: rest) ∧ number = front.length + 2 ∧
    Malformed line ∧ ∀ other ∈ front, ¬ Malformed other

/-- The points that lines hold, in their order. -/
inductive HoldPoints : List (List Char) → List Point → Prop where
  | nil : HoldPoints [] []
  | point {line : List Char} {point : Point} {rest : List (List Char)} {points : List Point}
      (holds : HoldsPoint line point) (more : HoldPoints rest points) :
      HoldPoints (line :: rest) (point :: points)
  | skip {line : List Char} {rest : List (List Char)} {points : List Point}
      (none : ∀ point, ¬ HoldsPoint line point) (more : HoldPoints rest points) :
      HoldPoints (line :: rest) points

/-- What the lines of a text are read as. The first line may be malformed: it is a heading then. -/
inductive ReadAs (path : String) (lines : List (List Char)) :
    Except LoadFailure Distribution → Prop where
  | malformedRow {number : Nat} {line : List Char} (first : FirstMalformed lines number line) :
      ReadAs path lines
        (.error (.faulty path (.malformedRow number (String.ofList (trim line)))))
  | noRows (formed : ∀ line ∈ lines.tail, ¬ Malformed line)
      (none : ∀ line ∈ lines, ∀ point, ¬ HoldsPoint line point) :
      ReadAs path lines (.error (.faulty path .noRows))
  | points (formed : ∀ line ∈ lines.tail, ¬ Malformed line) {distribution : Distribution}
      (held : HoldPoints lines distribution.points) : ReadAs path lines (.ok distribution)

/-- The first two columns of a row that has as many. -/
theorem split_eq_cons_cons_iff {row first second : List Char} :
    (∃ more, Text.split ',' row = first :: second :: more) ↔
      ∃ further, row = first ++ ',' :: (second ++ further) ∧ ',' ∉ first ∧ ',' ∉ second ∧
        (further = [] ∨ further.head? = some ',') := by
  constructor
  · rintro ⟨more, pieces⟩
    have whole := Text.intercalate_split ',' row
    have firstFree : ',' ∉ first := Text.not_mem_of_mem_split (by rw [pieces]; simp)
    have secondFree : ',' ∉ second := Text.not_mem_of_mem_split (by rw [pieces]; simp)
    rw [pieces, List.intercalate_cons_cons] at whole
    cases more with
    | nil =>
      rw [List.intercalate_singleton] at whole
      exact ⟨[], by simpa using whole.symm, firstFree, secondFree, .inl rfl⟩
    | cons third rest =>
      rw [List.intercalate_cons_cons] at whole
      exact ⟨',' :: [','].intercalate (third :: rest), by simpa using whole.symm, firstFree,
        secondFree, .inr rfl⟩
  · rintro ⟨further, rfl, firstFree, secondFree, ends⟩
    rw [Text.split_append_cons firstFree]
    cases further with
    | nil => exact ⟨[], by rw [List.append_nil, Text.split_of_not_mem secondFree]⟩
    | cons c rest =>
      obtain rfl : c = ',' := by simpa using ends
      exact ⟨Text.split ',' rest, by rw [Text.split_append_cons secondFree]⟩

theorem readPoint?_eq_some_iff {row : List Char} {point : Point} :
    readPoint? row = some point ↔
      ∃ value share, (∃ more, Text.split ',' row = value :: share :: more) ∧
        Binary64.read? (trim value) = some point.1 ∧
        Binary64.read? (trim share) = some point.2 := by
  unfold readPoint?
  obtain ⟨value, share⟩ := point
  cases Text.split ',' row with
  | nil => simp
  | cons first later =>
    cases later with
    | nil => simp
    | cons second more => simp [Option.bind_eq_some_iff]

theorem readPoint?_trim_iff {line : List Char} {point : Point} :
    readPoint? (trim line) = some point ↔ HoldsPoint line point := by
  simp only [readPoint?_eq_some_iff, split_eq_cons_cons_iff, HoldsPoint]
  constructor
  · rintro ⟨value, share, ⟨further, whole, first, second, ends⟩, isValue, isShare⟩
    exact ⟨value, share, further, whole, first, second, ends, isValue, isShare⟩
  · rintro ⟨value, share, further, whole, first, second, ends, isValue, isShare⟩
    exact ⟨value, share, ⟨further, whole, first, second, ends⟩, isValue, isShare⟩

theorem readPoint?_trim_eq_none_iff {line : List Char} :
    readPoint? (trim line) = none ↔ ∀ point, ¬ HoldsPoint line point := by
  simp only [Option.eq_none_iff_forall_ne_some, ne_eq, readPoint?_trim_iff]

theorem HoldsPoint.inked {line : List Char} {point : Point} (holds : HoldsPoint line point) :
    trim line ≠ [] := by
  obtain ⟨value, share, further, whole, -⟩ := holds
  simp [whole]

theorem readRows_point {line : List Char} {point : Point} (holds : HoldsPoint line point)
    (number : Nat) (rest : List (List Char)) :
    readRows number (line :: rest) = (readRows (number + 1) rest).map (point :: ·) := by
  simp only [readRows, if_neg holds.inked, readPoint?_trim_iff.mpr holds]

theorem readRows_malformed {line : List Char} (malformed : Malformed line) {number : Nat}
    (later : number ≠ 1) (rest : List (List Char)) :
    readRows number (line :: rest) =
      .error (.malformedRow number (String.ofList (trim line))) := by
  simp only [readRows, if_neg malformed.1, readPoint?_trim_eq_none_iff.mpr malformed.2, if_neg later]

/-- Lines without a point are passed over if they are blank, and on the first line. -/
theorem readRows_skip {line : List Char} (none : ∀ point, ¬ HoldsPoint line point) {number : Nat}
    (passed : number = 1 ∨ ¬ Malformed line) (rest : List (List Char)) :
    readRows number (line :: rest) = readRows (number + 1) rest := by
  rw [readRows]
  by_cases blank : trim line = []
  · simp only [if_pos blank]
  · have first : number = 1 := passed.resolve_right fun formed => formed ⟨blank, none⟩
    simp only [if_neg blank, readPoint?_trim_eq_none_iff.mpr none, if_pos first]

/-- Reading goes on over lines that are not malformed. -/
theorem readRows_formed (line : List Char) (number : Nat) (passed : number = 1 ∨ ¬ Malformed line)
    (rest : List (List Char)) :
    ∃ read : List Point → List Point,
      readRows number (line :: rest) = (readRows (number + 1) rest).map read := by
  by_cases holds : ∃ point, HoldsPoint line point
  · obtain ⟨point, holds⟩ := holds
    exact ⟨_, readRows_point holds number rest⟩
  · refine ⟨id, ?_⟩
    rw [readRows_skip (not_exists.mp holds) passed]
    cases readRows (number + 1) rest <;> rfl

/-- The first malformed line is the one that is reported, with its number. -/
theorem readRows_first_malformed {front : List (List Char)} {line : List Char}
    (formed : ∀ other ∈ front, ¬ Malformed other) (malformed : Malformed line) {number : Nat}
    (later : 1 < number) (rest : List (List Char)) :
    readRows number (front ++ line :: rest) =
      .error (.malformedRow (number + front.length) (String.ofList (trim line))) := by
  induction front generalizing number with
  | nil => exact readRows_malformed malformed (Nat.ne_of_gt later) rest
  | cons other front ih =>
    obtain ⟨read, passed⟩ := readRows_formed other number
      (.inr (formed other List.mem_cons_self)) (front ++ line :: rest)
    rw [List.cons_append, passed, ih (fun one member => formed one (List.mem_cons_of_mem _ member))
      (Nat.lt_succ_of_lt later), List.length_cons, ← Nat.add_assoc, Nat.add_right_comm]
    rfl

theorem readRows_of_firstMalformed {lines : List (List Char)} {number : Nat} {line : List Char}
    (first : FirstMalformed lines number line) :
    readRows 1 lines = .error (.malformedRow number (String.ofList (trim line))) := by
  obtain ⟨heading, front, rest, rfl, rfl, malformed, formed⟩ := first
  obtain ⟨read, passed⟩ := readRows_formed heading 1 (.inl rfl) (front ++ line :: rest)
  rw [passed, readRows_first_malformed formed malformed (Nat.lt_succ_self 1),
    Nat.add_comm front.length]
  rfl

theorem readRows_of_holdPoints {lines : List (List Char)} {points : List Point}
    (held : HoldPoints lines points) (formed : ∀ line ∈ lines, ¬ Malformed line) (number : Nat) :
    readRows number lines = .ok points := by
  induction held generalizing number with
  | nil => rfl
  | point holds _ ih =>
    rw [readRows_point holds, ih fun other member => formed other (List.mem_cons_of_mem _ member)]
    rfl
  | skip none _ ih =>
    rw [readRows_skip none (.inr (formed _ List.mem_cons_self)),
      ih fun other member => formed other (List.mem_cons_of_mem _ member)]

/-- If no line but the first is malformed, all points are read. -/
theorem readRows_one_of_holdPoints {lines : List (List Char)} {points : List Point}
    (held : HoldPoints lines points) (formed : ∀ line ∈ lines.tail, ¬ Malformed line) :
    readRows 1 lines = .ok points := by
  cases held with
  | nil => rfl
  | point holds more =>
    rw [readRows_point holds, readRows_of_holdPoints more formed]
    rfl
  | skip none more => rw [readRows_skip none (.inl rfl), readRows_of_holdPoints more formed]

theorem exists_holdPoints (lines : List (List Char)) : ∃ points, HoldPoints lines points := by
  induction lines with
  | nil => exact ⟨[], .nil⟩
  | cons line rest ih =>
    obtain ⟨points, held⟩ := ih
    by_cases holds : ∃ point, HoldsPoint line point
    · obtain ⟨point, holds⟩ := holds
      exact ⟨point :: points, .point holds held⟩
    · exact ⟨points, .skip (not_exists.mp holds) held⟩

/-- The points are those of the lines, and no others. -/
theorem HoldPoints.mem_iff {lines : List (List Char)} {points : List Point}
    (held : HoldPoints lines points) {point : Point} :
    point ∈ points ↔ ∃ line ∈ lines, HoldsPoint line point := by
  induction held with
  | nil => simp
  | @point line first rest points holds _ ih =>
    have only : HoldsPoint line point ↔ point = first := by
      rw [← readPoint?_trim_iff, readPoint?_trim_iff.mpr holds, Option.some_inj, eq_comm]
    simp [ih, only]
  | skip none _ ih => simp [ih, none]

/-- Either some line behind the first is malformed, and one is the first of them, or none is. -/
theorem exists_firstMalformed_or (lines : List (List Char)) :
    (∃ number line, FirstMalformed lines number line) ∨
      ∀ line ∈ lines.tail, ¬ Malformed line := by
  classical
  cases lines with
  | nil => exact .inr nofun
  | cons heading later =>
    cases found : later.find? (fun line => Malformed line) with
    | none => exact .inr fun line member => by simpa using List.find?_eq_none.mp found line member
    | some line =>
      obtain ⟨malformed, front, rest, rfl, formed⟩ := List.find?_eq_some_iff_append.mp found
      exact .inl ⟨front.length + 2, line, heading, front, rest, rfl, rfl, by simpa using malformed,
        by simpa using formed⟩

theorem readAt_of_readRows {path text : String} {points : List Point}
    (rows : readRows 1 (Text.lines text.toList) = .ok points) (nonempty : points ≠ []) :
    readAt path text = .ok ⟨points, nonempty⟩ := by
  cases points with
  | nil => exact absurd rfl nonempty
  | cons point rest => simp only [readAt, read, rows]

theorem readAt_of_readAs {path text : String} {outcome : Except LoadFailure Distribution}
    (told : ReadAs path (Text.lines text.toList) outcome) : readAt path text = outcome := by
  cases told with
  | malformedRow first => simp only [readAt, read, readRows_of_firstMalformed first]
  | noRows formed none =>
    obtain ⟨points, held⟩ := exists_holdPoints (Text.lines text.toList)
    have empty : points = [] := List.eq_nil_iff_forall_not_mem.mpr fun point member => by
      obtain ⟨line, listed, holds⟩ := held.mem_iff.mp member
      exact none line listed point holds
    simp only [readAt, read, readRows_one_of_holdPoints held formed, empty]
  | points formed held =>
    exact readAt_of_readRows (readRows_one_of_holdPoints held formed) _

theorem exists_readAs (path : String) (lines : List (List Char)) :
    ∃ outcome, ReadAs path lines outcome := by
  rcases exists_firstMalformed_or lines with ⟨number, line, first⟩ | formed
  · exact ⟨_, .malformedRow first⟩
  · obtain ⟨points, held⟩ := exists_holdPoints lines
    by_cases empty : points = []
    · refine ⟨_, .noRows formed fun line member point holds => ?_⟩
      have listed := held.mem_iff.mpr ⟨line, member, holds⟩
      simp [empty] at listed
    · exact ⟨.ok ⟨points, empty⟩, .points formed held⟩

theorem readAt_eq_iff {path text : String} {outcome : Except LoadFailure Distribution} :
    readAt path text = outcome ↔ ReadAs path (Text.lines text.toList) outcome := by
  constructor
  · rintro rfl
    obtain ⟨outcome, told⟩ := exists_readAs path (Text.lines text.toList)
    rwa [readAt_of_readAs told]
  · exact readAt_of_readAs

/-- What is looked up is the value of a point. -/
theorem exists_point_quantile (distribution : Distribution) (share : Binary64) :
    ∃ point ∈ distribution.points, distribution.quantile share = point.1 := by
  unfold quantile
  split
  · next point found => exact ⟨point, List.mem_of_find?_eq_some found, rfl⟩
  · exact ⟨_, List.getLast_mem distribution.nonempty, rfl⟩

/-- Every text has its lines, and they decide what is read. The first line behind the first one that
is neither blank nor a row is reported with its number and its trimmed text. If there is no such line,
a text without rows is reported as one; of any other the points are those of its rows, in their order.
So there is a point, and whatever is looked up, no number included, is the value of a row. -/
theorem readAt_decided (path text : String) :
    ∃ lines, (∀ pieces, Text.HasLines text.toList pieces ↔ pieces = lines) ∧
      (∀ outcome, readAt path text = outcome ↔ ReadAs path lines outcome) ∧
      ∀ distribution, readAt path text = .ok distribution →
        0 < distribution.size ∧
          ∀ share, ∃ line ∈ lines, ∃ point, HoldsPoint line point ∧
            distribution.quantile share = point.1 := by
  refine ⟨Text.lines text.toList, fun _ => Text.hasLines_iff, fun _ => readAt_eq_iff, ?_⟩
  intro distribution read
  refine ⟨List.length_pos_iff.mpr distribution.nonempty, fun share => ?_⟩
  obtain ⟨point, member, found⟩ := distribution.exists_point_quantile share
  cases readAt_eq_iff.mp read with
  | points _ held =>
    obtain ⟨line, listed, holds⟩ := held.mem_iff.mp member
    exact ⟨line, listed, point, holds, found⟩

/-- Blank lines count, so the line to blame is the fourth one. -/
example : readAt "mem.csv" "value,fx\n1,1\n\n2;1\n" =
    .error (.faulty "mem.csv" (.malformedRow 4 "2;1")) := by
  rfl

end LoadProbe.Distribution
