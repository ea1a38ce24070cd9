import LoadProbe.Proofs.Binary64.Written
import LoadProbe.Proofs.Distribution.Rows

/-!
Distributions as they may be written: one row a point, set with blanks around the columns, with more
columns behind them, under a heading, and with any ends of lines. Main statement: `readAt_sheet`,
however the points are set, they are read.
-/
namespace LoadProbe

open Text (trim isBlank LineEnd)

/-- A written number has no blanks, and none of the marks of a table. -/
theorem Binary64.of_mem_chars {number : Binary64} {c : Char} (member : c ∈ number.chars) :
    isBlank c = false ∧ c ≠ ',' ∧ c ≠ '\n' :=
  Numeral.of_mem_alphabet (fun c => isBlank c = false ∧ c ≠ ',' ∧ c ≠ '\n') (by decide)
    (mem_alphabet_of_mem_chars member)

namespace Distribution

/-- Blanks inside of a line. -/
structure Gap where
  chars : List Char
  blank : ∀ c ∈ chars, isBlank c = true
  single : '\n' ∉ chars

/-- How a row is set: the blanks around its two columns, the columns behind them, and its end. -/
structure RowStyle where
  beforeValue : Gap
  behindValue : Gap
  beforeShare : Gap
  behindShare : Gap
  further : List (List Char)
  close : LineEnd
  single : ∀ column ∈ further, '\n' ∉ column

/-- A number between blanks. -/
def setNumber (before : Gap) (number : Binary64) (behind : Gap) : List Char :=
  before.chars ++ number.chars ++ behind.chars

/-- The line of a point. -/
def RowStyle.line (style : RowStyle) (point : Point) : List Char :=
  setNumber style.beforeValue point.1 style.behindValue ++ ',' ::
    (setNumber style.beforeShare point.2 style.behindShare ++
      style.further.flatMap fun column => ',' :: column)

/-- A line whose first two columns are not both numbers, with its end. -/
structure Heading where
  line : List Char
  close : LineEnd
  single : '\n' ∉ line
  noPoint : ∀ point, ¬ HoldsPoint line point

/-- Points as they are set in a text, with a heading in front of them or none. The end of the last line
may be left out. -/
structure Sheet where
  heading? : Option Heading
  rows : List (Point × RowStyle)
  closed : Bool
  nonempty : rows ≠ []

namespace Sheet

def points (sheet : Sheet) : List Point := sheet.rows.map Prod.fst

/-- The lines of the rows, with their ends. -/
def rowLines (sheet : Sheet) : List (List Char × LineEnd) :=
  sheet.rows.map fun row => (row.2.line row.1, row.2.close)

/-- All lines, with their ends. -/
def lines (sheet : Sheet) : List (List Char × LineEnd) :=
  (sheet.heading?.map fun heading => (heading.line, heading.close)).toList ++ sheet.rowLines

/-- The text of a sheet. -/
def text (sheet : Sheet) : String := String.ofList (Text.joinLines sheet.closed sheet.lines)

end Sheet

theorem trim_setNumber (before : Gap) (number : Binary64) (behind : Gap) :
    trim (setNumber before number behind) = number.chars := by
  have ink {c : Char} (member : c ∈ number.chars) := (Binary64.of_mem_chars member).1
  rw [setNumber, Text.trim_append number.chars before.blank behind.blank]
  exact Text.trim_eq_self (fun c first => ink (List.mem_of_head? first))
    fun c last => ink (List.mem_of_getLast? last)

theorem mem_setNumber {before behind : Gap} {number : Binary64} {c : Char}
    (member : c ∈ setNumber before number behind) : c ≠ ',' ∧ c ≠ '\n' := by
  have gap {gap : Gap} (inside : c ∈ gap.chars) : c ≠ ',' ∧ c ≠ '\n' := by
    refine ⟨?_, fun feed => gap.single (feed ▸ inside)⟩
    rintro rfl
    exact absurd (gap.blank ',' inside) (by decide)
  rcases List.mem_append.mp member with front | back
  · rcases List.mem_append.mp front with blank | written
    · exact gap blank
    · exact (Binary64.of_mem_chars written).2
  · exact gap back

theorem comma_not_mem_trimStart {text : List Char} (free : ',' ∉ text) : ',' ∉ Text.trimStart text :=
  fun member => free ((List.dropWhile_sublist isBlank).mem member)

/-- The blanks that a line is trimmed of belong to its columns, which are trimmed themselves. -/
theorem holdsPoint_of_columns {value share further : List Char} {point : Point}
    (valueFree : ',' ∉ value) (shareFree : ',' ∉ share)
    (ends : further = [] ∨ further.head? = some ',')
    (isValue : Binary64.read? (trim value) = some point.1)
    (isShare : Binary64.read? (trim share) = some point.2) :
    HoldsPoint (value ++ ',' :: (share ++ further)) point := by
  have comma : isBlank ',' = false := by decide
  have start : ',' ∉ Text.trimStart value := comma_not_mem_trimStart valueFree
  rw [HoldsPoint, Text.trim_append_cons comma]
  cases further with
  | nil =>
    refine ⟨Text.trimStart value, Text.trimEnd share, [], by simp, start, ?_, .inl rfl, ?_, ?_⟩
    · obtain ⟨back, whole, -⟩ := Text.exists_trimEnd share
      exact fun member => shareFree (by rw [whole]; exact List.mem_append_left back member)
    · rw [Text.trim_trimStart, isValue]
    · rw [Text.trim_trimEnd, isShare]
  | cons c rest =>
    obtain rfl : c = ',' := by simpa using ends
    refine ⟨Text.trimStart value, share, ',' :: Text.trimEnd rest, ?_, start, shareFree, .inr rfl,
      ?_, isShare⟩
    · rw [Text.trimEnd_append_cons comma]
    · rw [Text.trim_trimStart, isValue]

/-- The columns of a point's line are its numbers. -/
theorem RowStyle.holdsPoint (style : RowStyle) (point : Point) :
    HoldsPoint (style.line point) point := by
  refine holdsPoint_of_columns (fun comma => (mem_setNumber comma).1 rfl)
    (fun comma => (mem_setNumber comma).1 rfl) ?_ ?_ ?_
  · cases style.further with
    | nil => exact .inl rfl
    | cons column rest => exact .inr rfl
  · rw [trim_setNumber, Binary64.read?_chars]
  · rw [trim_setNumber, Binary64.read?_chars]

theorem RowStyle.feed_not_mem_line (style : RowStyle) (point : Point) :
    '\n' ∉ style.line point := by
  intro feed
  rcases List.mem_append.mp feed with value | rest
  · exact (mem_setNumber value).2 rfl
  rcases List.mem_cons.mp rest with comma | rest
  · cases comma
  rcases List.mem_append.mp rest with share | further
  · exact (mem_setNumber share).2 rfl
  · obtain ⟨column, listed, inside⟩ := List.mem_flatMap.mp further
    rcases List.mem_cons.mp inside with comma | inside
    · cases comma
    · exact style.single column listed inside

/-- Reading does not look at the blanks at the ends of lines. -/
theorem readRows_congr {lines others : List (List Char)}
    (same : lines.map trim = others.map trim) (number : Nat) :
    readRows number lines = readRows number others := by
  induction lines generalizing number others with
  | nil =>
    obtain rfl : others = [] := by simpa using same.symm
    rfl
  | cons line rest ih =>
    cases others with
    | nil => simp at same
    | cons other more =>
      obtain ⟨first, later⟩ := List.cons.inj same
      simp only [readRows, first, ih later]

theorem holdPoints_rows (rows : List (Point × RowStyle)) :
    HoldPoints (rows.map fun row => row.2.line row.1) (rows.map Prod.fst) := by
  induction rows with
  | nil => exact .nil
  | cons row rest ih => exact .point (row.2.holdsPoint row.1) ih

namespace Sheet

theorem map_fst_rowLines (sheet : Sheet) :
    sheet.rowLines.map Prod.fst = sheet.rows.map fun row => row.2.line row.1 := by
  simp [rowLines]

theorem readRows_lines (sheet : Sheet) :
    readRows 1 (sheet.lines.map Prod.fst) = .ok sheet.points := by
  have held := holdPoints_rows sheet.rows
  have formed : ∀ line ∈ sheet.rows.map fun row => row.2.line row.1, ¬ Malformed line := by
    intro line member malformed
    obtain ⟨row, -, rfl⟩ := List.mem_map.mp member
    exact malformed.2 row.1 (row.2.holdsPoint row.1)
  rw [lines, List.map_append, map_fst_rowLines]
  cases sheet.heading? with
  | none => exact readRows_of_holdPoints held formed 1
  | some heading =>
    exact readRows_one_of_holdPoints (.skip heading.noPoint held) formed

/-- The last line is that of a row, since there is one. -/
theorem exists_of_mem_getLast? {sheet : Sheet} {piece : List Char × LineEnd}
    (last : piece ∈ sheet.lines.getLast?) :
    ∃ point, ∃ style : RowStyle, piece.1 = style.line point := by
  have some : sheet.rowLines ≠ [] := mt List.map_eq_nil_iff.mp sheet.nonempty
  rw [lines, List.getLast?_append_of_ne_nil _ some] at last
  obtain ⟨row, -, rfl⟩ := List.mem_map.mp (List.mem_of_getLast? last)
  exact ⟨row.1, row.2, rfl⟩

theorem feed_not_mem_lines {sheet : Sheet} {piece : List Char × LineEnd}
    (member : piece ∈ sheet.lines) : '\n' ∉ piece.1 := by
  rcases List.mem_append.mp member with inHeading | inRows
  · obtain ⟨heading, -, rfl⟩ := Option.map_eq_some_iff.mp (Option.mem_toList.mp inHeading)
    exact heading.single
  · obtain ⟨row, -, rfl⟩ := List.mem_map.mp inRows
    exact row.2.feed_not_mem_line row.1

theorem trim_lines_text (sheet : Sheet) :
    (Text.lines sheet.text.toList).map trim = (sheet.lines.map Prod.fst).map trim := by
  rw [text, String.toList_ofList, Text.trim_lines_joinLines (fun _ => feed_not_mem_lines),
    List.map_map]
  · rfl
  · refine .inr fun piece last => ?_
    obtain ⟨point, style, whole⟩ := exists_of_mem_getLast? last
    rw [whole, RowStyle.line]
    simp

end Sheet

/-- However points are set in a text, reading it gives them back, all and in their order: with any
blanks around the columns and any columns behind them, under a heading or none, with each line ended
by a line feed alone or behind a carriage return, the last one perhaps not at all. -/
theorem readAt_sheet (path : String) (sheet : Sheet) :
    ∃ distribution, readAt path sheet.text = .ok distribution ∧
      distribution.points = sheet.points := by
  have some : sheet.points ≠ [] := mt List.map_eq_nil_iff.mp sheet.nonempty
  have rows : readRows 1 (Text.lines sheet.text.toList) = .ok sheet.points := by
    rw [readRows_congr sheet.trim_lines_text, sheet.readRows_lines]
  exact ⟨⟨sheet.points, some⟩, readAt_of_readRows rows some, rfl⟩

/-- A sheet with a heading, blanks, one more column and a last line without an end. -/
def headedSheet : Sheet where
  heading? := some
    { line := "size,fx".toList, close := .returnFeed, single := by decide
      noPoint := readPoint?_trim_eq_none_iff.mp (by decide +kernel) }
  rows :=
    let none : Gap := ⟨[], nofun, List.not_mem_nil⟩
    let space : Gap := ⟨[' '], List.forall_mem_singleton.mpr rfl, by decide⟩
    let tab : Gap := ⟨['\t'], List.forall_mem_singleton.mpr rfl, by decide⟩
    [((.ofInt 64, .ofInt 1 / .ofInt 4),
        ⟨space, tab, none, space, ["often".toList], .feed, by decide⟩),
      ((.ofInt 128, .ofInt 1), ⟨none, none, none, none, [], .feed, nofun⟩)]
  closed := false
  nonempty := List.cons_ne_nil _ _

theorem readAt_sheet_headed :
    headedSheet.text = "size,fx\r\n 64\t,0.25 ,often\n128,1" ∧
      ∃ distribution, readAt "mem.csv" headedSheet.text = .ok distribution ∧
        distribution.points = [(.ofInt 64, .ofInt 1 / .ofInt 4), (.ofInt 128, .ofInt 1)] :=
  ⟨by decide +kernel, readAt_sheet "mem.csv" headedSheet⟩

end Distribution
end LoadProbe
