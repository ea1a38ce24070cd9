import LoadProbe.Measurement
import LoadProbe.Proofs.Binary64.Written
import LoadProbe.Text.Split

/-!
Result lines as their reader takes them: cut at each space, and each column read as what its layout
says that it is. Main statement: `line_reads_back`, for every measurement and layout.
-/
namespace LoadProbe

/-- What one column of a result line tells. -/
inductive Entry where
  | count (value : UInt64)
  | whole (value : Int64)
  | real (value : Binary64)
  deriving DecidableEq

namespace Entry

/-- An entry as its column shows it. -/
def chars : Entry → List Char
  | .count value => Numeral.digits value.toNat
  | .whole value => Numeral.signedDigits value.toInt
  | .real value => value.chars

def readCount? (column : List Char) : Option Entry :=
  (Numeral.readUInt64 column).toOption.map .count

def readWhole? (column : List Char) : Option Entry :=
  (Numeral.readInt64 column).toOption.map .whole

def readReal? (column : List Char) : Option Entry := (Binary64.read? column).map .real

theorem readCount?_chars (value : UInt64) :
    readCount? (Entry.count value).chars = some (.count value) := by
  rw [readCount?, chars, Numeral.readUInt64_digits]
  rfl

theorem readWhole?_chars (value : Int64) :
    readWhole? (Entry.whole value).chars = some (.whole value) := by
  rw [readWhole?, chars, Numeral.readInt64_signedDigits]
  rfl

theorem readReal?_chars (value : Binary64) :
    readReal? (Entry.real value).chars = some (.real value) := by
  rw [readReal?, chars, Binary64.read?_chars]
  rfl

theorem chars_ne_nil (entry : Entry) : entry.chars ≠ [] := by
  cases entry with
  | count value => exact Numeral.digits_ne_nil value.toNat
  | whole value => exact Numeral.signedDigits_ne_nil value.toInt
  | real value => exact value.chars_ne_nil

theorem mem_alphabet_of_mem_chars {entry : Entry} {c : Char} (member : c ∈ entry.chars) :
    c ∈ Numeral.alphabet := by
  cases entry with
  | count value => exact Numeral.mem_alphabet_of_isDigit (Numeral.isDigit_of_mem_digits member)
  | whole value => exact Numeral.mem_alphabet_of_mem_signedDigits member
  | real value => exact Binary64.mem_alphabet_of_mem_chars member

end Entry

/-- Reads columns one by one; there has to be one for each reader. -/
def readEntries : List (List Char → Option Entry) → List (List Char) → Option (List Entry)
  | [], [] => some []
  | reader :: readers, column :: columns => do
    return (← reader column) :: (← readEntries readers columns)
  | _, _ => none

namespace LineLayout

/-- How many columns a line has. -/
def width : LineLayout → Nat
  | .span => 4
  | .timing | .sequence => 5

/-- The readers of the columns, in order. -/
def readers : LineLayout → List (List Char → Option Entry)
  | .span => [Entry.readCount?, Entry.readReal?, Entry.readReal?, Entry.readReal?]
  | .timing =>
    [Entry.readCount?, Entry.readReal?, Entry.readReal?, Entry.readReal?, Entry.readWhole?]
  | .sequence =>
    [Entry.readReal?, Entry.readReal?, Entry.readWhole?, Entry.readReal?, Entry.readWhole?]

/-- Reads a line that ends with a line feed. -/
def read? (layout : LineLayout) (line : List Char) : Option (List Entry) :=
  if line.getLast? = some '\n' then readEntries layout.readers (Text.split ' ' line.dropLast)
  else none

end LineLayout

namespace Measurement

/-- What a result line tells of a measurement, in order. -/
def entries (measurement : Measurement) : LineLayout → List Entry
  | .span =>
    [.count measurement.rate, .real measurement.started, .real measurement.ended,
      .real (measurement.ended - measurement.started)]
  | .timing =>
    [.count measurement.rate, .real measurement.responseTime, .real measurement.completionTime,
      .real measurement.latency, .whole measurement.lastRate]
  | .sequence =>
    [.real measurement.sequenceLatency, .real measurement.responseTime, .whole measurement.memory,
      .real measurement.latency, .whole measurement.lastRate]

theorem columns_eq (measurement : Measurement) (layout : LineLayout) :
    measurement.columns layout = (measurement.entries layout).map Entry.chars := by
  cases layout <;> rfl

theorem length_entries (measurement : Measurement) (layout : LineLayout) :
    (measurement.entries layout).length = layout.width := by
  cases layout <;> rfl

theorem readEntries_chars (measurement : Measurement) (layout : LineLayout) :
    readEntries layout.readers ((measurement.entries layout).map Entry.chars) =
      some (measurement.entries layout) := by
  cases layout <;>
    simp [LineLayout.readers, entries, readEntries, Entry.readCount?_chars,
      Entry.readWhole?_chars, Entry.readReal?_chars]

/-- A result line without its line feed. -/
def body (measurement : Measurement) (layout : LineLayout) : List Char :=
  [' '].intercalate (measurement.columns layout)

theorem toList_line (measurement : Measurement) (layout : LineLayout) :
    (measurement.line layout).toList = measurement.body layout ++ ['\n'] := by
  rw [line, String.toList_ofList, body]

/-- The columns have no spaces of their own. -/
theorem split_body (measurement : Measurement) (layout : LineLayout) :
    Text.split ' ' (measurement.body layout) = (measurement.entries layout).map Entry.chars := by
  rw [body, columns_eq]
  refine Text.split_intercalate ?_ ?_
  · cases layout <;> exact List.cons_ne_nil _ _
  · intro column member space
    obtain ⟨entry, -, rfl⟩ := List.mem_map.mp member
    exact absurd (Entry.mem_alphabet_of_mem_chars space) (by decide)

theorem mem_body {measurement : Measurement} {layout : LineLayout} {c : Char}
    (member : c ∈ measurement.body layout) : c = ' ' ∨ c ∈ Numeral.alphabet := by
  rw [body, columns_eq] at member
  rcases Text.eq_or_mem_of_mem_intercalate member with space | ⟨column, listed, inside⟩
  · exact .inl space
  · obtain ⟨entry, -, rfl⟩ := List.mem_map.mp listed
    exact .inr (Entry.mem_alphabet_of_mem_chars inside)

theorem feed_not_mem_body (measurement : Measurement) (layout : LineLayout) :
    '\n' ∉ measurement.body layout := by
  intro feed
  rcases mem_body feed with space | written
  · cases space
  · exact absurd written (by decide)

theorem read?_line (measurement : Measurement) (layout : LineLayout) :
    layout.read? (measurement.line layout).toList = some (measurement.entries layout) := by
  rw [LineLayout.read?, toList_line, if_pos List.getLast?_concat, List.dropLast_concat, split_body,
    readEntries_chars]

/-- A result line has one line feed, at its end. Cut at each space, the rest is as many columns as the
layout has, none of them empty, which read back to the numbers that were printed. So measurements of
one line agree on all that it tells. -/
theorem line_reads_back (measurement : Measurement) (layout : LineLayout) :
    (∃ body, (measurement.line layout).toList = body ++ ['\n'] ∧ '\n' ∉ body ∧
      (Text.split ' ' body).length = layout.width ∧
      ∀ column ∈ Text.split ' ' body, column ≠ []) ∧
    layout.read? (measurement.line layout).toList = some (measurement.entries layout) ∧
    ∀ other : Measurement, other.line layout = measurement.line layout →
      other.entries layout = measurement.entries layout := by
  refine ⟨⟨measurement.body layout, measurement.toList_line layout,
    measurement.feed_not_mem_body layout, ?_, ?_⟩, measurement.read?_line layout, ?_⟩
  · rw [split_body, List.length_map, length_entries]
  · intro column member
    rw [split_body] at member
    obtain ⟨entry, -, rfl⟩ := List.mem_map.mp member
    exact entry.chars_ne_nil
  · intro other same
    have told := other.read?_line layout
    rw [same, measurement.read?_line layout] at told
    exact (Option.some.inj told).symm

end Measurement
end LoadProbe
