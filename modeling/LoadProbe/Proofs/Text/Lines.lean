import LoadProbe.Proofs.Text.Blank
import LoadProbe.Text.Split
import Mathlib.Data.List.Basic
import Mathlib.Logic.Relation

/-!
Rows of a text: its lines, trimmed, without the blank ones. A blank line that is put in or taken out
anywhere leaves the rows as they are. Main statement: `BlankLineAdded.rows_eq`.
-/
namespace LoadProbe.Text

theorem split_append (separator : Char) (front back : List Char) :
    split separator (front ++ separator :: back) = split separator front ++ split separator back := by
  induction front with
  | nil => simp [split]
  | cons c rest ih =>
    rw [List.cons_append, split, split, ih]
    by_cases same : c = separator
    · simp [same]
    · simp only [if_neg same]
      cases pieces : split separator rest with
      | nil => exact absurd pieces (split_ne_nil separator rest)
      | cons piece more => rfl

/-- The pieces of a text hold nothing else than the text. -/
theorem mem_of_mem_split {separator c : Char} {text piece : List Char}
    (member : piece ∈ split separator text) (inside : c ∈ piece) : c ∈ text := by
  induction text generalizing piece with
  | nil =>
    obtain rfl : piece = [] := by simpa [split] using member
    exact inside
  | cons d rest ih =>
    rw [split] at member
    by_cases same : d = separator
    · rw [if_pos same] at member
      rcases List.mem_cons.mp member with rfl | later
      · exact absurd inside List.not_mem_nil
      · exact List.mem_cons_of_mem d (ih later inside)
    · rw [if_neg same] at member
      cases pieces : split separator rest with
      | nil => exact absurd pieces (split_ne_nil separator rest)
      | cons first more =>
        rw [pieces] at member ih
        rcases List.mem_cons.mp member with rfl | later
        · rcases List.mem_cons.mp inside with rfl | within
          · exact List.mem_cons_self
          · exact List.mem_cons_of_mem d (ih List.mem_cons_self within)
        · exact List.mem_cons_of_mem d (ih (List.mem_cons_of_mem first later) inside)

/-- Lines, trimmed, without the blank ones. -/
def inked (lines : List (List Char)) : List (List Char) := (lines.map trim).filter (· ≠ [])

/-- The rows of a text. -/
def rows (text : List Char) : List (List Char) := inked (lines text)

theorem inked_append (front back : List (List Char)) :
    inked (front ++ back) = inked front ++ inked back := by
  simp [inked]

theorem inked_cons_of_blank {line : List Char} (blank : trim line = []) (rest : List (List Char)) :
    inked (line :: rest) = inked rest := by
  simp [inked, blank]

theorem inked_cons {line : List Char} (ink : trim line ≠ []) (rest : List (List Char)) :
    inked (line :: rest) = trim line :: inked rest := by
  simp [inked, ink]

theorem trim_eq_nil_of_blank {line : List Char} (blank : ∀ c ∈ line, isBlank c = true) :
    trim line = [] := by
  have none : ∀ c ∈ ([] : List Char), isBlank c = true := nofun
  have nothing := trim_append [] blank none
  simpa [trim, trimStart, trimEnd] using nothing

/-- The carriage return before a line feed is blank, and so belongs to no row. -/
theorem trim_dropReturn (line : List Char) : trim (dropReturn line) = trim line := by
  unfold dropReturn
  split
  · next last =>
    have blank : ∀ c ∈ ['\r'], isBlank c = true := by simp [isBlank]
    have whole : line.dropLast ++ ['\r'] = line := List.dropLast_append_getLast? '\r' last
    have none : ∀ c ∈ ([] : List Char), isBlank c = true := nofun
    have same := trim_append line.dropLast none blank
    rw [List.nil_append, whole] at same
    exact same.symm
  · rfl

theorem inked_closeLines (pieces : List (List Char)) : inked (closeLines pieces) = inked pieces := by
  induction pieces with
  | nil => rfl
  | cons piece rest ih =>
    cases rest with
    | nil =>
      by_cases empty : piece = []
      · subst empty
        rfl
      · rw [closeLines, if_neg empty]
    | cons second more =>
      rw [closeLines]
      · simp only [inked, List.map_cons, trim_dropReturn] at ih ⊢
        simp only [List.filter_cons, ih]
      · simp

theorem rows_eq_inked_split (text : List Char) : rows text = inked (split '\n' text) :=
  inked_closeLines _

/-- One blank line more: before a line of the text, or behind its last one. -/
inductive BlankLineAdded : List Char → List Char → Prop where
  | before {front blank : List Char} (begins : front = [] ∨ front.getLast? = some '\n')
      (isBlank : ∀ c ∈ blank, isBlank c = true ∧ c ≠ '\n') (back : List Char) :
      BlankLineAdded (front ++ back) (front ++ (blank ++ '\n' :: back))
  | behind {blank : List Char} (isBlank : ∀ c ∈ blank, isBlank c = true ∧ c ≠ '\n')
      (text : List Char) : BlankLineAdded text (text ++ '\n' :: blank)

/-- Texts that differ in blank lines only: any number of them may be put in and taken out. -/
def SameButBlankLines : List Char → List Char → Prop := Relation.EqvGen BlankLineAdded

theorem inked_split_of_blank {blank : List Char}
    (isBlank : ∀ c ∈ blank, isBlank c = true ∧ c ≠ '\n') : inked (split '\n' blank) = [] := by
  have single : '\n' ∉ blank := fun member => (isBlank '\n' member).2 rfl
  rw [split_of_not_mem single]
  exact inked_cons_of_blank (trim_eq_nil_of_blank fun c member => (isBlank c member).1) []

theorem BlankLineAdded.rows_eq {text other : List Char} (added : BlankLineAdded text other) :
    rows text = rows other := by
  rw [rows_eq_inked_split, rows_eq_inked_split]
  cases added with
  | @before front blank begins isBlank back =>
    have blankLine := inked_split_of_blank isBlank
    have behind : inked (split '\n' (blank ++ '\n' :: back)) = inked (split '\n' back) := by
      rw [split_append, inked_append, blankLine, List.nil_append]
    rcases begins with rfl | last
    · exact behind.symm
    · have whole : front.dropLast ++ ['\n'] = front := List.dropLast_append_getLast? '\n' last
      rw [← whole, List.append_assoc, List.append_assoc, List.singleton_append,
        List.singleton_append, split_append, split_append, inked_append, inked_append, behind]
  | @behind blank isBlank =>
    rw [split_append, inked_append, inked_split_of_blank isBlank, List.append_nil]

/-- Blank lines make no rows. -/
theorem SameButBlankLines.rows_eq {text other : List Char} (same : SameButBlankLines text other) :
    rows text = rows other := by
  induction same with
  | rel text other added => exact added.rows_eq
  | refl text => rfl
  | symm text other _ ih => exact ih.symm
  | trans text middle other _ _ first second => exact first.trans second

end LoadProbe.Text
