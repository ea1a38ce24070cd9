import LoadProbe.Text.Blank
import Mathlib.Data.List.TakeWhile

/-!
What trimming takes and leaves: only blanks go, and neither end of what stays is blank. Main
statement: `trim_eq_iff`.
-/
namespace LoadProbe.Text

theorem isBlank_of_mem_head?_dropWhile {text : List Char} {c : Char}
    (first : c ∈ (text.dropWhile isBlank).head?) : isBlank c = false := by
  have head := List.head?_dropWhile_not isBlank text
  rwa [Option.mem_def.mp first] at head

/-- What is taken off the end is blank. -/
theorem exists_trimEnd (text : List Char) :
    ∃ back, text = trimEnd text ++ back ∧ ∀ c ∈ back, isBlank c = true := by
  refine ⟨(text.reverse.takeWhile isBlank).reverse, ?_, ?_⟩
  · rw [trimEnd, ← List.reverse_append, List.takeWhile_append_dropWhile, List.reverse_reverse]
  · intro c member
    exact List.mem_takeWhile_imp (List.mem_reverse.mp member)

/-- Blanks at either end do not count. -/
theorem trim_append {front back : List Char} (core : List Char)
    (before : ∀ c ∈ front, isBlank c = true) (behind : ∀ c ∈ back, isBlank c = true) :
    trim (front ++ core ++ back) = trim core := by
  have ended (text : List Char) : trimEnd (text ++ back) = trimEnd text := by
    rw [trimEnd, List.reverse_append, List.dropWhile_append_of_pos (by simpa using behind), trimEnd]
  rw [trim, trimStart, List.append_assoc, List.dropWhile_append_of_pos before]
  by_cases blank : core.dropWhile isBlank = []
  · have nothing : (core ++ back).dropWhile isBlank = [] := by
      rw [List.dropWhile_append_of_pos (List.dropWhile_eq_nil_iff.mp blank)]
      exact List.dropWhile_eq_nil_iff.mpr behind
    rw [nothing, trim, trimStart, blank]
  · rw [List.dropWhile_append, if_neg (by simpa using blank), ended, trim, trimStart]

theorem trim_trimStart (text : List Char) : trim (trimStart text) = trim text := by
  have none : ∀ c ∈ ([] : List Char), isBlank c = true := nofun
  have before : ∀ c ∈ text.takeWhile isBlank, isBlank c = true := fun c => List.mem_takeWhile_imp
  have same := trim_append (trimStart text) before none
  rw [trimStart, List.takeWhile_append_dropWhile, List.append_nil] at same
  exact same.symm

theorem trim_trimEnd (text : List Char) : trim (trimEnd text) = trim text := by
  obtain ⟨back, whole, behind⟩ := exists_trimEnd text
  have none : ∀ c ∈ ([] : List Char), isBlank c = true := nofun
  have same := trim_append (trimEnd text) none behind
  rw [List.nil_append, ← whole] at same
  exact same.symm

theorem trimEnd_append_cons {c : Char} (ink : isBlank c = false) (front back : List Char) :
    trimEnd (front ++ c :: back) = front ++ c :: trimEnd back := by
  have split : (front ++ c :: back).reverse = back.reverse ++ c :: front.reverse := by simp
  rw [trimEnd, split, List.dropWhile_append, trimEnd]
  split
  · next blank =>
    rw [List.isEmpty_iff.mp blank]
    simp [ink]
  · simp

/-- What is not blank keeps the blanks in front of it and behind it apart. -/
theorem trim_append_cons {c : Char} (ink : isBlank c = false) (front back : List Char) :
    trim (front ++ c :: back) = trimStart front ++ c :: trimEnd back := by
  have start : trimStart (front ++ c :: back) = trimStart front ++ c :: back := by
    rw [trimStart, List.dropWhile_append, trimStart]
    split
    · next blank =>
      rw [List.isEmpty_iff.mp blank]
      simp [ink]
    · rfl
  rw [trim, start, trimEnd_append_cons ink]

/-- Trimming a text leaves the part between blanks whose ends are not blank. -/
theorem trim_eq_iff {text core : List Char} :
    trim text = core ↔
      ∃ front back, text = front ++ core ++ back ∧ (∀ c ∈ front, isBlank c = true) ∧
        (∀ c ∈ back, isBlank c = true) ∧ (∀ c ∈ core.head?, isBlank c = false) ∧
        ∀ c ∈ core.getLast?, isBlank c = false := by
  constructor
  · rintro rfl
    obtain ⟨back, whole, behind⟩ := exists_trimEnd (trimStart text)
    refine ⟨text.takeWhile isBlank, back, ?_, fun c => List.mem_takeWhile_imp, behind, ?_, ?_⟩
    · rw [trim, List.append_assoc, ← whole, trimStart, List.takeWhile_append_dropWhile]
    · intro c first
      rw [trim] at first
      have also : c ∈ (trimStart text).head? := by
        rw [whole, List.head?_append, Option.mem_def.mp first]
        rfl
      exact isBlank_of_mem_head?_dropWhile also
    · intro c last
      rw [trim, trimEnd, List.getLast?_reverse] at last
      exact isBlank_of_mem_head?_dropWhile last
  · rintro ⟨front, back, rfl, before, behind, start, finish⟩
    rw [trim_append core before behind, trim_eq_self start finish]

end LoadProbe.Text
