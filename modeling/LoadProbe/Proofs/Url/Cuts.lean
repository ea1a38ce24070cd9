import LoadProbe.Proofs.Url.Escapes
import LoadProbe.Url.Read
import Mathlib.Data.List.TakeWhile

/-!
Where a text is cut. Texts that need no escapes have no marks to be cut at, and nothing is cleaned off
texts without controls and spaces. Main statements: `clean_eq_self`, `cut_append` and
`cutLast?_append`.
-/
namespace LoadProbe.Url

/-- Whether a text needs no escapes where a set is escaped. -/
def Kept (escaped : Char → Bool) (text : List Char) : Prop :=
  ∀ c ∈ text, c.toNat < 128 ∧ escaped c = false

theorem Kept.escape_eq {escaped : Char → Bool} {text : List Char} (kept : Kept escaped text) :
    escape escaped text = text :=
  escape_eq_self kept

theorem kept_escape {escaped : Char → Bool} (spares : Spares escaped) (text : List Char) :
    Kept escaped (escape escaped text) :=
  fun _ member => plain_of_mem_escape spares member

/-- No character of a set stands in a text that needs no escapes. -/
theorem Kept.not_mem {escaped : Char → Bool} {text : List Char} (kept : Kept escaped text)
    {c : Char} (inSet : escaped c = true) : c ∉ text := by
  intro member
  have free := (kept c member).2
  rw [inSet] at free
  cases free

/-- Whether all characters of a text lie behind the space. -/
def Solid (text : List Char) : Prop := ∀ c ∈ text, 32 < c.toNat

theorem solid_nil : Solid [] := fun _ member => absurd member List.not_mem_nil

theorem solid_append {front back : List Char} (first : Solid front) (second : Solid back) :
    Solid (front ++ back) := by
  intro c member
  rcases List.mem_append.mp member with inFront | inBack
  · exact first c inFront
  · exact second c inBack

theorem solid_cons {c : Char} {text : List Char} (first : 32 < c.toNat) (rest : Solid text) :
    Solid (c :: text) := by
  intro other member
  rcases List.mem_cons.mp member with rfl | later
  · exact first
  · exact rest other later

theorem lt_of_not_inControls {c : Char} (free : inControls c = false) (other : c ≠ ' ') :
    32 < c.toNat := by
  simp only [inControls, Bool.or_eq_false_iff, decide_eq_false_iff_not] at free
  have notSpace : c.toNat ≠ 32 := fun same => other (Char.toNat_inj.mp same)
  omega

theorem Kept.solid {escaped : Char → Bool} {text : List Char} (kept : Kept escaped text)
    (controls : ∀ c, escaped c = false → inControls c = false) (space : escaped ' ' = true) :
    Solid text := by
  intro c member
  apply lt_of_not_inControls (controls c (kept c member).2)
  rintro rfl
  exact kept.not_mem space member

theorem filter_eq_of_solid {text : List Char} (solid : Solid text) :
    text.filter (fun c => c != '\t' && c != '\n' && c != '\r') = text := by
  apply List.filter_eq_self.mpr
  intro c member
  have behind := solid c member
  have tab : c ≠ '\t' := by rintro rfl; exact absurd behind (by decide)
  have feed : c ≠ '\n' := by rintro rfl; exact absurd behind (by decide)
  have line : c ≠ '\r' := by rintro rfl; exact absurd behind (by decide)
  simp [tab, feed, line]

/-- A text without tabs and line ends. -/
def unbroken (text : List Char) : List Char :=
  text.filter fun c => c != '\t' && c != '\n' && c != '\r'

theorem dropWhile_eq_self {p : Char → Bool} {text : List Char}
    (first : ∀ c ∈ text.head?, p c = false) : text.dropWhile p = text := by
  cases text with
  | nil => rfl
  | cons c rest => rw [List.dropWhile_cons, first c rfl, if_neg Bool.false_ne_true]

/-- A text that begins and ends behind the space loses no more than tabs and line ends. -/
theorem clean_eq_unbroken {text : List Char} (first : ∀ c ∈ text.head?, 32 < c.toNat)
    (last : ∀ c ∈ text.getLast?, 32 < c.toNat) : clean text = unbroken text := by
  have front : ∀ c ∈ text.head?, decide (c.toNat ≤ 32) = false := by simpa using first
  have back : ∀ c ∈ text.reverse.head?, decide (c.toNat ≤ 32) = false := by
    rw [List.head?_reverse]
    simpa using last
  simp only [clean]
  rw [dropWhile_eq_self front, dropWhile_eq_self back, List.reverse_reverse]
  rfl

/-- Only what stands between solid texts may lose tabs and line ends. -/
theorem clean_between {front middle back : List Char} (solidFront : Solid front)
    (solidBack : Solid back) (nonempty : front ≠ []) (nonemptyBack : back ≠ []) :
    clean (front ++ (middle ++ back)) = front ++ (unbroken middle ++ back) := by
  obtain ⟨first, rest, same⟩ := List.exists_cons_of_ne_nil nonempty
  have begins : ∀ c ∈ (front ++ (middle ++ back)).head?, 32 < c.toNat := by
    intro c member
    rw [same, List.cons_append, List.head?_cons, Option.mem_some_iff] at member
    exact solidFront c (by rw [same, ← member]; exact List.mem_cons_self)
  have ends : ∀ c ∈ (front ++ (middle ++ back)).getLast?, 32 < c.toNat := by
    intro c member
    cases found : back.getLast? with
    | none => exact absurd (List.getLast?_eq_none_iff.mp found) nonemptyBack
    | some last =>
      rw [List.getLast?_append, List.getLast?_append, found, Option.some_or, Option.some_or] at member
      exact solidBack c (Option.some.inj member ▸ List.mem_of_getLast? found)
  rw [clean_eq_unbroken begins ends, unbroken, List.filter_append, List.filter_append,
    filter_eq_of_solid solidFront, filter_eq_of_solid solidBack]
  rfl

/-- Nothing solid is cleaned off the front of a text that ends in something solid. -/
theorem clean_append {front back : List Char} {last : Char} (solid : Solid front)
    (nonempty : front ≠ []) (solidLast : 32 < last.toNat) :
    ∃ middle, clean (front ++ (back ++ [last])) = front ++ middle :=
  ⟨_, clean_between solid (solid_cons solidLast solid_nil) nonempty (List.cons_ne_nil last [])⟩

/-- A text of characters behind the space is clean. -/
theorem clean_eq_self {text : List Char} (solid : Solid text) : clean text = text := by
  have first : ∀ c ∈ text.head?, 32 < c.toNat := fun c member => solid c (List.mem_of_head? member)
  have last : ∀ c ∈ text.getLast?, 32 < c.toNat :=
    fun c member => solid c (List.mem_of_getLast? member)
  rw [clean_eq_unbroken first last]
  exact filter_eq_of_solid solid

theorem cut_append {stop : Char → Bool} {front rest : List Char}
    (before : ∀ c ∈ front, stop c = false) (stops : ∀ c ∈ rest.head?, stop c = true) :
    cut stop (front ++ rest) = (front, rest) := by
  have kept : ∀ c ∈ front, (!stop c) = true := by simpa using before
  rw [cut, List.takeWhile_append_of_pos kept, List.dropWhile_append_of_pos kept]
  cases rest with
  | nil => simp
  | cons c more => simp [stops c rfl]

theorem cut_eq_self {stop : Char → Bool} {text : List Char} (none : ∀ c ∈ text, stop c = false) :
    cut stop text = (text, []) := by
  have ends : ∀ c ∈ ([] : List Char).head?, stop c = true := by simp
  simpa using cut_append none ends

theorem cutLast?_of_not_mem {mark : Char} {text : List Char} (none : mark ∉ text) :
    cutLast? mark text = .none := by
  have all : text.reverse.takeWhile (· != mark) = text.reverse := by
    have kept : ∀ c ∈ text.reverse, (c != mark) = true := by
      intro c member
      have inside := List.mem_reverse.mp member
      simpa using fun same : c = mark => none (same ▸ inside)
    exact List.takeWhile_eq_self_iff.mpr kept
  simp [cutLast?, all]

theorem cutLast?_append {mark : Char} (front : List Char) {back : List Char} (none : mark ∉ back) :
    cutLast? mark (front ++ mark :: back) = some (front, back) := by
  have kept : ∀ c ∈ back.reverse, (c != mark) = true := by
    intro c member
    have inside := List.mem_reverse.mp member
    simpa using fun same : c = mark => none (same ▸ inside)
  have last : (front ++ mark :: back).reverse.takeWhile (· != mark) = back.reverse := by
    rw [List.reverse_append, List.reverse_cons, List.append_assoc,
      List.takeWhile_append_of_pos kept]
    simp
  have size : (front ++ mark :: back).length - back.length - 1 = front.length := by
    simp only [List.length_append, List.length_cons]
    omega
  simp only [cutLast?, last, List.length_reverse, List.reverse_reverse, size]
  rw [if_neg (by simp; omega), List.take_left]

end LoadProbe.Url
