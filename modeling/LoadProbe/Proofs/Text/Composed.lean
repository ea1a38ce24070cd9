import LoadProbe.Text.Composed

/-!
What composing leaves alone. No composed character begins with a digit, a full stop or a colon, and
none ends with an ASCII character. So a text of digits and full stops stays in front of what follows
it, and a colon is not lost anywhere. Main statements: `compose_append` and `mem_compose`.
-/
namespace LoadProbe.Text

/-- The characters from the full stop to the colon, with the digits between them. -/
def Alone (c : Char) : Prop := 46 ≤ c.toNat ∧ c.toNat ≤ 58

theorem Alone.ascii {c : Char} (alone : Alone c) : c.toNat < 128 := Nat.lt_of_le_of_lt alone.2 (by decide)

section Table

/-- A row of a character that is not ASCII, composed of one that does not stand alone and of another
one that is not ASCII. -/
def isComposition : List Nat → Bool
  | [whole, first, second] => 128 ≤ whole && 128 ≤ second && !(46 ≤ first && first ≤ 58)
  | _ => false

/-- A table is checked line by line. -/
theorem all_rows_cons {test : List Nat → Bool} {chars : List Char} {lines : List String}
    (first : ((split ' ' chars).map fun row => (split '.' row).map Table.readNumber).all test = true)
    (later : (Table.rows lines).all test = true) :
    (Table.rows (String.ofList chars :: lines)).all test = true := by
  rw [Table.rows, List.flatMap_cons, List.all_append, String.toList_ofList, first]
  exact later

theorem compositions_all : compositions.all isComposition = true := by
  unfold compositions
  repeat' refine all_rows_cons (by decide +kernel) ?_
  rfl

theorem exists_of_mem_compositions {row : List Nat} (member : row ∈ compositions) :
    ∃ whole first second, row = [whole, first, second] ∧ 128 ≤ whole ∧ 128 ≤ second ∧
      ¬ (46 ≤ first ∧ first ≤ 58) := by
  have known := List.all_eq_true.mp compositions_all row member
  unfold isComposition at known
  split at known
  · next whole first second =>
    simp only [Bool.and_eq_true, decide_eq_true_eq, Bool.not_eq_true', Bool.and_eq_false_iff,
      decide_eq_false_iff_not] at known
    exact ⟨whole, first, second, rfl, known.1.1, known.1.2, by omega⟩
  · cases known

end Table

section Join

theorem Syllable.ofChar?_ascii {c : Char} (ascii : c.toNat < 128) : Syllable.ofChar? c = none :=
  if_neg fun inside => absurd inside.1 (by unfold firstCode; omega)

/-- A character that stands alone is composed with none behind it. -/
theorem join?_of_alone {letter : Char} (alone : Alone letter) (c : Char) : join? letter c = none := by
  have syllable : Syllable.join? letter c = none := by
    have low : ¬ Syllable.leadingCode ≤ letter.toNat := by
      have ascii := alone.ascii
      unfold Syllable.leadingCode
      omega
    simp only [Syllable.join?, low, false_and, if_false, Syllable.ofChar?_ascii alone.ascii]
  have row : compositions.find? (fun row => row.tail == [letter.toNat, c.toNat]) = none := by
    apply List.find?_eq_none.mpr
    intro row member same
    obtain ⟨whole, first, second, rfl, -, -, other⟩ := exists_of_mem_compositions member
    rw [List.tail_cons, beq_iff_eq, List.cons.injEq] at same
    rw [same.1] at other
    exact other alone
  rw [join?, syllable, row]
  rfl

/-- An ASCII character is composed with none before it. -/
theorem join?_ascii {c : Char} (ascii : c.toNat < 128) (letter : Char) : join? letter c = none := by
  have syllable : Syllable.join? letter c = none := by
    have noVowel : ¬ Syllable.vowelCode ≤ c.toNat := by
      unfold Syllable.vowelCode
      omega
    have noTrailing : ¬ Syllable.trailingCode < c.toNat := by
      unfold Syllable.trailingCode
      omega
    simp only [Syllable.join?, noVowel, noTrailing, false_and, and_false, if_false]
    split <;> rfl
  have row : compositions.find? (fun row => row.tail == [letter.toNat, c.toNat]) = none := by
    apply List.find?_eq_none.mpr
    intro row member same
    obtain ⟨whole, first, second, rfl, -, wide, -⟩ := exists_of_mem_compositions member
    simp only [List.tail_cons, beq_iff_eq, List.cons.injEq, and_true] at same
    omega
  rw [join?, syllable, row]
  rfl

end Join

section Decompose

theorem takeApart_append (front back : List Char) (row : List Nat) :
    takeApart (front ++ back) row = takeApart front row ++ takeApart back row := by
  unfold takeApart
  split
  · exact List.flatMap_append
  · rfl

theorem decompose_append (front back : List Char) :
    decompose (front ++ back) = decompose front ++ decompose back := by
  unfold decompose
  rw [List.flatMap_append]
  generalize front.flatMap _ = front
  generalize back.flatMap _ = back
  induction compositions generalizing front back with
  | nil => rfl
  | cons row rest ih => rw [List.foldl_cons, takeApart_append, ih]; rfl

theorem decompose_ascii {c : Char} (ascii : c.toNat < 128) : decompose [c] = [c] := by
  have rows : ∀ rows : List (List Nat), rows ⊆ compositions → rows.foldl takeApart [c] = [c] := by
    intro rows within
    induction rows with
    | nil => rfl
    | cons row rest ih =>
      obtain ⟨whole, first, second, rfl, wide, -, -⟩ :=
        exists_of_mem_compositions (within List.mem_cons_self)
      have other : c.toNat ≠ whole := by omega
      have kept : takeApart [c] [whole, first, second] = [c] := by simp [takeApart, other]
      rw [List.foldl_cons, kept]
      exact ih fun other member => within (List.mem_cons_of_mem _ member)
  have whole : [c].flatMap (fun c => ((Syllable.ofChar? c).map Syllable.parts).getD [c]) = [c] := by
    simp [Syllable.ofChar?_ascii ascii]
  rw [decompose, whole]
  exact rows compositions fun _ member => member

end Decompose

theorem combiningClass_ascii {c : Char} (ascii : c.toNat < 128) : combiningClass c = 0 := if_pos ascii

theorem orderMarks_cons {c : Char} (ascii : c.toNat < 128) (rest : List Char) :
    orderMarks (c :: rest) = c :: orderMarks rest := by
  rw [orderMarks]
  cases orderMarks rest with
  | nil => rfl
  | cons d more =>
    rw [insertMark, combiningClass_ascii ascii]
    exact if_neg fun before => Nat.not_lt_zero _ before.2

theorem orderMarks_decompose {front : List Char} (alone : ∀ c ∈ front, Alone c) (back : List Char) :
    orderMarks (decompose (front ++ back)) = front ++ orderMarks (decompose back) := by
  induction front with
  | nil => rw [List.nil_append, List.nil_append]
  | cons c more ih =>
    have ascii := (alone c List.mem_cons_self).ascii
    have later := ih fun d member => alone d (List.mem_cons_of_mem c member)
    have apart : decompose (c :: more ++ back) = c :: decompose (more ++ back) := by
      rw [← List.singleton_append, List.append_assoc, decompose_append, decompose_ascii ascii,
        List.singleton_append]
    rw [apart, orderMarks_cons ascii, later, List.cons_append]

section JoinMarks

/-- What joining does with the next character: it becomes one with the letter, or begins anew, or is a
mark that is kept. -/
theorem joinMarks_cases (letter c : Char) (kept rest : List Char) :
    (∃ joined, join? letter c = some joined ∧
      joinMarks letter kept (c :: rest) = joinMarks joined kept rest) ∨
    (combiningClass c = 0 ∧
      joinMarks letter kept (c :: rest) = letter :: kept.reverse ++ joinMarks c [] rest) ∨
    joinMarks letter kept (c :: rest) = joinMarks letter (c :: kept) rest := by
  rw [joinMarks.eq_def letter kept (c :: rest)]
  dsimp only
  split
  · next joined same => exact .inl ⟨joined, (Option.ite_none_right_eq_some.mp same).2, rfl⟩
  · by_cases starts : combiningClass c = 0
    · rw [if_pos starts]
      exact .inr (.inl ⟨starts, rfl⟩)
    · rw [if_neg starts]
      exact .inr (.inr rfl)

/-- A letter that stands alone stays in front. -/
theorem joinMarks_of_alone {letter : Char} (alone : Alone letter) (kept rest : List Char) :
    ∃ back, joinMarks letter kept rest = letter :: back := by
  induction rest generalizing kept with
  | nil => exact ⟨_, by rw [joinMarks]⟩
  | cons c rest ih =>
    rcases joinMarks_cases letter c kept rest with ⟨joined, found, -⟩ | ⟨-, next⟩ | next
    · rw [join?_of_alone alone c] at found
      cases found
    · exact ⟨_, next⟩
    · rw [next]
      exact ih (c :: kept)

theorem joinMarks_cons {letter c : Char} (alone : Alone letter) (ascii : c.toNat < 128)
    (rest : List Char) : joinMarks letter [] (c :: rest) = letter :: joinMarks c [] rest := by
  rw [joinMarks, join?_of_alone alone c, combiningClass_ascii ascii]
  rfl

theorem joinMarks_append {letter : Char} {front : List Char}
    (alone : ∀ c ∈ letter :: front, Alone c) (back : List Char) :
    ∃ rest, joinMarks letter [] (front ++ back) = letter :: front ++ rest := by
  induction front generalizing letter with
  | nil => exact joinMarks_of_alone (alone letter List.mem_cons_self) [] back
  | cons c more ih =>
    have later : ∀ d ∈ c :: more, Alone d := fun d member => alone d (List.mem_cons_of_mem letter member)
    obtain ⟨rest, same⟩ := ih later
    refine ⟨rest, ?_⟩
    rw [List.cons_append, joinMarks_cons (alone letter List.mem_cons_self)
      (later c List.mem_cons_self).ascii, same]
    rfl

theorem mem_joinMarks {c : Char} (alone : Alone c) {letter : Char} {kept rest : List Char}
    (member : c = letter ∨ c ∈ kept ∨ c ∈ rest) : c ∈ joinMarks letter kept rest := by
  induction rest generalizing letter kept with
  | nil =>
    rw [joinMarks]
    simpa using member
  | cons d rest ih =>
    rw [List.mem_cons] at member
    rcases joinMarks_cases letter d kept rest with ⟨joined, found, next⟩ | ⟨-, next⟩ | next
    · -- What was joined is neither of the two that it was joined of.
      have notLetter : c ≠ letter := by
        rintro rfl
        rw [join?_of_alone alone] at found
        cases found
      have notMark : c ≠ d := by
        rintro rfl
        rw [join?_ascii alone.ascii] at found
        cases found
      rw [next]
      apply ih
      right
      simpa [notLetter, notMark] using member
    · rw [next, List.mem_append, List.mem_cons, List.mem_reverse]
      rcases member with letter | before | later
      · exact .inl (.inl letter)
      · exact .inl (.inr before)
      · exact .inr (ih (by simpa using later))
    · rw [next]
      apply ih
      simpa [or_assoc, or_left_comm] using member

end JoinMarks

/-- Digits and full stops stay in front of a composed text. -/
theorem compose_append {front : List Char} (alone : ∀ c ∈ front, Alone c) (back : List Char) :
    ∃ rest, compose (front ++ back) = front ++ rest := by
  unfold compose
  split
  · exact ⟨back, rfl⟩
  · rw [orderMarks_decompose alone]
    cases front with
    | nil => exact ⟨_, (List.nil_append _).symm⟩
    | cons c more => exact joinMarks_append alone _

/-- A character that stands alone is not lost. -/
theorem mem_compose {c : Char} (alone : Alone c) {text : List Char} (member : c ∈ text) :
    c ∈ compose text := by
  unfold compose
  split
  · exact member
  · obtain ⟨front, back, rfl⟩ := List.append_of_mem member
    have apart : c ∈ decompose (front ++ c :: back) := by
      rw [decompose_append, ← List.singleton_append, decompose_append, decompose_ascii alone.ascii]
      simp
    have ordered := (perm_orderMarks _).mem_iff.mpr apart
    cases found : orderMarks (decompose (front ++ c :: back)) with
    | nil => simp [found] at ordered
    | cons letter rest =>
      rw [found, List.mem_cons] at ordered
      apply mem_joinMarks alone
      simpa using ordered

end LoadProbe.Text
