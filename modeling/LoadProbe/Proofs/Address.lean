import LoadProbe.Address

/-!
Addresses of version 6 are read back from their text, whichever run of zeros it leaves out. Main
statement: `read?_chars`.
-/
namespace LoadProbe

theorem digit?_digitChar {digit : Nat} (small : digit < 16) :
    Numeral.digit? 16 (Nat.digitChar digit) = some digit := by
  have all : ∀ d ∈ List.range 16, Numeral.digit? 16 (Nat.digitChar d) = some d := by decide
  exact all digit (List.mem_range.mpr small)

/-- The digits of a number, each with its value. -/
theorem mapM_hexDigits (n : Nat) :
    ∃ values, (Text.hexDigits n).mapM (Numeral.digit? 16) = some values ∧
      values.foldl (fun total digit => total * 16 + digit) 0 = n := by
  induction n using Nat.strongRecOn with
  | ind n ih =>
    unfold Text.hexDigits
    split
    · next small => exact ⟨[n], by simp [digit?_digitChar small], by simp⟩
    · next large =>
      obtain ⟨values, read, total⟩ := ih (n / 16) (by omega)
      refine ⟨values ++ [n % 16], ?_, ?_⟩
      · simp [List.mapM_append, read, digit?_digitChar (Nat.mod_lt n (by decide))]
      · rw [List.foldl_append, total]
        simp only [List.foldl_cons, List.foldl_nil]
        omega

theorem isSome_of_mem_hexDigits {n : Nat} {c : Char} (member : c ∈ Text.hexDigits n) :
    (Numeral.digit? 16 c).isSome := by
  induction n using Nat.strongRecOn with
  | ind n ih =>
    unfold Text.hexDigits at member
    split at member
    · next small =>
      obtain rfl := List.mem_singleton.mp member
      rw [digit?_digitChar small]
      rfl
    · next large =>
      rcases List.mem_append.mp member with front | last
      · exact ih (n / 16) (by omega) front
      · obtain rfl := List.mem_singleton.mp last
        rw [digit?_digitChar (Nat.mod_lt n (by decide))]
        rfl

theorem hexDigits_ne_nil (n : Nat) : Text.hexDigits n ≠ [] := by
  unfold Text.hexDigits
  split <;> simp

theorem length_hexDigits_le {n count : Nat} (small : n < Nat.pow 16 (count + 1)) :
    (Text.hexDigits n).length ≤ count + 1 := by
  induction count generalizing n with
  | zero =>
    unfold Text.hexDigits
    rw [if_pos (by simpa using small)]
    exact Nat.le_refl 1
  | succ count ih =>
    unfold Text.hexDigits
    split
    · simp
    · have less : n / 16 < Nat.pow 16 (count + 1) := by
        have scaled : n < Nat.pow 16 (count + 1) * 16 := small
        omega
      have most := ih less
      rw [List.length_append, List.length_singleton]
      omega

namespace Ipv6

theorem colon_not_mem_hexDigits (n : Nat) : ':' ∉ Text.hexDigits n := by
  intro member
  have digit := isSome_of_mem_hexDigits member
  exact absurd digit (by decide)

/-- A group reads back. -/
theorem readGroup?_hexDigits (group : UInt16) :
    readGroup? (Text.hexDigits group.toNat) = some group := by
  have bounded : group.toNat < Nat.pow 16 (3 + 1) := group.toNat_lt
  have short := length_hexDigits_le bounded
  obtain ⟨values, read, total⟩ := mapM_hexDigits group.toNat
  rw [readGroup?, if_neg (by simp [hexDigits_ne_nil]; omega), read]
  simp [total]

theorem readGroups?_map_hexDigits (dotted : Bool) (groups : List UInt16) :
    readGroups? dotted (groups.map fun group => Text.hexDigits group.toNat) = some groups := by
  induction groups with
  | nil => rfl
  | cons group rest ih =>
    cases rest with
    | nil => simp [readGroups?, readGroup?_hexDigits]
    | cons second more =>
      have later : readGroups? dotted (Text.hexDigits second.toNat ::
          more.map fun group => Text.hexDigits group.toNat) = some (second :: more) := ih
      rw [List.map_cons, List.map_cons, readGroups?, later, readGroup?_hexDigits]
      · rfl
      · simp

theorem joinGroups_cons_cons (first second : UInt16) (rest : List UInt16) :
    joinGroups (first :: second :: rest) =
      Text.hexDigits first.toNat ++ ':' :: joinGroups (second :: rest) := by
  simp [joinGroups, List.intercalate_cons_cons]

theorem joinGroups_singleton (group : UInt16) : joinGroups [group] = Text.hexDigits group.toNat := by
  simp [joinGroups]

/-- Joined groups begin with a digit. -/
theorem joinGroups_cons_eq (group : UInt16) (rest : List UInt16) :
    ∃ digit more, joinGroups (group :: rest) = digit :: more ∧ digit ≠ ':' := by
  obtain ⟨digit, more, same⟩ := List.exists_cons_of_ne_nil (hexDigits_ne_nil group.toNat)
  have other : digit ≠ ':' := by
    rintro rfl
    exact colon_not_mem_hexDigits group.toNat (same ▸ List.mem_cons_self)
  cases rest with
  | nil => exact ⟨digit, more, by rw [joinGroups_singleton, same], other⟩
  | cons second rest =>
    exact ⟨digit, _, by rw [joinGroups_cons_cons, same, List.cons_append], other⟩

theorem readRun?_joinGroups (dotted : Bool) (groups : List UInt16) :
    readRun? dotted (joinGroups groups) = some groups := by
  cases groups with
  | nil => rfl
  | cons group rest =>
    obtain ⟨digit, more, same, _⟩ := joinGroups_cons_eq group rest
    have pieces : Text.split ':' (joinGroups (group :: rest)) =
        (group :: rest).map fun group => Text.hexDigits group.toNat := by
      apply Text.split_intercalate (by simp)
      intro piece member
      obtain ⟨origin, _, rfl⟩ := List.mem_map.mp member
      exact colon_not_mem_hexDigits _
    rw [readRun?, if_neg (by simp [same]), pieces, readGroups?_map_hexDigits]

theorem cutRun_cons {c : Char} (other : c ≠ ':') (rest : List Char) :
    cutRun (c :: rest) = (c :: (cutRun rest).1, (cutRun rest).2) := by
  rw [cutRun]
  intro more same
  exact absurd same other

theorem cutRun_append {piece : List Char} (none : ':' ∉ piece) (rest : List Char) :
    cutRun (piece ++ rest) = (piece ++ (cutRun rest).1, (cutRun rest).2) := by
  induction piece with
  | nil => rfl
  | cons c more ih =>
    have other : c ≠ ':' := fun same => none (same ▸ List.mem_cons_self)
    have later : ':' ∉ more := fun found => none (List.mem_cons_of_mem c found)
    rw [List.cons_append, cutRun_cons other, ih later]
    rfl

/-- No double colon begins inside of joined groups. -/
theorem cutRun_joinGroups (groups : List UInt16) (rest : List Char) :
    cutRun (joinGroups groups ++ rest) = (joinGroups groups ++ (cutRun rest).1, (cutRun rest).2) := by
  induction groups with
  | nil => rfl
  | cons group later ih =>
    cases later with
    | nil =>
      rw [joinGroups_singleton]
      exact cutRun_append (colon_not_mem_hexDigits _) rest
    | cons second more =>
      obtain ⟨digit, back, same, other⟩ := joinGroups_cons_eq second more
      -- The colon between two groups begins no double colon, since a digit follows it.
      have single : cutRun (':' :: (joinGroups (second :: more) ++ rest)) =
          (':' :: (cutRun (joinGroups (second :: more) ++ rest)).1,
            (cutRun (joinGroups (second :: more) ++ rest)).2) := by
        rw [same, List.cons_append, cutRun]
        rintro _ _ found
        exact other (List.cons.inj found).1
      rw [joinGroups_cons_cons, List.append_assoc, List.cons_append,
        cutRun_append (colon_not_mem_hexDigits _), single, ih]
      simp

theorem ofGroups?_groups (address : Ipv6) : ofGroups? address.groups = some address :=
  dif_pos address.eight

/-- The groups around a run of zeros, with the run between them. -/
theorem groups_eq_around (groups : List UInt16) (start : Nat) :
    groups.take start ++ List.replicate (zerosAt groups start) 0 ++
      groups.drop (start + zerosAt groups start) = groups := by
  have zeros : (groups.drop start).takeWhile (· == 0) =
      List.replicate (zerosAt groups start) 0 := by
    apply List.eq_replicate_iff.mpr
    refine ⟨rfl, fun group member => ?_⟩
    have all := List.all_takeWhile (p := (· == (0 : UInt16))) (l := groups.drop start)
    simpa using List.all_eq_true.mp all group member
  have behind : groups.drop (start + zerosAt groups start) =
      (groups.drop start).dropWhile (· == 0) := by
    have cutAt := List.takeWhile_append_dropWhile (p := (· == (0 : UInt16))) (l := groups.drop start)
    rw [← List.drop_drop]
    conv => lhs; rw [← cutAt]
    exact List.drop_left
  rw [behind, ← zeros, List.append_assoc, List.takeWhile_append_dropWhile, List.take_append_drop]

theorem mem_joinGroups {groups : List UInt16} {c : Char} (member : c ∈ joinGroups groups) :
    c = ':' ∨ (Numeral.digit? 16 c).isSome := by
  induction groups with
  | nil => exact absurd member List.not_mem_nil
  | cons group rest ih =>
    cases rest with
    | nil =>
      rw [joinGroups_singleton] at member
      exact .inr (isSome_of_mem_hexDigits member)
    | cons second more =>
      rw [joinGroups_cons_cons] at member
      rcases List.mem_append.mp member with front | back
      · exact .inr (isSome_of_mem_hexDigits front)
      · rcases List.mem_cons.mp back with same | later
        · exact .inl same
        · exact ih later

/-- The text of an address has no characters but colons and digits. -/
theorem mem_chars {address : Ipv6} {c : Char} (member : c ∈ address.chars) :
    c = ':' ∨ (Numeral.digit? 16 c).isSome := by
  unfold chars at member
  dsimp only at member
  split at member
  · exact mem_joinGroups member
  · simp only [List.mem_append, List.mem_cons, List.not_mem_nil, or_false, or_self] at member
    rcases member with (front | colon) | back
    · exact mem_joinGroups front
    · exact .inl colon
    · exact mem_joinGroups back

/-- A double colon stands for the zeros that are missing between two runs of groups. -/
theorem read?_joinGroups {front back : List UInt16} {count : Nat} (positive : 0 < count)
    (eight : front.length + count + back.length = 8) :
    read? (joinGroups front ++ [':', ':'] ++ joinGroups back) =
      ofGroups? (front ++ List.replicate count 0 ++ back) := by
  have parts : cutRun (joinGroups front ++ [':', ':'] ++ joinGroups back) =
      (joinGroups front, some (joinGroups back)) := by
    rw [List.append_assoc, cutRun_joinGroups]
    simp [cutRun]
  have less : front.length + back.length < 8 := by omega
  have missing : 8 - (front.length + back.length) = count := by omega
  rw [read?, parts]
  simp [readRun?_joinGroups, less, missing]

/-- An address reads back from its text. -/
theorem read?_chars (address : Ipv6) : read? address.chars = some address := by
  by_cases short : zerosAt address.groups (longestZeros address.groups) < 2
  · have none : cutRun (joinGroups address.groups) = (joinGroups address.groups, none) := by
      simpa [cutRun] using cutRun_joinGroups address.groups []
    rw [chars, if_pos short, read?, none]
    simp [readRun?_joinGroups, ofGroups?_groups]
  · have around := groups_eq_around address.groups (longestZeros address.groups)
    have eight := congrArg List.length around
    rw [List.length_append, List.length_append, List.length_replicate, address.eight] at eight
    rw [chars, if_neg short, read?_joinGroups (by omega) eight, around, ofGroups?_groups]

end Ipv6
end LoadProbe
