import LoadProbe.Proofs.Url.Cuts

/-!
Schemes, credentials and ports of a URL: each is read back from its normal form. Main statements:
`readScheme?_append`, `readCredentials_password` and `readPort_digits`.
-/
namespace LoadProbe.Url

/-- A scheme in its normal form: a letter and what may follow it, in lower case. -/
structure SchemeName (scheme : List Char) : Prop where
  letter : ∃ first rest, scheme = first :: rest ∧ first.isAlpha
  plain : ∀ c ∈ scheme, isSchemeChar c = true ∧ c.toLower = c

theorem toNat_lt_of_isAlpha {c : Char} (letter : c.isAlpha = true) : c.toNat < 128 := by
  have cases : (decide ('A'.val ≤ c.val ∧ c.val ≤ 'Z'.val) ||
      (decide ('a'.val ≤ c.val) && decide (c.val ≤ 'z'.val))) = true := letter
  simp only [Bool.or_eq_true, Bool.and_eq_true, decide_eq_true_eq, UInt32.le_iff_toNat_le,
    Char.toNat_val, Char.reduceToNat] at cases
  omega

theorem toNat_lt_of_isSchemeChar {c : Char} (allowed : isSchemeChar c = true) :
    c.toNat < 128 := by
  simp only [isSchemeChar, Char.isAlphanum, Bool.or_eq_true, beq_iff_eq] at allowed
  rcases allowed with (((letter | digit) | rfl) | rfl) | rfl
  · exact toNat_lt_of_isAlpha letter
  · have most := (Char.isDigit_iff_toNat.mp digit).2
    simp only [Char.reduceToNat] at most
    omega
  all_goals decide

/-- Lower case keeps the characters of a scheme what they are. -/
theorem toLower_schemeChar {c : Char} (allowed : isSchemeChar c = true) :
    isSchemeChar c.toLower = true ∧ c.toLower.toLower = c.toLower ∧
      c.toLower.isAlpha = c.isAlpha ∧ 32 < c.toNat := by
  have all : ∀ n ∈ List.range 128, isSchemeChar (Char.ofNat n) = true →
      isSchemeChar (Char.ofNat n).toLower = true ∧
        (Char.ofNat n).toLower.toLower = (Char.ofNat n).toLower ∧
        (Char.ofNat n).toLower.isAlpha = (Char.ofNat n).isAlpha ∧ 32 < (Char.ofNat n).toNat := by
    decide +kernel
  have known := all c.toNat (List.mem_range.mpr (toNat_lt_of_isSchemeChar allowed))
  rw [Char.ofNat_toNat] at known
  exact known allowed

/-- What is read of a scheme is in its normal form. -/
theorem readScheme?_normal {text scheme rest : List Char}
    (read : readScheme? text = some (scheme, rest)) : SchemeName scheme := by
  cases text with
  | nil => simp [readScheme?] at read
  | cons first more =>
    simp only [readScheme?, cut, Bool.not_not] at read
    split at read
    · next raw tail parts =>
      split at read
      · next alpha =>
        obtain ⟨rfl, rfl⟩ : raw.map Char.toLower = scheme ∧ tail = rest := by simpa using read
        have allowed : isSchemeChar first = true := by
          simp [isSchemeChar, Char.isAlphanum, alpha]
        have same : raw = first :: more.takeWhile isSchemeChar := by
          simpa [allowed] using (Prod.mk.inj parts).1.symm
        have inside : ∀ c ∈ raw, isSchemeChar c = true := by
          intro c member
          rw [← (Prod.mk.inj parts).1] at member
          exact List.all_eq_true.mp List.all_takeWhile c member
        constructor
        · refine ⟨first.toLower, (more.takeWhile isSchemeChar).map Char.toLower, ?_, ?_⟩
          · rw [same, List.map_cons]
          · rw [(toLower_schemeChar allowed).2.2.1]
            exact alpha
        · intro c member
          obtain ⟨origin, found, rfl⟩ := List.mem_map.mp member
          have known := toLower_schemeChar (inside origin found)
          exact ⟨known.1, known.2.1⟩
      · cases read
    · cases read

theorem SchemeName.solid {scheme : List Char} (name : SchemeName scheme) : Solid scheme :=
  fun c member => (toLower_schemeChar (name.plain c member).1).2.2.2

theorem readScheme?_append {scheme : List Char} (name : SchemeName scheme) (rest : List Char) :
    readScheme? (scheme ++ ':' :: rest) = some (scheme, rest) := by
  obtain ⟨first, more, same, alpha⟩ := name.letter
  have parts : cut (!isSchemeChar ·) (scheme ++ ':' :: rest) = (scheme, ':' :: rest) := by
    apply cut_append
    · intro c member
      simp [(name.plain c member).1]
    · simp [isSchemeChar, Char.isAlphanum]
  have lower : scheme.map Char.toLower = scheme := by
    have each : scheme.map Char.toLower = scheme.map id :=
      List.map_congr_left fun c member => (name.plain c member).2
    rw [each, List.map_id]
  rw [same, List.cons_append, readScheme?, ← List.cons_append, ← same, parts]
  simp only [alpha, if_true, lower]

theorem inCredentials_of_mark {c : Char} (mark : c ∈ ['/', '?', '#', '@', ':', ' ']) :
    inCredentials c = true := by
  have all : ∀ d ∈ ['/', '?', '#', '@', ':', ' '], inCredentials d = true := by
    simp [inCredentials, inPath, inFragment, String.contains_char_eq]
  exact all c mark

theorem readCredentials_username {username : List Char} (kept : Kept inCredentials username) :
    readCredentials username = (username, none) := by
  have colon : inCredentials ':' = true := inCredentials_of_mark (by simp)
  have whole : cut (· == ':') username = (username, []) := by
    apply cut_eq_self
    intro c member
    simpa using fun same : c = ':' => kept.not_mem colon (same ▸ member)
  simp [readCredentials, whole, kept.escape_eq]

theorem readCredentials_password {username password : List Char}
    (keptName : Kept inCredentials username) (kept : Kept inCredentials password)
    (nonempty : password ≠ []) :
    readCredentials (username ++ ':' :: password) = (username, some password) := by
  have colon : inCredentials ':' = true := inCredentials_of_mark (by simp)
  have parts : cut (· == ':') (username ++ ':' :: password) = (username, ':' :: password) := by
    apply cut_append
    · intro c member
      simpa using fun same : c = ':' => keptName.not_mem colon (same ▸ member)
    · simp
  obtain ⟨first, more, same⟩ := List.exists_cons_of_ne_nil nonempty
  subst same
  simp [readCredentials, parts, keptName.escape_eq, kept.escape_eq]

theorem readPort_digits {scheme : List Char} (none : defaultPort? scheme = .none) (port : UInt16) :
    readPort scheme (Numeral.digits port.toNat) = .ok (some port, []) := by
  have all : ∀ c ∈ Numeral.digits port.toNat, Numeral.isDigit c = true :=
    fun _ => Numeral.isDigit_of_mem_digits
  have front : (Numeral.digits port.toNat).takeWhile Numeral.isDigit = Numeral.digits port.toNat :=
    List.takeWhile_eq_self_iff.mpr all
  have back : (Numeral.digits port.toNat).dropWhile Numeral.isDigit = [] :=
    List.dropWhile_eq_nil_iff.mpr all
  have small : ¬ UInt16.size ≤ port.toNat := Nat.not_le.mpr port.toNat_lt
  simp [readPort, front, back, small, none, Numeral.digits_ne_nil]

end LoadProbe.Url
