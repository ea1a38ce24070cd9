import LoadProbe.Proofs.Text.Composed
import LoadProbe.Proofs.Text.Lines
import LoadProbe.Proofs.Text.Utf8
import LoadProbe.Proofs.Url.Escapes
import LoadProbe.Url.Host

/-!
Domain names that begin with numbers between full stops. Whatever follows, and in any script, these
stay in front of the name, and a colon is never part of one. Main statement: `readSpecial_append`.
-/
namespace LoadProbe.Url

/-- Whether a text has only digits and full stops. -/
def Dotted (text : List Char) : Prop := ∀ c ∈ text, c = '.' ∨ Numeral.isDigit c = true

theorem Dotted.alone {text : List Char} (dotted : Dotted text) : ∀ c ∈ text, Text.Alone c := by
  intro c member
  rcases dotted c member with rfl | digit
  · exact ⟨by decide, by decide⟩
  · simp only [Numeral.isDigit, Bool.and_eq_true, decide_eq_true_eq, le_iff_toNat_le,
      Char.reduceToNat] at digit
    exact ⟨by omega, by omega⟩

theorem Dotted.ascii {text : List Char} (dotted : Dotted text) : ∀ c ∈ text, c.toNat < 128 :=
  fun c member => (dotted.alone c member).ascii

theorem Dotted.append_dot {text : List Char} (dotted : Dotted text) : Dotted (text ++ ['.']) := by
  intro c member
  rcases List.mem_append.mp member with inside | last
  · exact dotted c inside
  · exact .inl (List.mem_singleton.mp last)

theorem toLower_alone {c : Char} (alone : Text.Alone c) : c.toLower = c := by
  have all : ∀ n ∈ List.range 59, (Char.ofNat n).toLower = Char.ofNat n := by decide
  have known := all c.toNat (List.mem_range.mpr (Nat.lt_succ_of_le alone.2))
  rwa [Char.ofNat_toNat] at known

theorem map_toLower_alone {text : List Char} (alone : ∀ c ∈ text, Text.Alone c) :
    text.map Char.toLower = text := by
  have each : text.map Char.toLower = text.map id :=
    List.map_congr_left fun c member => toLower_alone (alone c member)
  rw [each, List.map_id]

section Spell

theorem spelling?_alone {c : Char} (alone : Text.Alone c) : spelling? c = some [c] := by
  rw [spelling?, if_pos alone.ascii, toLower_alone alone]

theorem spell?_cons (c : Char) (rest : List Char) :
    spell? (c :: rest) = (spelling? c).bind fun first => (spell? rest).map (first ++ ·) := by
  simp only [spell?, List.mapM_cons]
  cases spelling? c with
  | none => rfl
  | some first => cases rest.mapM spelling? <;> rfl

theorem spell?_append {front : List Char} (alone : ∀ c ∈ front, Text.Alone c) (back : List Char) :
    spell? (front ++ back) = (spell? back).map (front ++ ·) := by
  induction front with
  | nil => simp
  | cons c rest ih =>
    have later := ih fun d member => alone d (List.mem_cons_of_mem c member)
    rw [List.cons_append, spell?_cons, spelling?_alone (alone c List.mem_cons_self), later]
    cases spell? back <;> rfl

theorem mem_spell? {c : Char} (alone : Text.Alone c) {text spelt : List Char}
    (spells : spell? text = some spelt) (member : c ∈ text) : c ∈ spelt := by
  induction text generalizing spelt with
  | nil => exact absurd member List.not_mem_nil
  | cons d rest ih =>
    rw [spell?_cons] at spells
    obtain ⟨first, found, later⟩ := Option.bind_eq_some_iff.mp spells
    obtain ⟨more, spellsRest, rfl⟩ := Option.map_eq_some_iff.mp later
    rcases List.mem_cons.mp member with rfl | inside
    · rw [spelling?_alone alone] at found
      obtain rfl := Option.some.inj found
      exact List.mem_append_left more List.mem_cons_self
    · exact List.mem_append_right first (ih spellsRest inside)

end Spell

section Labels

/-- Digits may stand in every label, and there is none in the mark of an encoded one. -/
theorem label_of_isDigit {c : Char} (digit : Numeral.isDigit c = true) :
    Label.isForbidden c = false ∧ c ≠ 'x' ∧ Punycode.isAscii c = true := by
  have all : ∀ d ∈ hexDigits, Label.isForbidden d = false ∧ d ≠ 'x' ∧ Punycode.isAscii d = true := by
    simp [hexDigits, Label.isForbidden, inControls, String.contains_char_eq, Punycode.isAscii]
  have decimal : '0' ≤ c ∧ c ≤ '9' := by simpa [Numeral.isDigit] using digit
  have small : c.toNat - '0'.toNat < 16 := by
    have most := le_iff_toNat_le.mp decimal.2
    simp only [Char.reduceToNat] at most ⊢
    omega
  have hexadecimal : (Numeral.digit? 16 c).isSome := by
    simp only [Numeral.digit?, if_pos decimal, if_pos small, Option.isSome_some]
  exact all c (mem_hexDigits hexadecimal)

/-- A label of digits reads as it stands. -/
theorem Label.read?_digits {text : List Char} (digits : ∀ c ∈ text, Numeral.isDigit c = true) :
    Label.read? text = some ⟨text, text⟩ := by
  have free : text.any Label.isForbidden = false :=
    List.any_eq_false.mpr fun c member => by simp [(label_of_isDigit (digits c member)).1]
  have unmarked : Label.mark.isPrefixOf text = false := by
    cases text with
    | nil => rfl
    | cons c rest =>
      have other := (label_of_isDigit (digits c List.mem_cons_self)).2.1
      simp [Label.mark, List.isPrefixOf, other.symm]
  have ascii : text.all Punycode.isAscii = true :=
    List.all_eq_true.mpr fun c member => (label_of_isDigit (digits c member)).2.2
  simp [Label.read?, free, unmarked, ascii]

theorem mapM_append_eq_some {α β : Type} {f : α → Option β} {front back : List α} {outcome : List β} :
    (front ++ back).mapM f = some outcome ↔
      ∃ first second, front.mapM f = some first ∧ back.mapM f = some second ∧
        outcome = first ++ second := by
  rw [List.mapM_append]
  cases front.mapM f with
  | none => simp
  | some first =>
    cases back.mapM f with
    | none => simp
    | some second => simp [eq_comm]

theorem mapM_cons_eq_some {α β : Type} {f : α → Option β} {item : α} {rest : List α}
    {outcome : List β} :
    (item :: rest).mapM f = some outcome ↔
      ∃ first later, f item = some first ∧ rest.mapM f = some later ∧ outcome = first :: later := by
  rw [List.mapM_cons]
  cases f item with
  | none => simp
  | some first =>
    cases rest.mapM f with
    | none => simp
    | some later => simp [eq_comm]

theorem exists_of_mapM {α β : Type} {f : α → Option β} {items : List α} {outcome : List β}
    (known : items.mapM f = some outcome) {item : α} (member : item ∈ items) :
    ∃ result, f item = some result := by
  induction items generalizing outcome with
  | nil => exact absurd member List.not_mem_nil
  | cons first rest ih =>
    obtain ⟨result, later, found, others, -⟩ := mapM_cons_eq_some.mp known
    rcases List.mem_cons.mp member with rfl | inside
    · exact ⟨result, found⟩
    · exact ih others inside

theorem mapM_digits {pieces : List (List Char)}
    (digits : ∀ piece ∈ pieces, ∀ c ∈ piece, Numeral.isDigit c = true) :
    pieces.mapM Label.read? = some (pieces.map fun piece => ⟨piece, piece⟩) := by
  induction pieces with
  | nil => rfl
  | cons piece rest ih =>
    have later := ih fun other member => digits other (List.mem_cons_of_mem piece member)
    exact mapM_cons_eq_some.mpr
      ⟨_, _, Label.read?_digits (digits piece List.mem_cons_self), later, rfl⟩

/-- Pieces of two texts are joined as the texts are. -/
theorem intercalate_append (separator : Char) {front back : List (List Char)} (some : front ≠ [])
    (more : back ≠ []) :
    [separator].intercalate (front ++ back) =
      [separator].intercalate front ++ separator :: [separator].intercalate back := by
  induction front with
  | nil => exact absurd rfl some
  | cons piece rest ih =>
    cases rest with
    | nil =>
      obtain ⟨second, others, rfl⟩ := List.exists_cons_of_ne_nil more
      rw [List.singleton_append, List.intercalate_cons_cons, List.intercalate_singleton,
        List.append_assoc, List.singleton_append]
    | cons second others =>
      rw [List.cons_append, List.cons_append, List.intercalate_cons_cons, ← List.cons_append,
        ih (List.cons_ne_nil _ _), List.intercalate_cons_cons]
      simp

end Labels

/-- Pieces of digits and full stops are digits. -/
theorem Dotted.digits {text piece : List Char} (dotted : Dotted text)
    (member : piece ∈ Text.split '.' text) : ∀ c ∈ piece, Numeral.isDigit c = true := by
  intro c inside
  rcases dotted c (Text.mem_of_mem_split member inside) with rfl | digit
  · exact absurd inside (Text.not_mem_of_mem_split member)
  · exact digit

namespace Domain

/-- Numbers between full stops keep their place in front of a name in any script. -/
theorem encoded?_append {front back domain : List Char} (dotted : Dotted front)
    (read : encoded? (front ++ '.' :: back) = some domain) :
    ∃ rest, domain = front ++ '.' :: rest := by
  have alone := dotted.append_dot.alone
  have whole : front ++ '.' :: back = (front ++ ['.']) ++ back := by
    rw [List.append_assoc, List.singleton_append]
  rw [whole, encoded?, spell?_append alone] at read
  obtain ⟨spelt, spells, read⟩ := Option.bind_eq_some_iff.mp read
  obtain ⟨more, -, rfl⟩ := Option.map_eq_some_iff.mp spells
  obtain ⟨rest, composed⟩ := Text.compose_append alone more
  obtain ⟨labels, labelled, read⟩ := Option.bind_eq_some_iff.mp read
  rw [composed, List.append_assoc, List.singleton_append, Text.split_append] at labelled
  obtain ⟨first, second, known, others, rfl⟩ := mapM_append_eq_some.mp labelled
  rw [mapM_digits fun piece member => dotted.digits member] at known
  obtain rfl := Option.some.inj known
  split at read
  · cases read
  · obtain rfl := Option.some.inj read
    refine ⟨['.'].intercalate (second.map Label.ascii), ?_⟩
    have nonempty : second ≠ [] := by
      rintro rfl
      obtain ⟨piece, pieces, same⟩ := List.exists_cons_of_ne_nil (Text.split_ne_nil '.' rest)
      rw [same] at others
      obtain ⟨label, later, -, -, none⟩ := mapM_cons_eq_some.mp others
      cases none
    rw [List.map_append, intercalate_append, List.map_map]
    · have shown : (Text.split '.' front).map (Label.ascii ∘ fun piece => ⟨piece, piece⟩) =
          Text.split '.' front := List.map_id _
      rw [shown, Text.intercalate_split]
    · simpa using Text.split_ne_nil '.' front
    · simpa using nonempty

theorem isForbidden_colon : Label.isForbidden ':' = true := by
  simp [Label.isForbidden, String.contains_char_eq]

/-- No name in any script has a colon. -/
theorem colon_not_mem_of_encoded? {name domain : List Char} (read : encoded? name = some domain) :
    ':' ∉ name := by
  intro member
  have alone : Text.Alone ':' := ⟨by decide, by decide⟩
  obtain ⟨spelt, spells, read⟩ := Option.bind_eq_some_iff.mp read
  obtain ⟨labels, labelled, -⟩ := Option.bind_eq_some_iff.mp read
  have composed : ':' ∈ Text.compose spelt := Text.mem_compose alone (mem_spell? alone spells member)
  rw [← Text.intercalate_split '.' (Text.compose spelt)] at composed
  rcases Text.eq_or_mem_of_mem_intercalate composed with same | ⟨piece, found, inside⟩
  · exact absurd same (by decide)
  · obtain ⟨label, known⟩ := exists_of_mapM labelled found
    rw [Label.read?, if_pos (List.any_eq_true.mpr ⟨':', inside, isForbidden_colon⟩)] at known
    cases known

theorem toAscii?_append {front domain : List Char} (dotted : Dotted front) {bytes : List UInt8}
    (read : toAscii? (Text.encode (front ++ ['.']) ++ bytes) = some domain) :
    ∃ rest, domain = front ++ '.' :: rest := by
  have ascii := dotted.append_dot.ascii
  unfold toAscii? at read
  split at read
  · have latin : (Text.encode (front ++ ['.']) ++ bytes).map (fun byte => Char.ofNat byte.toNat) =
        front ++ ['.'] ++ Text.latin bytes := by
      rw [List.map_append]
      exact congrArg (· ++ Text.latin bytes) (Text.latin_encode ascii)
    rw [latin, lowered?] at read
    split at read
    · cases read
    · obtain rfl := Option.some.inj read
      refine ⟨(Text.latin bytes).map Char.toLower, ?_⟩
      rw [List.map_append, map_toLower_alone dotted.append_dot.alone, List.append_assoc,
        List.singleton_append]
  · obtain ⟨text, decoded, read⟩ := Option.bind_eq_some_iff.mp read
    have same := Text.decode?_eq_some_iff.mp decoded
    obtain ⟨back, rfl, -⟩ := Text.exists_of_encode_eq_append ascii same.symm
    rw [List.append_assoc, List.singleton_append] at read
    exact encoded?_append dotted read

theorem colon_not_mem_of_toAscii? {bytes : List UInt8} {domain : List Char}
    (read : toAscii? bytes = some domain) : UInt8.ofNat ':'.toNat ∉ bytes := by
  intro member
  unfold toAscii? at read
  split at read
  · have found : ':' ∈ bytes.map fun byte => Char.ofNat byte.toNat :=
      List.mem_map.mpr ⟨_, member, rfl⟩
    rw [lowered?, if_pos (List.any_eq_true.mpr ⟨':', found, isForbidden_colon⟩)] at read
    cases read
  · obtain ⟨text, decoded, read⟩ := Option.bind_eq_some_iff.mp read
    rw [Text.decode?_eq_some_iff.mp decoded] at member
    exact colon_not_mem_of_encoded? read (Text.mem_of_mem_encode (by decide) member)

end Domain

theorem unescape_append {front : List Char} (plain : '%' ∉ front) (back : List Char) :
    unescape (front ++ back) = Text.encode front ++ unescape back := by
  induction front with
  | nil => rfl
  | cons c rest ih =>
    have other : c ≠ '%' := fun same => plain (same ▸ List.mem_cons_self)
    have later := ih fun found => plain (List.mem_cons_of_mem c found)
    rw [List.cons_append, unescape_cons other, later, encode_cons, List.append_assoc]

/-- A colon belongs to no escape, and stands for itself. -/
theorem colon_mem_unescape {text : List Char} (member : ':' ∈ text) :
    UInt8.ofNat ':'.toNat ∈ unescape text := by
  induction text using escape_induction with
  | nil => exact absurd member List.not_mem_nil
  | pair high low h l rest first second ih =>
    have notHigh : ':' ≠ high := by
      rintro rfl
      cases first
    have notLow : ':' ≠ low := by
      rintro rfl
      cases second
    have notSign : ':' ≠ '%' := by decide
    rw [unescape_pair first second]
    simp only [List.mem_cons, notSign, notHigh, notLow, false_or] at member
    exact List.mem_cons_of_mem _ (ih member)
  | single rest none ih =>
    rw [unescape_percent none]
    rcases List.mem_cons.mp member with same | later
    · exact absurd same (by decide)
    · exact List.mem_cons_of_mem _ (ih later)
  | other c rest sign ih =>
    rw [unescape_cons sign]
    rcases List.mem_cons.mp member with rfl | later
    · exact List.mem_append_left _ (by decide)
    · exact List.mem_append_right _ (ih later)

namespace Host

/-- A host that begins with a number between full stops has no colon, and is a name or an address that
begins with that number. -/
theorem readSpecial_append {front back : List Char} {host : Host} (dotted : Dotted front)
    (read : readSpecial (front ++ '.' :: back) = .ok host) :
    ':' ∉ front ++ '.' :: back ∧ ∃ rest, host = .name (front ++ '.' :: rest) ∨
      ∃ address, host = .ipv4 address ∧ readIpv4? (front ++ '.' :: rest) = some address := by
  have whole : front ++ '.' :: back = (front ++ ['.']) ++ back := by
    rw [List.append_assoc, List.singleton_append]
  have plain : '%' ∉ front ++ ['.'] := by
    intro member
    have low := (dotted.append_dot.alone _ member).1
    exact absurd low (by decide)
  have bytes : unescape (front ++ '.' :: back) = Text.encode (front ++ ['.']) ++ unescape back := by
    rw [whole, unescape_append plain]
  unfold readSpecial at read
  split at read
  · next rest same =>
    -- A square bracket is neither a digit nor a full stop.
    obtain ⟨c, more, begins⟩ := List.exists_cons_of_ne_nil (List.append_ne_nil_of_right_ne_nil front
      (List.cons_ne_nil '.' []))
    rw [whole, begins, List.cons_append] at same
    have first : '[' ∈ front ++ ['.'] := begins ▸ (List.cons.inj same).1 ▸ List.mem_cons_self
    exact absurd (dotted.append_dot.alone _ first).2 (by decide)
  · split at read
    · cases read
    · cases read
    · next domain nonempty known =>
      have noColon : ':' ∉ front ++ '.' :: back :=
        fun member => Domain.colon_not_mem_of_toAscii? known (colon_mem_unescape member)
      rw [bytes] at known
      obtain ⟨rest, rfl⟩ := Domain.toAscii?_append dotted known
      refine ⟨noColon, rest, ?_⟩
      split at read
      · cases address : readIpv4? (front ++ '.' :: rest) with
        | none => simp [address] at read
        | some found =>
          obtain rfl : Host.ipv4 found = host := by simpa [address] using read
          exact .inr ⟨found, rfl, rfl⟩
      · exact .inl (Except.ok.inj read).symm

theorem parts_append (front rest : List Char) :
    ∃ more, parts (front ++ '.' :: rest) = Text.split '.' front ++ more := by
  have last : ((Text.split '.' front ++ Text.split '.' rest).dropLast) =
      Text.split '.' front ++ (Text.split '.' rest).dropLast :=
    List.dropLast_append_of_ne_nil (Text.split_ne_nil '.' rest)
  rw [parts, Text.split_append]
  split
  · exact ⟨_, last⟩
  · exact ⟨_, rfl⟩

/-- More than four numbers are no address. -/
theorem ofParts?_of_four_lt {numbers : List Nat} (many : 4 < numbers.length) :
    ofParts? numbers = none := by
  unfold ofParts?
  cases same : numbers.reverse with
  | nil => rfl
  | cons last others =>
    have count := congrArg List.length same
    rw [List.length_reverse, List.length_cons] at count
    exact if_pos (.inl (by rw [List.length_reverse]; omega))

end Host

end LoadProbe.Url
