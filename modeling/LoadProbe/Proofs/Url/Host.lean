import LoadProbe.Proofs.Address
import LoadProbe.Proofs.Url.Cuts

/-!
Hosts of schemes without rules of their own: opaque names, and addresses of version 6 in square
brackets. Main statements: `cutHost_chars` and `readOpaque_chars`, a host is found again in an
authority and read back.
-/
namespace LoadProbe.Url.Host

/-- Whether a host is one that schemes without rules of their own have. -/
def Normal : Host → Prop
  | .name text => Kept inControls text ∧ ∀ c ∈ text, isForbidden c = false
  | .ipv4 _ => False
  | .ipv6 _ => True

theorem isForbidden_of_mark {c : Char} (mark : c ∈ ['/', '?', '#', '@', ':', '[', ']', ' ']) :
    isForbidden c = true := by
  have all : ∀ d ∈ ['/', '?', '#', '@', ':', '[', ']', ' '], isForbidden d = true := by
    simp [isForbidden, String.contains_char_eq]
  exact all c mark

theorem isForbidden_digit {c : Char} (digit : (Numeral.digit? 16 c).isSome) :
    isForbidden c = false := by
  have all : ∀ d ∈ hexDigits, isForbidden d = false := by
    simp [hexDigits, isForbidden, String.contains_char_eq]
  exact all c (mem_hexDigits digit)

/-- What is read of a host without rules of its own is such a host. -/
theorem readOpaque_normal {text : List Char} {host : Host} (read : readOpaque text = .ok host) :
    host.Normal := by
  unfold readOpaque at read
  split at read
  · next rest =>
    unfold readIpv6 at read
    split at read
    · next address _ _ =>
      obtain rfl : Host.ipv6 address = host := by simpa using read
      trivial
    · cases read
  · split at read
    · cases read
    · next allowed =>
      obtain rfl : Host.name (escape inControls text) = host := by simpa using read
      refine ⟨kept_escape spares_inControls text, fun c member => ?_⟩
      rcases mem_escape member with ⟨found, _⟩ | rfl | digit
      · simpa using fun forbidden => allowed (List.any_eq_true.mpr ⟨c, found, forbidden⟩)
      · simp [isForbidden, String.contains_char_eq]
      · exact isForbidden_digit digit

theorem not_mem_of_isForbidden {text : List Char} {c : Char}
    (free : ∀ c ∈ text, isForbidden c = false) (forbidden : isForbidden c = true) : c ∉ text := by
  intro member
  rw [free c member] at forbidden
  cases forbidden

/-- The address between square brackets reads back. -/
theorem readIpv6_chars (address : Ipv6) :
    readIpv6 (address.chars ++ [']']) = .ok (.ipv6 address) := by
  simp [readIpv6, Ipv6.read?_chars]

theorem readOpaque_chars {host : Host} (normal : host.Normal) :
    readOpaque host.chars = .ok host := by
  cases host with
  | name text =>
    have missing := not_mem_of_isForbidden normal.2 (isForbidden_of_mark (c := '[') (by simp))
    have allowed : text.any isForbidden = false := by simpa using normal.2
    rw [chars, readOpaque]
    · rw [allowed, normal.1.escape_eq]
      rfl
    · rintro rest rfl
      exact missing List.mem_cons_self
  | ipv4 address => exact normal.elim
  | ipv6 address => exact readIpv6_chars address

/-- The characters of a host between brackets belong to it. -/
theorem cutHost_bracketed {inner : List Char} (none : ']' ∉ inner) (rest : List Char) :
    cutHost true (inner ++ ']' :: rest) =
      (inner ++ ']' :: (cutHost false rest).1, (cutHost false rest).2) := by
  induction inner with
  | nil => simp [cutHost]
  | cons c more ih =>
    have other : c ≠ ']' := fun same => none (same ▸ List.mem_cons_self)
    have later : ']' ∉ more := fun found => none (List.mem_cons_of_mem c found)
    simp [cutHost, other, ih later]

theorem cutHost_ends {rest : List Char} (ends : ∀ c ∈ rest.head?, c = ':') :
    cutHost false rest = ([], rest) := by
  cases rest with
  | nil => rfl
  | cons c more => simp [cutHost, ends c rfl]

theorem cutHost_name {text : List Char} (free : ∀ c ∈ text, isForbidden c = false)
    {rest : List Char} (ends : ∀ c ∈ rest.head?, c = ':') :
    cutHost false (text ++ rest) = (text, rest) := by
  have colon : isForbidden ':' = true := isForbidden_of_mark (by simp)
  have left : isForbidden '[' = true := isForbidden_of_mark (by simp)
  have right : isForbidden ']' = true := isForbidden_of_mark (by simp)
  induction text with
  | nil => exact cutHost_ends ends
  | cons c more ih =>
    have known : isForbidden c = false := free c List.mem_cons_self
    have notColon : c ≠ ':' := by rintro rfl; simp [colon] at known
    have notLeft : c ≠ '[' := by rintro rfl; simp [left] at known
    have notRight : c ≠ ']' := by rintro rfl; simp [right] at known
    have later := ih fun other member => free other (List.mem_cons_of_mem c member)
    simp [cutHost, notColon, notLeft, notRight, later]

/-- The text of a host is cut off where its port begins. -/
theorem cutHost_chars {host : Host} (normal : host.Normal) {rest : List Char}
    (ends : ∀ c ∈ rest.head?, c = ':') : cutHost false (host.chars ++ rest) = (host.chars, rest) := by
  cases host with
  | name text => exact cutHost_name normal.2 ends
  | ipv4 address => exact normal.elim
  | ipv6 address =>
    have none : ']' ∉ address.chars := by
      intro member
      rcases Ipv6.mem_chars member with same | digit
      · exact absurd same (by decide)
      · exact absurd digit (by decide)
    have inside := cutHost_bracketed none rest
    rw [cutHost_ends ends] at inside
    simp [chars, cutHost, inside]

/-- Which characters the text of a host may have. -/
theorem mem_chars {host : Host} (normal : host.Normal) {c : Char} (member : c ∈ host.chars) :
    (inControls c = false ∧ isForbidden c = false) ∨ c = '[' ∨ c = ']' ∨ c = ':' := by
  cases host with
  | name text => exact .inl ⟨(normal.1 c member).2, normal.2 c member⟩
  | ipv4 address => exact normal.elim
  | ipv6 address =>
    simp only [chars, List.cons_append, List.mem_cons, List.mem_append, List.not_mem_nil,
      or_false] at member
    rcases member with left | inside | right
    · exact .inr (.inl left)
    · rcases Ipv6.mem_chars inside with colon | digit
      · exact .inr (.inr (.inr colon))
      · exact .inl ⟨spares_inControls.2 c digit, isForbidden_digit digit⟩
    · exact .inr (.inr (.inl right))

/-- No mark that ends an authority or stands before a host is in the text of one. -/
theorem not_mem_chars {host : Host} (normal : host.Normal) {c : Char}
    (mark : c ∈ ['/', '?', '#', '@']) : c ∉ host.chars := by
  have wide : ['/', '?', '#', '@'] ⊆ ['/', '?', '#', '@', ':', '[', ']', ' '] := by simp
  intro member
  rcases mem_chars normal member with ⟨_, free⟩ | rfl | rfl | rfl
  · rw [isForbidden_of_mark (wide mark)] at free
    cases free
  all_goals exact absurd mark (by decide)

theorem solid_chars {host : Host} (normal : host.Normal) : Solid host.chars := by
  intro c member
  rcases mem_chars normal member with ⟨controls, free⟩ | rfl | rfl | rfl
  · apply lt_of_not_inControls controls
    rintro rfl
    rw [isForbidden_of_mark (by simp)] at free
    cases free
  all_goals decide

end LoadProbe.Url.Host
