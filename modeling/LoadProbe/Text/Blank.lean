/-!
Blank characters and the text between them. Main statement: `trim_eq_self`, a text without blanks at
its ends is left as it is.
-/
namespace LoadProbe.Text

/-- The characters of the Unicode property White_Space. -/
def isBlank (c : Char) : Bool :=
  ('\t' ≤ c && c ≤ '\r') || c == ' ' || c == '\u0085' || c == '\u00a0' || c == '\u1680' ||
    ('\u2000' ≤ c && c ≤ '\u200a') || c == '\u2028' || c == '\u2029' || c == '\u202f' ||
    c == '\u205f' || c == '\u3000'

def trimStart (text : List Char) : List Char := text.dropWhile isBlank

def trimEnd (text : List Char) : List Char := (text.reverse.dropWhile isBlank).reverse

/-- A text without the blanks at its ends. -/
def trim (text : List Char) : List Char := trimEnd (trimStart text)

/-- A text with neither end blank is left as it is. -/
theorem trim_eq_self {text : List Char} (start : ∀ c ∈ text.head?, isBlank c = false)
    (finish : ∀ c ∈ text.getLast?, isBlank c = false) : trim text = text := by
  have front : trimStart text = text := by
    cases text with
    | nil => rfl
    | cons c rest => simp [trimStart, start c rfl]
  have back : trimEnd text = text := by
    unfold trimEnd
    cases split : text.reverse with
    | nil => simp_all
    | cons c rest =>
      have last : text.getLast? = some c := by rw [← List.head?_reverse, split]; rfl
      rw [List.dropWhile_cons, finish c (by simp [last])]
      simp [← split]
  rw [trim, front, back]

end LoadProbe.Text
