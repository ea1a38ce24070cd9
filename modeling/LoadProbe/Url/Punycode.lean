/-!
Punycode: a text as ASCII letters, digits and hyphens. The ASCII characters come first; then, from
the lowest on, how far on from the last one each other character is to be put in. Such a distance
is a number whose digits have weights that adapt to the size of the distances before it.
-/
namespace LoadProbe.Url.Punycode

/-- The character of a digit below thirty-six. -/
def digitChar (digit : Nat) : Char :=
  if digit < 26 then Char.ofNat ('a'.toNat + digit) else Char.ofNat ('0'.toNat + (digit - 26))

def digit? (c : Char) : Option Nat :=
  if 'a' ≤ c ∧ c ≤ 'z' then some (c.toNat - 'a'.toNat)
  else if 'A' ≤ c ∧ c ≤ 'Z' then some (c.toNat - 'A'.toNat)
  else if '0' ≤ c ∧ c ≤ '9' then some (c.toNat - '0'.toNat + 26)
  else none

/-- The least digit at a place that is not the last of its number. -/
def threshold (place bias : Nat) : Nat := min 26 (max 1 (place - bias))

/-- Halves of a distance that the next one is taken to be near to, and the bias they lead to. -/
def settle (distance bias : Nat) : Nat :=
  if distance ≤ 455 then bias + 36 * distance / (distance + 38)
  else settle (distance / 35) (bias + 36)

/-- The bias after a distance, with the count of characters that are now in place. -/
def adapt (distance count : Nat) (isFirst : Bool) : Nat :=
  let scaled := if isFirst then distance / 700 else distance / 2
  settle (scaled + scaled / count) 0

theorem threshold_pos (place bias : Nat) : 1 ≤ threshold place bias := by
  unfold threshold; omega

/-- The digits of a distance, the one of least weight first. -/
def digits (bias place distance : Nat) : List Char :=
  let least := threshold place bias
  if distance < least then [digitChar distance]
  else
    digitChar (least + (distance - least) % (36 - least)) ::
      digits bias (place + 36) ((distance - least) / (36 - least))
termination_by distance
decreasing_by
  have positive := threshold_pos place bias
  exact Nat.lt_of_le_of_lt (Nat.div_le_self _ _) (by omega)

/-- What has been written of a text. -/
structure Writing where
  written : List Char
  distance : Nat
  bias : Nat
  /-- How many characters are in place. -/
  count : Nat
  isFirst : Bool

/-- Passes one character of the text while those of one code are written. -/
def Writing.pass (code : Nat) (writing : Writing) (c : Char) : Writing :=
  if c.toNat < code then { writing with distance := writing.distance + 1 }
  else if c.toNat = code then
    { written := writing.written ++ digits writing.bias 36 writing.distance
      distance := 0
      bias := adapt writing.distance (writing.count + 1) writing.isFirst
      count := writing.count + 1
      isFirst := false }
  else writing

/-- Writes all characters of each code, in the order of the codes. -/
def Writing.passAll (text : List Char) (reached : Nat) : List Nat → Writing → Writing
  | [], writing => writing
  | code :: codes, writing =>
    let far := writing.distance + (code - reached) * (writing.count + 1)
    let passed := text.foldl (pass code) { writing with distance := far }
    passAll text (code + 1) codes { passed with distance := passed.distance + 1 }

def isAscii (c : Char) : Bool := c.toNat < 128

def encode (text : List Char) : List Char :=
  let plain := text.filter isAscii
  let codes := (((text.filter (!isAscii ·)).map Char.toNat).mergeSort (· ≤ ·)).eraseDups
  let start := if plain = [] then [] else plain ++ ['-']
  (Writing.passAll text 128 codes ⟨start, 0, 72, plain.length, true⟩).written

/-- What has been read of a text: the characters in place, the last one put in and the number that
is being read. -/
structure Reading where
  text : List Char
  code : Nat
  position : Nat
  bias : Nat
  isFirst : Bool
  distance : Nat
  weight : Nat
  place : Nat

def Reading.start (plain : List Char) : Reading := ⟨plain, 128, 0, 72, true, 0, 1, 36⟩

/-- Puts in the next character, if the distance leads to one. -/
def Reading.insert? (reading : Reading) : Option Reading :=
  let count := reading.text.length + 1
  let total := reading.position + reading.distance
  let code := reading.code + total / count
  if code.isValidChar then
    let position := total % count
    some
      { text := reading.text.insertIdx position (Char.ofNat code)
        code := code
        position := position + 1
        bias := adapt reading.distance count reading.isFirst
        isFirst := false
        distance := 0
        weight := 1
        place := 36 }
  else none

/-- Reads digits up to the end of a number. -/
def Reading.finish? (reading : Reading) : List Char → Option (List Char)
  | [] => if reading.place = 36 then some reading.text else none
  | c :: rest =>
    match digit? c with
    | none => none
    | some digit =>
      let least := threshold reading.place reading.bias
      let read := { reading with distance := reading.distance + digit * reading.weight }
      if digit < least then
        match read.insert? with
        | some next => next.finish? rest
        | none => none
      else
        Reading.finish?
          { read with weight := reading.weight * (36 - least), place := reading.place + 36 } rest

/-- The text that a Punycode text stands for. -/
def decode? (written : List Char) : Option (List Char) :=
  let backwards := written.reverse
  let rest := (backwards.takeWhile (· ≠ '-')).reverse
  let plain := (backwards.dropWhile (· ≠ '-')).drop 1 |>.reverse
  if written.all isAscii then (Reading.start plain).finish? rest else none

end LoadProbe.Url.Punycode
