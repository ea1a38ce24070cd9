import LoadProbe.Text.Table

/-!
The direction in which characters are written.
-/
namespace LoadProbe.Text

inductive Direction where
  | leftToRight
  | rightToLeft
  | digit
  | arabicDigit
  /-- Signs and separators, written in the direction of what surrounds them. -/
  | neutral
  | mark
  deriving DecidableEq, Repr

/-- What is not written from left to right. -/
def directionRuns : List Table.Run := Table.runs 0 (Table.rows
  ["a1 37.3 1f 1.3 1c1 2.3 7 e.3 2 1c.3 1 11.3 70.4 5 1.3 80 1.3 8c 7.4 100 6.3 1 2d.4 1.0 1.4 1.0",
   "2.4 1.0 2.4 1.0 1.4 8 25.0 11 2.3 1.0 2.3 1.0 1.3 1.0 2.3 b.4 30.0 15.4 a.2 1.3 2.2 3.0 1.4",
   "65.0 7.4 1 1.3 6.4 2.0 2.4 1.3 4.4 2.0 a.1 17.0 1.4 1e.0 1b.4 2 59.0 b.4 3a.0 9.4 2.0 4.3 1.0",
   "2 1.4 18.0 4.4 1.0 9.4 1.0 3.4 1.0 5.4 2 29.0 3.4 2 31.0 9 8.4 2a.0 39.4 37 1.4 1 1.4 4 8.4 4",
   "1.4 3 7.4 a 2.4 1d 1.4 3a 1.4 4 4.4 8 1.4 14 2.4 e 2.3 7 1.3 2 5.4 39 1.4 4 11.4 1e 2.4 3 1.4",
   "b 2.4 39 1.4 4 8.4 4 1.4 14 2.4 d 1.3 8 8.4 3a 1.4 2 1.4 1 4.4 8 a.4 b 2.4 1e 1.4 3d 1.4 c 1.4",
   "25 8.3 5 1.4 3 1.4 37 1.4 1 3.4 5 11.4 b 2.4 14 7.3 2 1.4 3a 1.4 f 2.4 14 2.4 1c 2.4 39 2.4 4",
   "4.4 8 1.4 14 2.4 1d 1.4 48 1.4 7 5.4 5a 1.4 2 7.4 4 1.3 7 8.4 62 1.4 2 9.4 b 6.4 4a 2.4 1b 1.4",
   "1 1.4 1 1.4 4.3 33 e.4 1 5.4 1 2.4 5 30.4 9 1.4 66 4.4 1 6.4 1 2.4 2 2.4 19 2.4 4 3.4 10 4.4 d",
   "1.4 2 2.4 6 1.4 f 1.4 2bf 3.4 30 a.3 66 1.3 29a 2.3 75 3.4 1d 2.4 1e 2.4 1e 2.4 43 7.4 8 1.4 2",
   "b.4 7 1.3 1 1.4 12 1b.3 7a 2.4 22 1.4 76 3.4 4 2.4 9 1.4 6 3.4 4 6.3 98 22.3 17 2.4 2 1.4 3a",
   "1.4 1 9.4 1 1.4 2 8.4 6 d.4 30 1f.4 31 4.4 30 1.4 1 5.4 1 1.4 5 1.4 28 9.4 c 2.4 20 4.4 2 2.4",
   "1 3.4 38 1.4 1 2.4 3 1.4 1 3.4 3a 8.4 2 2.4 98 3.4 1 d.4 1 7.4 4 1.4 6 1.4 3 2.4 c6 40.4 20c",
   "b5.3 f 21.4 13 4a.3 3c 1ac.3 45 1a.3 1 91.3 19 26c.3 1 153.3 100 296.3 1 69.3 e5 6.3 4 3.4 7",
   "7.3 7f 1.4 60 20.4 205.3 3 19.3 9 4.4 2 1.3 6 1.3 5 3.3 59 2.4 5 1.3 5a 1.3 c4 24.3 1bdc 40.3",
   "5690 37.3 146 3.3 5f 4.4 1.3 a.4 2.3 1e 2.4 50 2.4 e 22.3 66 1.3 79 1.4 3 1.4 4 1.4 19 2.4 1",
   "4.3 1.4 b 2.3 3a 4.3 4c 2.4 1a 12.4 d 1.4 26 8.4 19 b.4 2e 3.4 30 1.4 2 4.4 2 2.4 27 1.4 43",
   "6.4 2 2.4 2 2.4 c 1.4 8 1.4 2f 1.4 33 1.4 1 3.4 2 2.4 5 2.4 1 1.4 2a 2.4 8 1.4 73 2.3 79 1.4 2",
   "1.4 4 1.4 4f30 1.4 93 11.0 17b 12.3 7f 31.3 20 10.4 15 2.3 2c 1.0 28d 1.3 3e 4d.3 3 11.3 5c",
   "1.4 e2 1.4 1b.1 7a 5.4 485 11c.0 3 1.3 20.0 40 81.0 f.4 26.0 2 8.4 a5.0 2.4 4 4b.0 3 7.3 1e4.0",
   "4.4 8 a.2 126 1f.2 1 2a.0 1 2.4 5.0 4e 46.0 b.4 31.0 4.4 71.0 a 1.4 36 f.4 b 14.3 a 1.4 2 2.4",
   "a 3.4 31 4.4 2 2.4 7 1.4 3d 3.4 24 5.4 1 8.4 3e 1.4 c 2.4 34 9.4 a 4.4 2 1.4 5f 3.4 2 1.4 1",
   "2.4 6 1.4 a0 1.4 3 8.4 15 2.4 39 2.4 3 1.4 25 f.4 c3 8.4 2 3.4 1 1.4 17 1.4 54 6.4 1 1.4 4 2.4",
   "1 2.4 ee 4.4 6 2.4 1 2.4 1b 2.4 55 8.4 2 1.4 1 2.4 1f d.3 3e 1.4 1 1.4 2 6.4 1 1.4 65 3.4 2",
   "4.4 1 5.4 103 9.4 1 2.4 100 2.4 1 1.4 4 1.4 90 8.4 4 1.4 20 6.4 2 2.4 28 6.4 2 4.4 8 1.4 9 6.4",
   "2 3.4 2e d.4 1 2.4 196 e.4 54 16.4 2 7.4 1 2.4 1 2.4 7a 15.4 1 1.4 48 2.4 3 1.4 1 1.4 15b 2.4",
   "e0 1d.3 4afe 5.4 3b 7.4 418 1.4 3f 4.4 4f 1.3 1 1.4 4cb8 2.4 1261 47.4 220 3.4 11 8.4 2 7.4 1e",
   "4.4 3b 59.3 3.4 1.3 ba 57.3 6a9 37.4 4 32.4 8 1.4 e 1.4 16 15.4 550 2b.4 105 7.4 177 1.4 3d",
   "4.4 f 1.3 500 d0.0 7.4 4b 22.0 7.4 3f3.0 1b2 240.3 3d 3.3 3d 1.3 b2 478.3 5 97.3 c 59.3 7 d2.3",
   "4e 154.3 c 15.3 3 f.3 9 1d.3 3 b.3 5 6.3 a a.3 6 8.3 8 7.3 9 cb.3"])

def Direction.ofFact : Nat → Direction
  | 0 => .rightToLeft
  | 1 => .digit
  | 2 => .arabicDigit
  | 3 => .neutral
  | _ => .mark

def direction (c : Char) : Direction :=
  if c.toNat < 128 then
    if c.isAlpha then .leftToRight else if c.isDigit then .digit else .neutral
  else
    match (Table.find? directionRuns c).bind (·.facts.head?) with
    | some fact => .ofFact fact
    | none => .leftToRight

end LoadProbe.Text
