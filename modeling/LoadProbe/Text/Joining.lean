import LoadProbe.Text.Table

/-!
How the letters of cursive scripts join their neighbours.
-/
namespace LoadProbe.Text

inductive Joining where
  | bothSides
  | leftSide
  | rightSide
  /-- Joining passes through the character, as through a mark. -/
  | transparent
  deriving DecidableEq, Repr

/-- The characters that join, or that joining passes through. -/
def joiningRuns : List Table.Run := Table.runs 0 (Table.rows
  ["300 70.3 113 7.3 107 2d.3 1 1.3 1 2.3 1 2.3 1 1.3 48 b.3 5 1.0 1 4.2 1.0 1.2 1.0 1.2 5.0 4.2",
   "d.0 1 7.0 1.2 2.0 15.3 e 2.0 1.3 3.2 5 f.0 12.2 26.0 1.2 2.0 9.2 1.0 1.2 1.0 1.2 2.0 2.2 1 1.2",
   "7.3 2 6.3 2 2.3 1 4.3 2.2 a 3.0 2 1.0 10 1.2 1.3 3.0 5.2 4.0 1.2 9.0 1.2 1.0 1.2 1.0 1.2 2.0",
   "1.2 1b.3 2 1.2 b.0 3.2 f.0 2.2 4.0 1.2 1.0 2.2 3.0 2.2 6.0 26 b.3 19 21.0 9.3 9 1.3 18 4.3 1",
   "9.3 1 3.3 1 5.3 12 1.2 5.0 2.2 1.0 1.2 a.0 1.2 1.0 3.2 3.3 4 1.0 1 4.0 1 1.2 1.0 1a.2 3 1.0 2",
   "5.0 1.2 1.0 7 9.3 a.0 3.2 1 1.2 2.0 2.2 6.0 1.2 f.0 1 39.3 37 1.3 1 1.3 4 8.3 4 1.3 3 7.3 a",
   "2.3 1d 1.3 3a 1.3 4 4.3 8 1.3 14 2.3 1a 5.3 39 1.3 4 11.3 1e 2.3 3 1.3 b 2.3 39 1.3 4 8.3 4",
   "1.3 14 2.3 16 8.3 3a 1.3 2 1.3 1 4.3 8 a.3 b 2.3 1e 1.3 3d 1.3 c 1.3 32 1.3 3 1.3 37 1.3 1 3.3",
   "5 11.3 b 2.3 1d 1.3 3a 1.3 2 1.3 6 1.3 5 2.3 14 2.3 1c 2.3 39 2.3 4 4.3 8 1.3 14 2.3 1d 1.3 48",
   "1.3 7 5.3 5a 1.3 2 7.3 c 8.3 62 1.3 2 9.3 b 7.3 49 2.3 1b 1.3 1 1.3 1 1.3 37 e.3 1 5.3 1 2.3 5",
   "30.3 9 1.3 66 4.3 1 6.3 1 2.3 2 2.3 19 2.3 4 3.3 10 4.3 d 1.3 2 2.3 6 1.3 f 1.3 2bf 3.3 3b2",
   "3.3 1d 2.3 1e 2.3 1e 2.3 43 7.3 8 1.3 2 b.3 9 1.3 29 1.0 18 59.0 c 2.3 22.0 1.3 1.0 75 3.3 4",
   "2.3 9 1.3 6 3.3 db 2.3 2 1.3 3a 1.3 1 9.3 1 1.3 2 8.3 6 d.3 30 54.3 30 1.3 1 5.3 1 1.3 5 1.3",
   "28 9.3 c 2.3 20 4.3 2 2.3 1 3.3 38 1.3 1 2.3 3 1.3 1 3.3 3a 8.3 2 2.3 98 3.3 1 d.3 1 7.3 4 1.3",
   "6 1.3 3 2.3 c6 40.3 2d0 21.3 bfe 3.3 8d 1.3 60 20.3 22a 4.3 6b 2.3 75d4 4.3 1 a.3 20 2.3 50",
   "2.3 110 1.3 3 1.3 4 1.3 19 2.3 5 1.3 13 32.0 1.1 51 2.3 1a 12.3 d 1.3 26 8.3 19 b.3 2e 3.3 30",
   "1.3 2 4.3 2 2.3 27 1.3 43 6.3 2 2.3 2 2.3 c 1.3 8 1.3 2f 1.3 33 1.3 1 3.3 2 2.3 5 2.3 1 1.3 2a",
   "2.3 8 1.3 ee 1.3 2 1.3 4 1.3 4f30 1.3 301 10.3 3cd 1.3 e2 1.3 95 5.3 686 f.3 28 8.3 80 5.0 1.2",
   "1 1.2 1 2.2 2 1.1 5.2 4.0 1.1 5.0 1.2 3.0 1.2 2 1.2 2.3 4 4.0 1.2 90 1.0 1.2 1.0 3.2 3.0 1.2",
   "2.0 1.2 1.0 2.2 1.0 1.2 17 4.2 2.0 151 1.1 21.0 1.2 1.0 4.3 41 5.3 13d 2.3 15 1.2 2.0 1 2.0 32",
   "6.3 30 3.0 1.2 11.0 1 b.3 3.0 1.2 1b 4.0 2.2 c.0 4.3 2a 1.0 1 2.0 3.2 1 1.0 2.2 2.0 1.2 2.0 1",
   "1.0 2.2 1.0 4 1.2 1.0 1.1 35 1.3 36 f.3 29 1.3 2 2.3 a 3.3 31 4.3 2 2.3 7 1.3 3d 3.3 24 5.3 1",
   "8.3 3e 1.3 c 2.3 34 9.3 a 4.3 2 1.3 5f 3.3 2 1.3 1 2.3 6 1.3 2 1.3 9d 1.3 3 8.3 15 2.3 39 2.3",
   "3 1.3 25 f.3 46 6.3 d 1.3 1 1.3 1 1.3 e 2.3 55 8.3 2 3.3 1 1.3 17 1.3 54 6.3 1 1.3 4 2.3 1 2.3",
   "ee 4.3 6 2.3 1 2.3 1b 2.3 55 8.3 2 1.3 1 2.3 6a 1.3 1 1.3 2 6.3 1 1.3 65 1.3 1 1.3 2 4.3 1 5.3",
   "103 9.3 1 2.3 100 2.3 1 1.3 4 1.3 90 8.3 4 1.3 20 a.3 28 6.3 2 4.3 8 1.3 9 6.3 2 3.3 2e d.3 1",
   "2.3 c6 1.3 1 3.3 1 1.3 c9 e.3 1 1.3 52 16.3 2 7.3 1 2.3 1 2.3 7a 15.3 1 1.3 48 2.3 3 1.3 1 1.3",
   "15b 2.3 b 2.3 34 5.3 5 1.3 1 1.3 17 1.3 14e5 1.3 6 f.3 2cc8 c.3 3 3.3 9c0 5.3 3b 7.3 418 1.3",
   "3f 4.3 51 1.3 4cb8 2.3 1261 47.3 220 3.3 11 8.3 2 7.3 1e 4.3 94 3.3 7bb 37.3 4 32.3 8 1.3 e",
   "1.3 16 15.3 550 90.3 a0 7.3 177 1.3 3d 4.3 1fc 4.3 fe 2.3 f3 1.3 2 1.3 7 2.3 5 1.3 1da 7.3 4b",
   "22.0 8.3"])

def joining? (c : Char) : Option Joining :=
  (Table.find? joiningRuns c).bind fun run =>
    match run.facts with
    | [0] => some .bothSides
    | [1] => some .leftSide
    | [2] => some .rightSide
    | [3] => some .transparent
    | _ => none

/-- Whether a character joins the one on its left, which is the next one in cursive scripts. -/
def joinsNext (c : Char) : Bool := joining? c = some .bothSides || joining? c = some .leftSide

/-- Whether a character joins the one before it. -/
def joinsPrevious (c : Char) : Bool := joining? c = some .bothSides || joining? c = some .rightSide

end LoadProbe.Text
