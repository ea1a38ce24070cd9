import LoadProbe.Text.Table

/-!
Combining marks and their classes: marks of one class stand in the same place at a character, so
that their order matters.
-/
namespace LoadProbe.Text

/-- The combining marks, each run with its class. -/
def markRuns : List Table.Run := Table.runs 0 (Table.rows
  ["300 15.e6 1.e8 4.dc 1.e8 1.d8 5.dc 2.ca 4.dc 2.ca b.dc 5.1 4.dc a.e6 3.dc 3.e6 2.dc 1 3.e6",
   "4.dc 1.e6 1.e8 2.dc 1.e6 1.e9 2.ea 1.e9 2.ea 1.e9 d.e6 113 5.e6 2.0 107 1.dc 4.e6 1.dc 3.e6",
   "1.de 1.dc 6.e6 6.dc 2.e6 1.dc 2.e6 1.de 1.e4 1.e6 1.a 1.b 1.c 1.d 1.e 1.f 1.10 1.11 1.12 2.13",
   "1.14 1.15 1.16 1 1.17 1 1.18 1.19 1 1.e6 1.dc 1 1.12 48 8.e6 1.1e 1.1f 1.20 30 1.1b 1.1c 1.1d",
   "1.1e 1.1f 1.20 1.21 1.22 2.e6 2.dc 5.e6 1.dc 2.e6 1.dc 10 1.23 65 7.e6 2 4.e6 1.dc 1.e6 2 2.e6",
   "1 1.dc 2.e6 1.dc 23 1.24 1e 1.e6 1.dc 2.e6 1.dc 2.e6 3.dc 1.e6 2.dc 1.e6 1.dc 3.e6 1.dc 1.e6",
   "1.dc 1.e6 1.dc 1.e6 1.dc 2.e6 5b b.0 3a 7.e6 1.dc 1.e6 9 1.dc 18 4.e6 1 9.e6 1 3.e6 1 5.e6 2b",
   "3.dc 3c 1.e6 3.dc 4.e6 2a 5.e6 5.dc e.e6 1 1.dc 2.e6 1.dc 2.e6 1.dc 3.e6 3.dc 1.1b 1.1c 1.1d",
   "3.e6 1.dc 2.e6 2.dc 5.e6 4.0 36 2.0 1.7 1 f.0 1.9 2.0 1 1.e6 1.dc 2.e6 3.0 a 2.0 1d 3.0 38 1.7",
   "1 f.0 1.9 9 1.0 a 2.0 1a 1.e6 2 3.0 38 1.7 1 f.0 1.9 3 1.0 1e 2.0 3 1.0 b 3.0 38 1.7 1 f.0 1.9",
   "14 2.0 16 a.0 38 1.7 1 f.0 1.9 7 3.0 a 2.0 1e 1.0 3b f.0 1.9 9 1.0 28 5.0 37 1.7 1 f.0 1.9 7",
   "1.54 1.5b b 2.0 1d 3.0 38 1.7 1 f.0 1.9 7 2.0 b 2.0 1c 4.0 37 2.9 1 f.0 1.9 9 1.0 a 2.0 1d 3.0",
   "46 1.9 4 11.0 12 2.0 3d 1.0 2 4.0 2.67 1.9 c 1.0 4.6b 3.0 62 1.0 2 4.0 2.76 1.9 2.0 b 4.7a 2.0",
   "4a 2.dc 1b 1.dc 1 1.dc 1 1.d8 4 2.0 31 1.81 1.82 1 1.84 5 4.82 2.0 1.82 1 2.e6 1.9 1 2.e6 5",
   "30.0 9 1.dc 64 c.0 1.7 1.0 2.9 4.0 17 4.0 4 3.0 1 3.0 2 7.0 3 4.0 d b.0 1.dc 1 1.0 a 4.0 2bf",
   "3.e6 3b2 2.0 2.9 1c 2.0 1.9 1d 2.0 1e 2.0 42 1c.0 1.9 1.0 9 1.e6 a7 2.0 22 1.e4 76 19.0 1.de",
   "1.e6 1.dc db 1.e6 1.dc 3.0 39 a.0 1 1.9 14.0 8.e6 2 1.dc 30 5.e6 6.dc 2.e6 1.dc 1.0 2.dc 2.e6",
   "2.dc 5.e6 1.dc 4.e6 31 5.0 2f 1.7 f.0 1.9 26 1.e6 1.dc 7.e6 c 3.0 1e 9.0 2.9 2.0 38 1.7 b.0",
   "2.9 30 13.0 1.7 98 3.e6 1 1.1 5.dc 2.e6 4.dc 1.e6 1.0 7.1 4 1.dc 6 1.e6 2 1.0 2.e6 c6 2.e6",
   "1.dc 7.e6 1.dc 2.e6 1.ea 1.d6 1.dc 1.ca 25.e6 1.e8 2.e4 1.dc 1.da 1.e6 1.e9 1.dc 1.e6 1.dc 2d0",
   "2.e6 2.1 4.e6 3.1 2.e6 4.0 1.e6 3.0 2.1 1.e6 1.dc 1.e6 2.1 4.dc 1.e6 bfe 3.e6 8d 1.9 60 20.e6",
   "22a 1.da 1.e4 1.e8 1.de 2.e0 69 2.8 75d4 1.e6 3.0 1 a.e6 20 2.e6 50 2.e6 110 1.0 3 1.9 4 1.0",
   "17 5.0 4 1.9 53 2.0 32 10.0 1.9 1.0 1a 12.e6 d 1.0 26 5.0 3.dc 19 c.0 1.9 2c 4.0 2f 1.7 c.0",
   "1.9 24 1.0 43 e.0 c 1.0 8 2.0 2d 3.0 32 1.e6 1 2.e6 1.dc 2 2.e6 5 2.e6 1 1.e6 29 5.0 5 1.0 1.9",
   "ec 8.0 1 1.0 1.9 4f30 1.1a 301 7.e6 7.dc 2.e6 3cd 1.dc e2 1.dc 95 5.e6 686 c.0 1.dc 1.0 1.e6",
   "28 1.e6 1.1 1.dc 4 1.9 a5 1.e6 1.dc 23d 4.e6 183 2.e6 99 2.dc 3.e6 1.dc 1.e6 4.dc 31 1.e6 1.dc",
   "1.e6 1.dc 7a 3.0 35 e.0 1.9 29 1.9 2 2.0 a 1.9 3.0 2d 9.0 1.9 1.7 7 1.0 3d 3.e6 24 c.0 2.9 10",
   "2.0 2c 1.7 c 3.0 30 d.0 1.9 8 1.0 1.7 2.0 1 2.0 5c 9.0 1.9 1.7 1.0 6 1.0 a0 a.0 1.7 1.9 15 4.0",
   "37 2.7 1 f.0 1.9 9 1.0 a 2.0 2 f.e6 c0 d.0 1.9 3.0 1.7 17 1.e6 51 12.0 1.9 1.7 eb 10.0 1.9 1.7",
   "1b 2.0 52 f.0 1.9 1.0 6a b.0 1.9 1.7 65 e.0 1.9 100 d.0 1.9 1.7 f5 d.0 2.9 1 1.0 1 1.0 1.7 8d",
   "f.0 1.9 3 1.0 1c a.0 28 1.0 1.9 5.0 1 4.0 8 1.9 9 b.0 2e f.0 1.9 195 10.0 1.9 52 25.0 7a 11.0",
   "1.7 1.0 2.9 1 1.0 42 d.0 1.9 15b 4.0 4bf9 5.1 3b 7.e6 418 1.0 1 42.0 51 1.0 b 2.6 4cab 1.0 1.1",
   "1261 47.0 21e 2.d8 3.1 3 1.e2 5.d8 8 8.dc 2 5.e6 2.dc 1e 4.e6 94 3.e6 7bb 37.0 4 32.0 8 1.0 e",
   "1.0 16 15.0 550 2b.e6 105 7.e6 177 1.e6 3d 4.e6 5e0 7.dc 6d 6.e6 1.7"])

/-- The class of a combining mark; no other character has one. -/
def markClass? (c : Char) : Option Nat := (Table.find? markRuns c).bind (·.facts.head?)

def isMark (c : Char) : Bool := (markClass? c).isSome

/-- The class by which characters are ordered; zero for those that keep their place. -/
def combiningClass (c : Char) : Nat := if c.toNat < 128 then 0 else (markClass? c).getD 0

/-- The class of the marks that join two consonants into one letter. -/
def joinerClass : Nat := 9

end LoadProbe.Text
