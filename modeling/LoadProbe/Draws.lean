import LoadProbe.Binary64.Basic

/-!
A random generator as data: the 64-bit numbers it will answer, and the numbers made of them.
-/
namespace LoadProbe

/-- The next answers of a generator, in order; after them it answers zero. -/
structure Draws where
  upcoming : List UInt64
  deriving Repr

namespace Draws

def next : Draws → UInt64 × Draws
  | ⟨[]⟩ => (0, ⟨[]⟩)
  | ⟨draw :: rest⟩ => (draw, ⟨rest⟩)

/-- A number of `[0, 1)` made of the upper 53 bits of a draw. -/
def fraction53 (draw : UInt64) : Binary64 :=
  Binary64.ofQuotient false ((draw.toNat >>> 11) * Binary64.one) (1 <<< 53)

/-- A number of `[0, 1)` made of the upper 52 bits of a draw. -/
def fraction52 (draw : UInt64) : Binary64 :=
  Binary64.ofQuotient false ((draw.toNat >>> 12) * Binary64.one) (1 <<< 52)

/-- A whole number of `count` equally likely ones: the upper word of the product with a draw, unless
the lower word lies in the uneven rest, which draws again. -/
def below (count : Nat) : List UInt64 → Nat × Draws
  | [] => (0, ⟨[]⟩)
  | draw :: rest =>
    let product := draw.toNat * count
    if product % UInt64.size < count <<< (63 - count.log2) then (product / UInt64.size, ⟨rest⟩)
    else below count rest

end Draws
end LoadProbe
