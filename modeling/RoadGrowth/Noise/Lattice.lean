import RoadGrowth.Fault
import RoadGrowth.Numeric.Rounding

/-!
# Value noise on a lattice

Every corner of the integer lattice has a height out of 256, found through a
shuffled table of the numbers below 256. Between corners the height is blended
along smooth weights. `Lattice.value` is defined where both coordinates have an
integer part of 64 signed bits.
-/

namespace RoadGrowth.Noise

open Numeric

/-- The four words of the generator that shuffles a table. -/
structure Shuffler where
  first : UInt32
  second : UInt32
  third : UInt32
  fourth : UInt32
  deriving DecidableEq

namespace Shuffler

/-- The generator of a seed. -/
def ofSeed (seed : UInt32) : Shuffler := ⟨1, seed, seed, seed⟩

/-- The next word and the generator after it. -/
def next (state : Shuffler) : UInt32 × Shuffler :=
  let mixed := state.first ^^^ (state.first <<< 11)
  let word := state.fourth ^^^ (state.fourth >>> 19) ^^^ (mixed ^^^ (mixed >>> 8))
  (word, ⟨state.second, state.third, state.fourth, word⟩)

/-- A number up to `last`, each as likely as the others: a word is taken again
when it falls into the uneven rest of its range. At least half of all words are
good, so the number of tries is not a limit that is met. -/
def upTo (last : Nat) : (tries : Nat) → Shuffler → Fin (last + 1) × Shuffler
  | 0, state => (0, state)
  | tries + 1, state =>
    let drawn := state.next
    let product := drawn.1.toNat * (last + 1)
    if product % UInt32.size < (last + 1) <<< (31 - (last + 1).log2) then
      (⟨product / UInt32.size, Nat.div_lt_of_lt_mul
        (Nat.mul_lt_mul_of_pos_right drawn.1.toNat_lt (Nat.succ_pos last))⟩, drawn.2)
    else
      upTo last tries drawn.2

/-- Exchange each entry from `last` down to the second one with an entry not above it. -/
def shuffle : (last : Nat) → last < 256 → Shuffler → Vector UInt8 256 → Vector UInt8 256
  | 0, _, _, table => table
  | last + 1, bound, state, table =>
    let chosen := state.upTo (last + 1) 128
    shuffle last (Nat.lt_of_succ_lt bound) chosen.2
      (table.swap (last + 1) chosen.1.val bound (Nat.lt_of_lt_of_le chosen.1.isLt bound))

end Shuffler

/-- A shuffled table of the numbers below 256. -/
structure Lattice where
  table : Vector UInt8 256
  deriving DecidableEq

namespace Lattice

/-- The lattice of a seed. -/
def ofSeed (seed : UInt32) : Lattice :=
  ⟨Shuffler.shuffle 255 (by decide) (Shuffler.ofSeed seed) (Vector.ofFn fun index => UInt8.ofNat index)⟩

/-- The table entry at a byte. -/
def entry (lattice : Lattice) (index : UInt8) : UInt8 :=
  lattice.table.get ⟨index.toNat, index.toNat_lt⟩

/-- The height of a corner, from 0 to 1. -/
def height (lattice : Lattice) (column row : Int) : Float :=
  let outer := lattice.entry (UInt8.ofNat (column % 256).toNat)
  let inner := lattice.entry (outer ^^^ UInt8.ofNat (row % 256).toNat)
  inner.toFloat / 255.0

/-- The corner below a coordinate; an integer that is not positive belongs to the cell below it. -/
def corner (coordinate : Float) : Except Fault Int :=
  match integerPart? coordinate with
  | none => .error .latticeOverflow
  | some part => .ok (if coordinate ≤ 0.0 then part - 1 else part)

/-- The position inside a cell, kept between 0 and 1. -/
def inside (coordinate : Float) (corner : Int) : Float :=
  let offset := coordinate - doubleOfInt corner
  if offset < 0.0 then 0.0 else if 1.0 < offset then 1.0 else offset

/-- The weight of the far side of a cell, flat to second order at both ends. -/
def ease (offset : Float) : Float :=
  offset * offset * offset * (offset * (offset * 6.0 - 15.0) + 10.0)

/-- The weighted mean of two heights. -/
def blend (near far weight : Float) : Float :=
  far * weight + near * (1.0 - weight)

/-- The height at a position, from -1 to 1. -/
def value (lattice : Lattice) (x y : Float) : Except Fault Float := do
  let column ← corner x
  let row ← corner y
  let across := ease (inside x column)
  let along := ease (inside y row)
  let near := blend (lattice.height column row) (lattice.height (column + 1) row) across
  let far := blend (lattice.height column (row + 1)) (lattice.height (column + 1) (row + 1)) across
  return blend near far along * 2.0 - 1.0

end Lattice

end RoadGrowth.Noise
