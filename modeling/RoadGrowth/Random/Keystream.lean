/-!
# Random words

The ChaCha keystream with eight rounds: a block is sixteen words made from a
constant, a key of eight words and a block counter that starts at zero. The key
comes from a 64-bit seed. A keystream hands out the words of its blocks in order.
-/

namespace RoadGrowth.Random

/-- Four words of the same row of the working square. -/
structure Row where
  first : UInt32
  second : UInt32
  third : UInt32
  fourth : UInt32
  deriving DecidableEq

namespace Row

/-- Apply an operation lane by lane. -/
def zip (operation : UInt32 → UInt32 → UInt32) (left right : Row) : Row :=
  ⟨operation left.first right.first, operation left.second right.second,
    operation left.third right.third, operation left.fourth right.fourth⟩

/-- Rotate every word to the left. -/
def rotateBits (count : UInt32) (row : Row) : Row :=
  let turn (word : UInt32) : UInt32 := (word <<< count) ||| (word >>> (32 - count))
  ⟨turn row.first, turn row.second, turn row.third, turn row.fourth⟩

/-- Move every word one lane to the left. -/
def shiftLanes (row : Row) : Row := ⟨row.second, row.third, row.fourth, row.first⟩

/-- The words in lane order. -/
def toList (row : Row) : List UInt32 := [row.first, row.second, row.third, row.fourth]

end Row

/-- The working square of sixteen words. -/
structure Square where
  constants : Row
  keyLow : Row
  keyHigh : Row
  counter : Row
  deriving DecidableEq

namespace Square

/-- Mix the four columns, each on its own. -/
def mixColumns (square : Square) : Square :=
  let a := square.constants.zip (· + ·) square.keyLow
  let d := (square.counter.zip (· ^^^ ·) a).rotateBits 16
  let c := square.keyHigh.zip (· + ·) d
  let b := (square.keyLow.zip (· ^^^ ·) c).rotateBits 12
  let a := a.zip (· + ·) b
  let d := (d.zip (· ^^^ ·) a).rotateBits 8
  let c := c.zip (· + ·) d
  let b := (b.zip (· ^^^ ·) c).rotateBits 7
  ⟨a, b, c, d⟩

/-- Bring the diagonals into the columns. -/
def toDiagonals (square : Square) : Square :=
  ⟨square.constants, square.keyLow.shiftLanes, square.keyHigh.shiftLanes.shiftLanes,
    square.counter.shiftLanes.shiftLanes.shiftLanes⟩

/-- Bring the columns back to the diagonals. -/
def ofDiagonals (square : Square) : Square :=
  ⟨square.constants, square.keyLow.shiftLanes.shiftLanes.shiftLanes,
    square.keyHigh.shiftLanes.shiftLanes, square.counter.shiftLanes⟩

/-- Mix the columns and then the diagonals. -/
def doubleRound (square : Square) : Square :=
  square.mixColumns.toDiagonals.mixColumns.ofDiagonals

/-- The block of a square: four double rounds, added to the square itself. -/
def block (square : Square) : List UInt32 :=
  let mixed := square.doubleRound.doubleRound.doubleRound.doubleRound
  (mixed.constants.zip (· + ·) square.constants).toList ++
    (mixed.keyLow.zip (· + ·) square.keyLow).toList ++
    (mixed.keyHigh.zip (· + ·) square.keyHigh).toList ++
    (mixed.counter.zip (· + ·) square.counter).toList

end Square

/-- Words not handed out yet of the current block, and the key and counter of the next one. -/
structure Keystream where
  keyLow : Row
  keyHigh : Row
  counter : UInt64
  ready : List UInt32
  deriving DecidableEq

namespace Keystream

/-- One step of the generator that spreads a seed over the key. -/
def seedStep (state : UInt64) : UInt64 := state * 6364136223846793005 + 11634580027462260723

/-- The key word of a generator state. -/
def seedWord (state : UInt64) : UInt32 :=
  let mixed := (((state >>> 18) ^^^ state) >>> 27).toUInt32
  let count := (state >>> 59).toUInt32
  (mixed >>> count) ||| (mixed <<< ((32 - count) % 32))

/-- A row of four key words and the generator state after them. -/
def seedRow (state : UInt64) : Row × UInt64 :=
  let first := seedStep state
  let second := seedStep first
  let third := seedStep second
  let fourth := seedStep third
  (⟨seedWord first, seedWord second, seedWord third, seedWord fourth⟩, fourth)

/-- The keystream of a seed, from its first word. -/
def ofSeed (seed : UInt64) : Keystream :=
  let (keyLow, state) := seedRow seed
  let (keyHigh, _) := seedRow state
  ⟨keyLow, keyHigh, 0, []⟩

/-- The working square of the next block. -/
def square (stream : Keystream) : Square :=
  ⟨⟨0x61707865, 0x3320646e, 0x79622d32, 0x6b206574⟩, stream.keyLow, stream.keyHigh,
    ⟨stream.counter.toUInt32, (stream.counter >>> 32).toUInt32, 0, 0⟩⟩

/-- The next word and the keystream after it. -/
def next (stream : Keystream) : UInt32 × Keystream :=
  match stream.ready with
  | word :: rest => (word, { stream with ready := rest })
  | [] =>
    let words := stream.square.block
    (words.headD 0, { stream with counter := stream.counter + 1, ready := words.tail })

end Keystream

end RoadGrowth.Random
