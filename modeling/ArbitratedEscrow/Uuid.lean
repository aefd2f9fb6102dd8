import ArbitratedEscrow.Text.Hex

/-!
# Random identifiers

Version 4 UUIDs and the sources that they are drawn from. A source is a
sequence of identifiers and a count of those drawn so far. `IdSource.ofSeed` takes
its identifiers from the SplitMix64 generator, whose outputs depend on the seed
and their number alone.
-/

namespace ArbitratedEscrow

structure Uuid where
  high : UInt64
  low : UInt64
deriving DecidableEq, Repr

namespace Uuid

/-- Two words with the version set to 4 and the variant bits to 10. -/
def ofWords (high low : UInt64) : Uuid where
  high := (high &&& 0xFFFFFFFFFFFF0FFF) ||| 0x4000
  low := (low &&& 0x3FFFFFFFFFFFFFFF) ||| 0x8000000000000000

def bytes (id : Uuid) : List UInt8 :=
  Text.bigEndian 8 id.high.toNat ++ Text.bigEndian 8 id.low.toNat

@[simp] theorem length_bytes (id : Uuid) : id.bytes.length = 16 := by
  simp [bytes]

/-- The hexadecimal digits in groups of 8, 4, 4, 4 and 12 with hyphens between them. -/
def text (id : Uuid) : String :=
  let ds := Text.hex id.bytes
  String.ofList <|
    ds.take 8 ++ '-' :: (ds.drop 8).take 4 ++ '-' :: (ds.drop 12).take 4 ++
      '-' :: (ds.drop 16).take 4 ++ '-' :: ds.drop 20

end Uuid

namespace SplitMix64

/-- The odd constant that separates successive states. -/
def step : UInt64 := 0x9E3779B97F4A7C15

def mix (state : UInt64) : UInt64 :=
  let z := (state ^^^ (state >>> 30)) * 0xBF58476D1CE4E5B9
  let z := (z ^^^ (z >>> 27)) * 0x94D049BB133111EB
  z ^^^ (z >>> 31)

def output (seed : UInt64) (n : Nat) : UInt64 := mix (seed + UInt64.ofNat (n + 1) * step)

end SplitMix64

/-- A sequence of identifiers, of which some have been drawn. -/
structure IdSource where
  nth : Nat → Uuid
  drawn : Nat := 0

namespace IdSource

def draw (source : IdSource) : Uuid × IdSource :=
  (source.nth source.drawn, { source with drawn := source.drawn + 1 })

/-- Identifier `n` is made of the generator's outputs `2 n` and `2 n + 1`. -/
def ofSeed (seed : UInt64) : IdSource where
  nth n := Uuid.ofWords (SplitMix64.output seed (2 * n)) (SplitMix64.output seed (2 * n + 1))

end IdSource

end ArbitratedEscrow
