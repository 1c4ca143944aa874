/-!
# The mixing hash

A fast hash of a row of 64-bit words: each word is combined with the rotated state and the result
multiplied by a fixed odd constant.  Texts are fed as their bytes in little-endian words of eight,
then four, then one byte, closed by the byte `0xff`.
-/

namespace ScopedSearch.Mixing

/-- The multiplier of a step. -/
def multiplier : UInt64 := 0x517cc1b727220a95

/-- One word enters the state. -/
def step (h w : UInt64) : UInt64 := (((h <<< 5) ||| (h >>> 59)) ^^^ w) * multiplier

/-- The number that a row of bytes denotes, least significant byte first. -/
def littleEndian (bytes : List UInt8) : UInt64 :=
  bytes.foldr (fun b n => b.toUInt64 + 256 * n) 0

/-- The words that a row of bytes is fed as: whole eights, then a four, then single bytes. -/
def chunks (bytes : List UInt8) : List UInt64 :=
  match bytes with
  | b0 :: b1 :: b2 :: b3 :: b4 :: b5 :: b6 :: b7 :: rest =>
    littleEndian [b0, b1, b2, b3, b4, b5, b6, b7] :: chunks rest
  | b0 :: b1 :: b2 :: b3 :: rest => littleEndian [b0, b1, b2, b3] :: rest.map UInt8.toUInt64
  | _ => bytes.map UInt8.toUInt64

/-- The words of a text: its bytes and the closing byte. -/
def textWords (s : String) : List UInt64 := chunks s.toUTF8.toList ++ [0xff]

/-- The words of an optional text: whether it is there, then the text. -/
def optionWords : Option String → List UInt64
  | none => [0]
  | some s => 1 :: textWords s

/-- The hash of a row of words. -/
def hash (ws : List UInt64) : UInt64 := ws.foldl step 0

end ScopedSearch.Mixing
