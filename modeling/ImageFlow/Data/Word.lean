/-!
# Little-endian words

A word of `n` bytes holds an integer modulo `256 ^ n`, its least significant byte first. Reading a
word gives the natural number below `256 ^ n`; a signed word is that number moved into the range
around zero.
-/

namespace ImageFlow.Word

/-- The natural number that a byte string stands for. -/
def toNat : List UInt8 → Nat
  | [] => 0
  | b :: rest => b.toNat + 256 * toNat rest

/-- The integer that a byte string stands for in two's complement. -/
def toInt (bytes : List UInt8) : Int :=
  Int.bmod (toNat bytes) (Nat.pow 256 bytes.length)

/-- The low bytes of an integer. Higher bytes are dropped. -/
def ofInt : Nat → Int → List UInt8
  | 0, _ => []
  | count + 1, value => UInt8.ofNat (value % 256).toNat :: ofInt count (value / 256)

end ImageFlow.Word
