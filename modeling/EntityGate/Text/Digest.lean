/-!
# SHA-256

The digest of a list of bytes, in the arithmetic of 32-bit words.
-/

namespace EntityGate.Digest

/-- The round constants. -/
def roundConstants : List UInt32 := [
  0x428a2f98, 0x71374491, 0xb5c0fbcf, 0xe9b5dba5, 0x3956c25b, 0x59f111f1, 0x923f82a4, 0xab1c5ed5,
  0xd807aa98, 0x12835b01, 0x243185be, 0x550c7dc3, 0x72be5d74, 0x80deb1fe, 0x9bdc06a7, 0xc19bf174,
  0xe49b69c1, 0xefbe4786, 0x0fc19dc6, 0x240ca1cc, 0x2de92c6f, 0x4a7484aa, 0x5cb0a9dc, 0x76f988da,
  0x983e5152, 0xa831c66d, 0xb00327c8, 0xbf597fc7, 0xc6e00bf3, 0xd5a79147, 0x06ca6351, 0x14292967,
  0x27b70a85, 0x2e1b2138, 0x4d2c6dfc, 0x53380d13, 0x650a7354, 0x766a0abb, 0x81c2c92e, 0x92722c85,
  0xa2bfe8a1, 0xa81a664b, 0xc24b8b70, 0xc76c51a3, 0xd192e819, 0xd6990624, 0xf40e3585, 0x106aa070,
  0x19a4c116, 0x1e376c08, 0x2748774c, 0x34b0bcb5, 0x391c0cb3, 0x4ed8aa4a, 0x5b9cca4f, 0x682e6ff3,
  0x748f82ee, 0x78a5636f, 0x84c87814, 0x8cc70208, 0x90befffa, 0xa4506ceb, 0xbef9a3f7, 0xc67178f2]

/-- The eight words of the running state. -/
structure State where
  a : UInt32
  b : UInt32
  c : UInt32
  d : UInt32
  e : UInt32
  f : UInt32
  g : UInt32
  h : UInt32

/-- The state before the first block. -/
def initialState : State :=
  ⟨0x6a09e667, 0xbb67ae85, 0x3c6ef372, 0xa54ff53a, 0x510e527f, 0x9b05688c, 0x1f83d9ab, 0x5be0cd19⟩

/-- Rotation to the right. -/
def rotate (word amount : UInt32) : UInt32 := (word >>> amount) ||| (word <<< (32 - amount))

/-- One round with a round constant and a word of the schedule. -/
def step (state : State) (constant word : UInt32) : State :=
  let sumE := rotate state.e 6 ^^^ rotate state.e 11 ^^^ rotate state.e 25
  let choice := (state.e &&& state.f) ^^^ ((state.e ^^^ 0xFFFFFFFF) &&& state.g)
  let first := state.h + sumE + choice + constant + word
  let sumA := rotate state.a 2 ^^^ rotate state.a 13 ^^^ rotate state.a 22
  let majority := (state.a &&& state.b) ^^^ (state.a &&& state.c) ^^^ (state.b &&& state.c)
  ⟨first + (sumA + majority), state.a, state.b, state.c, state.d + first, state.e, state.f,
    state.g⟩

/-- The rounds over the remaining constants; the window holds the next sixteen words. -/
def rounds : List UInt32 → List UInt32 → State → State
  | [], _, state => state
  | constant :: constants, window, state =>
    let word := window.headD 0
    let early := window.getD 1 0
    let late := window.getD 14 0
    let sumEarly := rotate early 7 ^^^ rotate early 18 ^^^ (early >>> 3)
    let sumLate := rotate late 17 ^^^ rotate late 19 ^^^ (late >>> 10)
    let next := word + sumEarly + window.getD 9 0 + sumLate
    rounds constants (window.tail ++ [next]) (step state constant word)

/-- The state after one block of sixteen words. -/
def compress (state : State) (block : List UInt32) : State :=
  let mixed := rounds roundConstants block state
  ⟨state.a + mixed.a, state.b + mixed.b, state.c + mixed.c, state.d + mixed.d, state.e + mixed.e,
    state.f + mixed.f, state.g + mixed.g, state.h + mixed.h⟩

/-- A word from its bytes, most significant first. -/
def wordOfBytes (bytes : List UInt8) : UInt32 :=
  bytes.foldl (fun word byte => (word <<< 8) ||| byte.toUInt32) 0

/-- The first `count` pieces of the given size. -/
def pieces {α : Type} (size : Nat) : Nat → List α → List (List α)
  | 0, _ => []
  | count + 1, items => items.take size :: pieces size count (items.drop size)

/-- The message with its end mark, its filling and its length in bits. -/
def padded (message : List UInt8) : List UInt8 :=
  let length := message.length
  let filling := (119 - length % 64) % 64
  let bits := 8 * length
  message ++ 0x80 :: (List.replicate filling 0 ++
    (List.range 8).map fun position => UInt8.ofNat (bits / Nat.pow 2 (8 * (7 - position))))

/-- The bytes of a word, most significant first. -/
def bytesOfWord (word : UInt32) : List UInt8 :=
  [(word >>> 24).toUInt8, (word >>> 16).toUInt8, (word >>> 8).toUInt8, word.toUInt8]

/-- The thirty-two bytes of the digest. -/
def sha256 (message : List UInt8) : List UInt8 :=
  let bytes := padded message
  let blocks := pieces 64 (bytes.length / 64) bytes
  let final := blocks.foldl
    (fun state block => compress state ((pieces 4 16 block).map wordOfBytes)) initialState
  [final.a, final.b, final.c, final.d, final.e, final.f, final.g, final.h].flatMap bytesOfWord

/-- A digit of the hexadecimal notation in lower case. -/
def hexDigitOf (value : Nat) : Char :=
  if value < 10 then Char.ofNat (48 + value) else Char.ofNat (87 + value)

/-- Two hexadecimal digits a byte. -/
def hexChars (bytes : List UInt8) : List Char :=
  bytes.flatMap fun byte => [hexDigitOf (byte.toNat / 16), hexDigitOf (byte.toNat % 16)]

/-- The digest of a text's UTF-8 bytes in hexadecimal digits. -/
def sha256Hex (text : String) : String :=
  String.ofList (hexChars (sha256 text.toUTF8.toList))

end EntityGate.Digest
