/-!
# UTF-8

Encoding is total. Decoding goes character by character: a step either reads one character or
meets an ill-formed sequence, of which it skips the longest beginning that could still have
become a character. Strict decoding refuses such a sequence, lossy decoding puts the replacement
character in its place.
-/

namespace EntityGate.Text

/-- The UTF-8 bytes of characters. -/
def encodeUtf8 (chars : List Char) : List UInt8 :=
  chars.flatMap String.utf8EncodeChar

/-- For the first byte of a character of several bytes: its own share of the code point, the
bounds of the second byte and the number of bytes after the second. -/
def leadByte (byte : Nat) : Option (Nat × Nat × Nat × Nat) :=
  if 0xC2 ≤ byte ∧ byte ≤ 0xDF then some (byte - 0xC0, 0x80, 0xBF, 0)
  else if byte = 0xE0 then some (0, 0xA0, 0xBF, 1)
  else if byte = 0xED then some (0xD, 0x80, 0x9F, 1)
  else if 0xE1 ≤ byte ∧ byte ≤ 0xEF then some (byte - 0xE0, 0x80, 0xBF, 1)
  else if byte = 0xF0 then some (0, 0x90, 0xBF, 2)
  else if 0xF1 ≤ byte ∧ byte ≤ 0xF3 then some (byte - 0xF0, 0x80, 0xBF, 2)
  else if byte = 0xF4 then some (4, 0x80, 0x8F, 2)
  else none

/-- Reads the given number of further bytes into a code point. -/
def readTail : Nat → Nat → List UInt8 → Option Char × List UInt8
  | 0, code, bytes => (some (Char.ofNat code), bytes)
  | _ + 1, _, [] => (none, [])
  | count + 1, code, byte :: bytes =>
    if 0x80 ≤ byte.toNat ∧ byte.toNat ≤ 0xBF then
      readTail count (64 * code + (byte.toNat - 0x80)) bytes
    else (none, byte :: bytes)

/-- Reads what starts with the given byte. -/
def decodeStep (byte : UInt8) (bytes : List UInt8) : Option Char × List UInt8 :=
  if byte.toNat < 0x80 then (some (Char.ofNat byte.toNat), bytes)
  else match leadByte byte.toNat, bytes with
    | some (code, low, high, count), second :: rest =>
      if low ≤ second.toNat ∧ second.toNat ≤ high then
        readTail count (64 * code + (second.toNat - 0x80)) rest
      else (none, second :: rest)
    | _, rest => (none, rest)

/-- The characters read, with an absent one for each ill-formed sequence. -/
def decodeSteps : Nat → List UInt8 → List (Option Char)
  | 0, _ => []
  | _, [] => []
  | fuel + 1, byte :: bytes =>
    let (char, rest) := decodeStep byte bytes
    char :: decodeSteps fuel rest

/-- The characters of a well-formed sequence. -/
def decodeUtf8? (bytes : List UInt8) : Option (List Char) :=
  (decodeSteps bytes.length bytes).mapM id

/-- The characters of any sequence, ill-formed parts replaced. -/
def decodeUtf8Lossy (bytes : List UInt8) : List Char :=
  (decodeSteps bytes.length bytes).map fun char => char.getD '\uFFFD'

end EntityGate.Text
