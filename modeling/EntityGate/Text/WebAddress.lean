import EntityGate.Text.Letter
import EntityGate.Text.Percent

/-!
# Web addresses

Whether a text is an absolute address that names a host, by the living standard for URLs. The
scheme decides how the rest is read: the web schemes always have a host, `file` may have one,
and any other scheme has one after two slashes.
-/

namespace EntityGate.WebAddress

/-- How the part after the scheme is read. -/
inductive SchemeKind where
  | web
  | file
  | other
  deriving DecidableEq, Repr

/-- The kind of a scheme in lower case. -/
def schemeKind (scheme : List Char) : SchemeKind :=
  let name := String.ofList scheme
  if name ∈ ["http", "https", "ws", "wss", "ftp"] then .web
  else if name = "file" then .file
  else .other

/-- The text without control characters and blanks at its ends and without tabs and line breaks
anywhere. -/
def cleaned (chars : List Char) : List Char :=
  (Text.stripWhile (fun char => decide (char.toNat ≤ 0x20)) chars).filter fun char =>
    char != '\t' && char != '\n' && char != '\r'

/-- The scheme in lower case and what follows its colon. -/
def splitScheme? (chars : List Char) : Option (List Char × List Char) :=
  let isSchemeChar (char : Char) : Bool :=
    char.isAlphanum || char == '+' || char == '-' || char == '.'
  match chars.takeWhile isSchemeChar, chars.dropWhile isSchemeChar with
  | first :: rest, ':' :: after =>
    if first.isAlpha then some ((first :: rest).map Char.toLower, after) else none
  | _, _ => none

/-- Whether the character is one of the slashes of a web scheme. -/
def isSlash (char : Char) : Bool := char == '/' || char == '\\'

/-- Whether the character ends the part with the host. -/
def endsAuthority (kind : SchemeKind) (char : Char) : Bool :=
  char == '/' || char == '?' || char == '#' || (kind != .other && char == '\\')

/-- A number as one part of a dotted address: absent when it is no number, and an absent value
when it is too large. -/
def addressPart? (chars : List Char) : Option (Option Nat) :=
  let number (base : Nat) (digits : List Char) : Option (Option Nat) :=
    match digits.mapM Text.hexDigitValue? with
    | none => none
    | some values =>
      if values.all (fun value => decide (value < base)) then
        let value := values.foldl (fun sum digit => base * sum + digit) 0
        some (if value < 2 ^ 32 then some value else none)
      else none
  match chars with
  | [] => none
  | '0' :: 'x' :: digits | '0' :: 'X' :: digits => number 16 digits
  | '0' :: digit :: digits => number 8 (digit :: digits)
  | digits => number 10 digits

/-- Whether the last part of a domain is a number, so that the domain has to be an address. -/
def endsInNumber (domain : List Char) : Bool :=
  let parts := (Text.splitChars (· == '.') domain).reverse
  let last := match parts with
    | [] :: before :: _ => some before
    | [] :: [] => none
    | part :: _ => some part
    | [] => none
  match last with
  | some part => (!part.isEmpty && part.all Char.isDigit) || (addressPart? part).isSome
  | none => false

/-- Whether the parts make an address of 32 bits: the last part fills what the others leave. -/
def isAddress4 (domain : List Char) : Bool :=
  let pieces := Text.splitChars (· == '.') domain
  let parts := if pieces.getLast? == some [] then pieces.dropLast else pieces
  match (parts.mapM addressPart?).bind (fun values => values.mapM id) with
  | some values =>
    decide (values.length ≤ 4) &&
      (match values.getLast? with
        | some last =>
          decide (last < Nat.pow 256 (5 - values.length)) &&
            values.dropLast.all fun value => decide (value ≤ 255)
        | none => false)
  | none => false

/-- Whether four decimal parts below 256 without leading zeros are all that is left. -/
def isEmbeddedAddress (chars : List Char) : Bool :=
  let parts := Text.splitChars (· == '.') chars
  parts.length == 4 && parts.all fun part =>
    !part.isEmpty && part.all Char.isDigit && (part.length == 1 || part.head? != some '0') &&
      decide (part.length ≤ 3) && decide ((String.ofList part).toNat?.getD 256 ≤ 255)

/-- The number of 16-bit pieces in one run of a 128-bit address; a dotted address at the end
counts for two. -/
def pieceCount? (last : Bool) (chars : List Char) : Option Nat :=
  if chars.isEmpty then some 0
  else
    let pieces := Text.splitChars (· == ':') chars
    let isPiece (piece : List Char) : Bool :=
      !piece.isEmpty && decide (piece.length ≤ 4) &&
        piece.all fun char => (Text.hexDigitValue? char).isSome
    match pieces.getLast? with
    | some final =>
      if last && final.contains '.' then
        if isEmbeddedAddress final && pieces.dropLast.all isPiece then some (pieces.length + 1)
        else none
      else if pieces.all isPiece then some pieces.length
      else none
    | none => none

/-- The parts before and after the first pair of colons. -/
def cutDoubleColon? : List Char → Option (List Char × List Char)
  | ':' :: ':' :: rest => some ([], rest)
  | char :: rest => (cutDoubleColon? rest).map fun parts => (char :: parts.1, parts.2)
  | [] => none

/-- Whether the text is an address of 128 bits: eight pieces, of which one run of zeros may be
left out between two colons. -/
def isAddress6 (chars : List Char) : Bool :=
  match cutDoubleColon? chars with
  | none => pieceCount? true chars == some 8
  | some (before, after) =>
    match pieceCount? false before, pieceCount? true after with
    | some first, some second => decide (first + second ≤ 7)
    | _, _ => false

/-- Whether the character may not stand in a domain. -/
def isForbiddenInDomain (char : Char) : Bool :=
  decide (char.toNat ≤ 0x20) || char == '\x7f' || "%#/:<>?@[\\]^|".toList.contains char

/-- The ASCII character that a wide form or an ideographic full stop stands for in a domain. -/
def domainChar (char : Char) : Char :=
  let code := char.toNat
  if 0xFF01 ≤ code ∧ code ≤ 0xFF5E then Char.ofNat (code - 0xFEE0)
  else if code = 0x3002 ∨ code = 0xFF61 then '.'
  else char

/-- Whether a character outside ASCII may stand in a domain name. -/
def isDomainLetter (char : Char) : Bool :=
  char.toNat < 0x80 || Text.isAlphanumeric char || Text.isWordChar char ||
    (decide (0x2190 ≤ char.toNat) && decide (char.toNat ≤ 0x2BFF)) ||
    (decide (0x1F300 ≤ char.toNat) && decide (char.toNat ≤ 0x1FAFF))

/-- Whether a host of a web scheme is a domain or an address. -/
def isDomain (chars : List Char) : Bool :=
  match Text.decodeUtf8? (Text.percentBytes chars) with
  | none => false
  | some decoded =>
    let domain := (decoded.filter (fun char => char != '\u00AD' && char != '\u200B')).map
      fun char => (domainChar char).toLower
    !domain.isEmpty && !domain.any isForbiddenInDomain && domain.all isDomainLetter &&
      (!endsInNumber domain || isAddress4 domain)

/-- Whether a bracketed host is an address of 128 bits. -/
def isBracketed (chars : List Char) : Bool :=
  1 < chars.length && chars.getLast? == some ']' && isAddress6 chars.tail.dropLast

/-- Whether the character may not stand in the host of a scheme without rules of its own. -/
def isForbiddenInHost (char : Char) : Bool :=
  char == '\x00' || "\t\n\r #/:<>?@[\\]^|".toList.contains char

/-- Whether the host may stand after the given kind of scheme. -/
def isHost (kind : SchemeKind) (host : List Char) : Bool :=
  match host with
  | [] => kind != .web
  | '[' :: _ => isBracketed host
  | _ => if kind = .other then !host.any isForbiddenInHost else isDomain host

/-- The host, up to a colon outside brackets or the end of the authority, and what follows. -/
def splitHost (kind : SchemeKind) : Bool → List Char → List Char × List Char
  | _, [] => ([], [])
  | inBrackets, char :: rest =>
    if (char = ':' ∧ !inBrackets) ∨ endsAuthority kind char then ([], char :: rest)
    else
      let (host, after) := splitHost kind
        (if char = '[' then true else if char = ']' then false else inBrackets) rest
      (char :: host, after)

/-- Whether a port, of digits and at most 65535, ends here. -/
def isPort (chars : List Char) : Bool :=
  let digits := chars.takeWhile Char.isDigit
  decide ((digits.foldl (fun sum digit => 10 * sum + (digit.toNat - 48)) 0) ≤ 65535) &&
    (match chars.dropWhile Char.isDigit with
      | [] => true
      | char :: _ => char == '/' || char == '\\' || char == '?' || char == '#')

/-- Whether a host is named after the two slashes, behind any user information; host and port have
to be well formed. -/
def authorityHasHost (kind : SchemeKind) (chars : List Char) : Bool :=
  let authority := chars.takeWhile fun char => !endsAuthority kind char
  let afterAuthority := chars.dropWhile fun char => !endsAuthority kind char
  let rest := match Text.cutLastChars? '@' authority with
    | some (_, host) => host ++ afterAuthority
    | none => chars
  let (host, afterHost) := splitHost kind false rest
  !host.isEmpty && isHost kind host &&
    (match afterHost with
      | ':' :: port => isPort port
      | _ => true)

/-- Whether the text is a drive letter. -/
def isDriveLetter : List Char → Bool
  | [letter, mark] => letter.isAlpha && (mark == ':' || mark == '|')
  | _ => false

/-- Whether the path starts with a drive letter, which takes the host away. -/
def startsWithDrive : List Char → Bool
  | slash :: letter :: ':' :: rest =>
    isSlash slash && letter.isAlpha &&
      (match rest with
        | [] => true
        | char :: _ => endsAuthority .file char)
  | _ => false

/-- Whether a file address names a host. -/
def fileHasHost (chars : List Char) : Bool :=
  match chars with
  | first :: second :: rest =>
    if isSlash first && isSlash second then
      let host := rest.takeWhile fun char => !endsAuthority .file char
      let path := rest.dropWhile fun char => !endsAuthority .file char
      if host.isEmpty || isDriveLetter host then false
      else isHost .file host && (host.map Char.toLower) != "localhost".toList &&
        !startsWithDrive path
    else false
  | _ => false

/-- Whether the text is an absolute address that names a host. -/
def hasHost (text : String) : Bool :=
  match splitScheme? (cleaned text.toList) with
  | none => false
  | some (scheme, rest) =>
    match schemeKind scheme with
    | .web => authorityHasHost .web (rest.dropWhile isSlash)
    | .file => fileHasHost rest
    | .other =>
      match rest with
      | '/' :: '/' :: authority => authorityHasHost .other authority
      | _ => false

end EntityGate.WebAddress
