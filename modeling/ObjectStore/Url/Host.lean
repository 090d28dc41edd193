import ObjectStore.Percent
import ObjectStore.Text.Printable
import ObjectStore.Text.Quoted
import ObjectStore.Url.Punycode

/-!
Hosts of URLs: domain names in ASCII, and addresses of both versions of the Internet Protocol.
-/

namespace ObjectStore

inductive UrlFault where
  | emptyHost
  | invalidDomainName
  | invalidPort
  | invalidIpv4Address
  | invalidIpv6Address
  | invalidDomainCharacter
  | noBase
deriving DecidableEq, Repr

def UrlFault.message : UrlFault → String
  | .emptyHost => "empty host"
  | .invalidDomainName => "invalid international domain name"
  | .invalidPort => "invalid port number"
  | .invalidIpv4Address => "invalid IPv4 address"
  | .invalidIpv6Address => "invalid IPv6 address"
  | .invalidDomainCharacter => "invalid domain character"
  | .noBase => "relative URL without a base"

inductive Host where
  | domain (name : String)
  | ipv4 (address : Nat)
  | ipv6 (pieces : List Nat)
deriving DecidableEq, Repr

namespace Host

/-! ### Addresses of version 4 -/

def digitIn? (radix : Nat) (character : Char) : Option Nat :=
  let value? :=
    if '0' ≤ character && character ≤ '9' then some (character.toNat - 0x30)
    else if 'a' ≤ character && character ≤ 'f' then some (character.toNat - 0x57)
    else if 'A' ≤ character && character ≤ 'F' then some (character.toNat - 0x37)
    else none
  value?.filter (· < radix)

def digitsIn? (radix : Nat) (characters : List Char) : Option Nat :=
  characters.foldl (fun value? character => do
    let value ← value?
    let digit ← digitIn? radix character
    pure (value * radix + digit)) (some 0)

def ipv4Number? : List Char → Option Nat
  | [] => none
  | '0' :: 'x' :: rest => digitsIn? 16 rest
  | '0' :: 'X' :: rest => digitsIn? 16 rest
  | '0' :: digit :: rest => digitsIn? 8 (digit :: rest)
  | characters => digitsIn? 10 characters

def splitOn (separator : Char) : List Char → List (List Char)
  | [] => [[]]
  | character :: rest =>
      if character = separator then [] :: splitOn separator rest
      else match splitOn separator rest with
        | [] => [[character]]
        | piece :: pieces => (character :: piece) :: pieces

def withoutFinalEmpty (parts : List (List Char)) : List (List Char) :=
  if parts.getLast? = some [] then parts.dropLast else parts

def endsInNumber (name : List Char) : Bool :=
  match (withoutFinalEmpty (splitOn '.' name)).getLast? with
  | none => false
  | some last =>
      (!last.isEmpty && last.all fun character => '0' ≤ character && character ≤ '9') ||
        (ipv4Number? last).isSome

/-- The last part fills what the parts before it leave. -/
def parseIpv4 (name : List Char) : Except UrlFault Nat :=
  let parts := withoutFinalEmpty (splitOn '.' name)
  match parts.mapM ipv4Number? with
  | none => .error .invalidIpv4Address
  | some numbers =>
      match numbers.reverse with
      | [] => .error .invalidIpv4Address
      | last :: reversed =>
          let leading := reversed.reverse
          if 4 < numbers.length || Nat.pow 256 (5 - numbers.length) ≤ last || leading.any (255 < ·) then
            .error .invalidIpv4Address
          else
            .ok (last + ((List.range leading.length).zip leading).foldl
              (fun sum part => sum + part.2 * Nat.pow 256 (3 - part.1)) 0)

def ipv4Text (address : Nat) : String :=
  String.intercalate "." ([3, 2, 1, 0].map fun place => toString (address / Nat.pow 256 place % 256))

/-! ### Addresses of version 6 -/

def takePiece : Nat → Nat → List Char → Nat × List Char
  | 0, value, rest => (value, rest)
  | _ + 1, value, [] => (value, [])
  | count + 1, value, character :: rest =>
      match digitIn? 16 character with
      | some digit => takePiece count (value * 16 + digit) rest
      | none => (value, character :: rest)

def decimalByte? (characters : List Char) : Option Nat :=
  match characters with
  | [] => none
  | ['0'] => some 0
  | '0' :: _ => none
  | _ => (digitsIn? 10 characters).filter (· ≤ 255)

def embeddedIpv4? (characters : List Char) : Option (List Nat) := do
  match ← (splitOn '.' characters).mapM decimalByte? with
  | [a, b, c, d] => pure [a * 256 + b, c * 256 + d]
  | _ => none

/-- The pieces after those already read, and where the gap stands. Each round reads a character. -/
def ipv6Pieces : Nat → List Nat → Option Nat → List Char → Option (List Nat × Option Nat)
  | _, pieces, gap, [] => some (pieces, gap)
  | 0, _, _, _ => none
  | rounds + 1, pieces, gap, character :: rest =>
      if pieces.length == 8 then none
      else if character = ':' then
        if gap.isSome then none else ipv6Pieces rounds pieces (some pieces.length) rest
      else
        match takePiece 4 0 (character :: rest) with
        | (value, []) => some (pieces ++ [value], gap)
        | (value, ':' :: following) =>
            if following.isEmpty then none else ipv6Pieces rounds (pieces ++ [value]) gap following
        | (_, '.' :: _) =>
            if character = '.' || 6 < pieces.length then none
            else (embeddedIpv4? (character :: rest)).map fun tail => (pieces ++ tail, gap)
        | _ => none

def fillGap (pieces : List Nat) : Option Nat → Option (List Nat)
  | none => if pieces.length == 8 then some pieces else none
  | some place =>
      if pieces.length < 8 then
        some (pieces.take place ++ List.replicate (8 - pieces.length) 0 ++ pieces.drop place)
      else none

def parseIpv6 (characters : List Char) : Except UrlFault (List Nat) :=
  let read := match characters with
    | ':' :: ':' :: rest => ipv6Pieces (rest.length + 1) [] (some 0) rest
    | ':' :: _ => none
    | [] => none
    | rest => ipv6Pieces (rest.length + 1) [] none rest
  match read.bind fun (pieces, gap) => fillGap pieces gap with
  | some pieces => .ok pieces
  | none => .error .invalidIpv6Address

def zeroRun (pieces : List Nat) : Nat :=
  (pieces.takeWhile (· == 0)).length

def longestZeroRun (pieces : List Nat) : Option (Nat × Nat) :=
  (List.range pieces.length).foldl (fun best start =>
    let run := zeroRun (pieces.drop start)
    let longest := (best.map Prod.snd).getD 1
    if longest < run then some (start, run) else best) none

def pieceText (piece : Nat) : String :=
  String.ofList (Quoted.hexDigits piece)

def joinPieces (pieces : List Nat) : String :=
  String.intercalate ":" (pieces.map pieceText)

def ipv6Text (pieces : List Nat) : String :=
  match longestZeroRun pieces with
  | none => joinPieces pieces
  | some (start, run) => joinPieces (pieces.take start) ++ "::" ++ joinPieces (pieces.drop (start + run))

/-! ### Domain names -/

def isForbiddenInDomain (character : Char) : Bool :=
  character.toNat ≤ 0x20 || character.toNat == 0x7F || "%#/:<>?@[\\]^|".toList.contains character

def isForbiddenInHost (character : Char) : Bool :=
  [0x00, 0x09, 0x0A, 0x0D, 0x20].contains character.toNat ||
    "#/:<>?@[\\]^|".toList.contains character

def foldCharacter (character : Char) : List Char :=
  let code := character.toNat
  let shifted (offset : Nat) : List Char := [Char.ofNat (code + offset)]
  if code < 0x80 then [character.toLower]
  else if code == 0xAD || code == 0x200B || code == 0x2060 || code == 0xFEFF then []
  else if 0xFE00 ≤ code && code ≤ 0xFE0F then []
  else if code == 0x3002 || code == 0xFF0E || code == 0xFF61 then ['.']
  else if 0xFF01 ≤ code && code ≤ 0xFF5E then [(Char.ofNat (code - 0xFEE0)).toLower]
  else if 0xC0 ≤ code && code ≤ 0xDE && code != 0xD7 then shifted 0x20
  else if 0x391 ≤ code && code ≤ 0x3A9 then shifted 0x20
  else if 0x410 ≤ code && code ≤ 0x42F then shifted 0x20
  else if 0x400 ≤ code && code ≤ 0x40F then shifted 0x50
  else if 0x531 ≤ code && code ≤ 0x556 then shifted 0x30
  else if ((0x100 ≤ code && code ≤ 0x12F) || (0x132 ≤ code && code ≤ 0x137) ||
      (0x14A ≤ code && code ≤ 0x177) || (0x1E00 ≤ code && code ≤ 0x1E95) ||
      (0x1EA0 ≤ code && code ≤ 0x1EFF)) && code % 2 == 0 then shifted 1
  else if ((0x139 ≤ code && code ≤ 0x148) || (0x179 ≤ code && code ≤ 0x17E)) && code % 2 == 1 then shifted 1
  else if code == 0x178 then ['ÿ']
  else if code == 0x1E9E then ['s', 's']
  else if code == 0x212A then ['k']
  else if code == 0x212B then ['å']
  else [character]

def isMark (character : Char) : Bool :=
  0x300 ≤ character.toNat && character.toNat ≤ 0x36F

/-- Marks may follow a character but not begin a label. -/
def isPermitted (character : Char) : Bool :=
  character.toNat < 0x80 || isMark character || Printable.isPrintable character

def labelToAscii? (label : List Char) : Option (List Char) :=
  match label with
  | 'x' :: 'n' :: '-' :: '-' :: encoded =>
      match Punycode.decode? encoded with
      | some decoded =>
          if decoded.any (fun character => 0x80 ≤ character.toNat) && Punycode.encode decoded == encoded &&
              decoded.all (fun character => foldCharacter character == [character] && isPermitted character)
          then some label else none
      | none => none
  | _ =>
      if label.all fun character => character.toNat < 0x80 then some label
      else if (label.head?.map isMark).getD false then none
      else some ('x' :: 'n' :: '-' :: '-' :: Punycode.encode label)

def domainToAscii? (bytes : Bytes) : Option (List Char) := do
  let name ← Bytes.toText? bytes
  let folded := name.toList.flatMap foldCharacter
  if folded.any isForbiddenInDomain || !folded.all isPermitted then none
  else
    let labels ← (splitOn '.' folded).mapM labelToAscii?
    pure (List.intercalate ['.'] labels)

/-- The host of a special scheme: its escapes are undone, and a name ending in a number must be an
address. -/
def parse (characters : List Char) : Except UrlFault Host :=
  match characters with
  | '[' :: rest =>
      if rest.getLast? = some ']' then (parseIpv6 rest.dropLast).map Host.ipv6
      else .error .invalidIpv6Address
  | _ =>
      let bytes := Percent.decodeLenient (Bytes.ofText (String.ofList characters))
      match domainToAscii? bytes with
      | none => .error .invalidDomainName
      | some [] => .error .emptyHost
      | some name =>
          if endsInNumber name then (parseIpv4 name).map Host.ipv4
          else .ok (.domain (String.ofList name))

def isPlain (byte : UInt8) : Bool :=
  0x20 ≤ byte && byte < 0x7F

def parsePlain (characters : List Char) : Except UrlFault Host :=
  match characters with
  | '[' :: rest =>
      if rest.getLast? = some ']' then (parseIpv6 rest.dropLast).map Host.ipv6
      else .error .invalidIpv6Address
  | _ =>
      if characters.any isForbiddenInHost then .error .invalidDomainCharacter
      else .ok (.domain (Percent.encode isPlain (String.ofList characters)))

def text : Host → String
  | .domain name => name
  | .ipv4 address => ipv4Text address
  | .ipv6 pieces => "[" ++ ipv6Text pieces ++ "]"

end Host

end ObjectStore
