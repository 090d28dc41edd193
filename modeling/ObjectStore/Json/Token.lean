import ObjectStore.Json.Fault
import ObjectStore.Percent
import ObjectStore.Width

/-!
The tokens of JSON: blanks, words, texts with their escapes, and numbers.
-/

namespace ObjectStore.Json

abbrev Read (α : Type) := Bytes → Except Fault (α × Bytes)

def isBlank (byte : UInt8) : Bool :=
  byte == 0x20 || byte == 0x0A || byte == 0x09 || byte == 0x0D

def skipBlank : Bytes → Bytes
  | [] => []
  | byte :: rest => if isBlank byte then skipBlank rest else byte :: rest

def readWord : Bytes → Bytes → Except Fault Bytes
  | [], rest => .ok rest
  | _ :: _, [] => .error (.here .endOfValue [])
  | letter :: letters, byte :: rest =>
      if byte == letter then readWord letters rest else .error (.here .expectedIdentifier rest)

def afterN : Bytes := Bytes.ofText "ull"

def afterT : Bytes := Bytes.ofText "rue"

def afterF : Bytes := Bytes.ofText "alse"

/-! ### Texts -/

def readFourHexDigits : Read Nat
  | a :: b :: c :: d :: rest =>
      match Percent.hexValue? a, Percent.hexValue? b, Percent.hexValue? c, Percent.hexValue? d with
      | some first, some second, some third, some fourth =>
          .ok (((first.toNat * 16 + second.toNat) * 16 + third.toNat) * 16 + fourth.toNat, rest)
      | _, _, _, _ => .error (.here .invalidEscape rest)
  | _ => .error (.here .endOfString [])

def isLeadSurrogate (unit : Nat) : Bool :=
  0xD800 ≤ unit && unit ≤ 0xDBFF

def isTrailSurrogate (unit : Nat) : Bool :=
  0xDC00 ≤ unit && unit ≤ 0xDFFF

def scalarBytes (codePoint : Nat) : Bytes :=
  Bytes.ofText (String.singleton (Char.ofNat codePoint))

def readTrailSurrogate (lead : Nat) : Read Bytes
  | [] => .error (.here .endOfString [])
  | 0x5C :: [] => .error (.here .endOfString [])
  | 0x5C :: 0x75 :: rest => do
      let (trail, rest) ← readFourHexDigits rest
      if isTrailSurrogate trail then
        pure (scalarBytes ((lead - 0xD800) * 1024 + (trail - 0xDC00) + 0x10000), rest)
      else throw (.here .loneSurrogate rest)
  | 0x5C :: _ :: rest => .error (.here .shortEscape rest)
  | _ :: rest => .error (.here .shortEscape rest)

def readUnicodeEscape (bytes : Bytes) : Except Fault (Bytes × Bytes) := do
  let (unit, rest) ← readFourHexDigits bytes
  if isTrailSurrogate unit then throw (.here .loneSurrogate rest)
  else if isLeadSurrogate unit then readTrailSurrogate unit rest
  else pure (scalarBytes unit, rest)

def simpleEscape? (letter : UInt8) : Option UInt8 :=
  if letter == 0x22 || letter == 0x5C || letter == 0x2F then some letter
  else if letter == 0x62 then some 0x08
  else if letter == 0x66 then some 0x0C
  else if letter == 0x6E then some 0x0A
  else if letter == 0x72 then some 0x0D
  else if letter == 0x74 then some 0x09
  else none

def readEscape : Read Bytes
  | [] => .error (.here .endOfString [])
  | letter :: rest =>
      match simpleEscape? letter with
      | some byte => .ok ([byte], rest)
      | none => if letter == 0x75 then readUnicodeEscape rest else .error (.here .invalidEscape rest)

theorem readFourHexDigits_length {bytes rest : Bytes} {unit : Nat}
    (read : readFourHexDigits bytes = .ok (unit, rest)) : rest.length < bytes.length := by
  unfold readFourHexDigits at read
  split at read
  · split at read
    · simp only [Except.ok.injEq, Prod.mk.injEq] at read
      simp only [← read.2, List.length_cons]
      omega
    · cases read
  · cases read

theorem readTrailSurrogate_length {lead : Nat} {bytes rest unread : Bytes}
    (read : readTrailSurrogate lead bytes = .ok (rest, unread)) : unread.length < bytes.length := by
  unfold readTrailSurrogate at read
  split at read
  · cases read
  · cases read
  · rename_i tail
    cases digits : readFourHexDigits tail with
    | error fault => simp [digits, bind, Except.bind] at read
    | ok result =>
        have shorter := readFourHexDigits_length (digits.trans (congrArg Except.ok (Prod.eta result).symm))
        simp only [digits, bind, Except.bind] at read
        split at read
        · simp only [pure, Except.pure, Except.ok.injEq, Prod.mk.injEq] at read
          simp only [← read.2, List.length_cons]
          omega
        · cases read
  · cases read
  · cases read

theorem readEscape_length {bytes rest unread : Bytes}
    (read : readEscape bytes = .ok (rest, unread)) : unread.length < bytes.length := by
  unfold readEscape at read
  split at read
  · cases read
  · rename_i letter tail
    split at read
    · simp only [Except.ok.injEq, Prod.mk.injEq] at read
      simp [← read.2]
    · split at read
      · unfold readUnicodeEscape at read
        cases digits : readFourHexDigits tail with
        | error fault => simp [digits, bind, Except.bind] at read
        | ok result =>
            have shorter :=
              readFourHexDigits_length (digits.trans (congrArg Except.ok (Prod.eta result).symm))
            simp only [digits, bind, Except.bind] at read
            split at read
            · cases read
            · split at read
              · have := readTrailSurrogate_length read
                simp only [List.length_cons]
                omega
              · simp only [pure, Except.pure, Except.ok.injEq, Prod.mk.injEq] at read
                simp only [← read.2, List.length_cons]
                omega
      · cases read

def readTextBytes (bytes : Bytes) : Except Fault (Bytes × Bytes) :=
  match bytes with
  | [] => .error (.here .endOfString [])
  | byte :: rest =>
      if byte == 0x22 then .ok ([], rest)
      else if byte == 0x5C then
        match _escaped : readEscape rest with
        | .error fault => .error fault
        | .ok (piece, unread) => do
            let (text, unread) ← readTextBytes unread
            pure (piece ++ text, unread)
      else if byte < 0x20 then .error (.here .controlCharacter rest)
      else do
        let (text, unread) ← readTextBytes rest
        pure (byte :: text, unread)
termination_by bytes.length
decreasing_by
  · have := readEscape_length _escaped
    simp only [List.length_cons]
    omega
  · simp

def readTextBody (bytes : Bytes) : Except Fault (String × Bytes) := do
  let (content, rest) ← readTextBytes bytes
  match Bytes.toText? content with
  | some text => pure (text, rest)
  | none => throw (.here .invalidCodePoint rest)

/-! ### Numbers -/

def digit? (byte : UInt8) : Option Nat :=
  if 0x30 ≤ byte && byte ≤ 0x39 then some (byte.toNat - 0x30) else none

def skipDigits : Bytes → Bytes
  | [] => []
  | byte :: rest => if (digit? byte).isSome then skipDigits rest else byte :: rest

def readSignificand (significand : Nat) : Bytes → Nat × Nat × Bytes
  | [] => (significand, 0, [])
  | byte :: rest =>
      match digit? byte with
      | none => (significand, 0, byte :: rest)
      | some digit =>
          if significand * 10 + digit < Width.bound 64 then
            let (value, count, unread) := readSignificand (significand * 10 + digit) rest
            (value, count + 1, unread)
          else (significand, 0, byte :: rest)

/-- The nearest number with 53 significant bits; of two, the even one. -/
def roundSignificand (value : Nat) : Nat :=
  let bits := value.log2 + 1
  if bits ≤ 53 then value
  else
    let unit := 1 <<< (bits - 53)
    let quotient := value / unit
    let remainder := value % unit
    if unit < 2 * remainder || (unit == 2 * remainder && quotient % 2 == 1) then (quotient + 1) * unit
    else quotient * unit

def isFinite (significand : Nat) (exponent : Int) : Bool :=
  significand == 0 || exponent < 0 ||
    (exponent ≤ 308 &&
      roundSignificand significand * roundSignificand (Nat.pow 10 exponent.toNat) <
        Width.bound 1024 - Width.bound 970)

def finishDecimal (isNegative : Bool) (significand : Nat) (exponent : Int) (rest : Bytes) :
    Except Fault (Number × Bytes) :=
  if isFinite significand exponent then .ok (.decimal isNegative significand exponent, rest)
  else .error (.here .numberOutOfRange rest)

/-- The digits of an exponent. One beyond 31 bits decides at once, unless it only makes zero. -/
def readExponentDigits (mayBeLarge : Bool) (value : Nat) : Bytes → Except Fault (Nat × Bytes)
  | [] => .ok (value, [])
  | byte :: rest =>
      match digit? byte with
      | none => .ok (value, byte :: rest)
      | some digit =>
          if Width.bound 31 ≤ value * 10 + digit then
            if mayBeLarge then .ok (value * 10 + digit, skipDigits rest)
            else .error (.here .numberOutOfRange rest)
          else readExponentDigits mayBeLarge (value * 10 + digit) rest

def readExponent (isNegative : Bool) (significand : Nat) (exponent : Int) (bytes : Bytes) :
    Except Fault (Number × Bytes) :=
  let (isRaised, unsigned) := match bytes with
    | 0x2B :: rest => (true, rest)
    | 0x2D :: rest => (false, rest)
    | rest => (true, rest)
  match unsigned with
  | [] => .error (.here .endOfValue [])
  | byte :: rest =>
      match digit? byte with
      | none => .error (.here .invalidNumber rest)
      | some digit => do
          let (value, rest) ← readExponentDigits (significand == 0 || !isRaised) digit rest
          finishDecimal isNegative significand (exponent + if isRaised then (value : Int) else -value) rest

def isExponentMark (byte : UInt8) : Bool :=
  byte == 0x65 || byte == 0x45

def readExponentOrEnd (isNegative : Bool) (significand : Nat) (exponent : Int) :
    Bytes → Except Fault (Number × Bytes)
  | [] => finishDecimal isNegative significand exponent []
  | byte :: rest =>
      if isExponentMark byte then readExponent isNegative significand exponent rest
      else finishDecimal isNegative significand exponent (byte :: rest)

def readFraction (isNegative : Bool) (significand : Nat) (exponent : Int) (bytes : Bytes) :
    Except Fault (Number × Bytes) :=
  match bytes with
  | [] => .error (.next .endOfValue [])
  | byte :: _ =>
      if (digit? byte).isNone then .error (.next .invalidNumber bytes)
      else
        let (value, count, rest) := readSignificand significand bytes
        readExponentOrEnd isNegative value (exponent - count) (skipDigits rest)

/-- An integer that 64 bits do not hold is a decimal number; so is minus zero. -/
def finishInteger (isNegative : Bool) (significand : Nat) : Number :=
  if !isNegative then .integer significand
  else if significand == 0 || Width.bound 63 < significand then .decimal true significand 0
  else .integer (-significand)

def readAfterInteger (isNegative : Bool) (significand : Nat) : Bytes → Except Fault (Number × Bytes)
  | [] => .ok (finishInteger isNegative significand, [])
  | byte :: rest =>
      if byte == 0x2E then readFraction isNegative significand 0 rest
      else if isExponentMark byte then readExponent isNegative significand 0 rest
      else .ok (finishInteger isNegative significand, byte :: rest)

def countDigits : Bytes → Nat
  | [] => 0
  | byte :: rest => if (digit? byte).isSome then countDigits rest + 1 else 0

def readLongInteger (isNegative : Bool) (significand : Nat) (bytes : Bytes) :
    Except Fault (Number × Bytes) :=
  let exponent : Int := countDigits bytes
  match skipDigits bytes with
  | [] => finishDecimal isNegative significand exponent []
  | byte :: rest =>
      if byte == 0x2E then readFraction isNegative significand exponent rest
      else readExponentOrEnd isNegative significand exponent (byte :: rest)

def readNumber (isNegative : Bool) : Read Number
  | [] => .error (.here .endOfValue [])
  | byte :: rest =>
      match digit? byte with
      | none => .error (.here .invalidNumber rest)
      | some digit =>
          if digit == 0 then
            match rest with
            | following :: _ =>
                if (digit? following).isSome then .error (.next .invalidNumber rest)
                else readAfterInteger isNegative 0 rest
            | [] => readAfterInteger isNegative 0 []
          else
            let (significand, _, unread) := readSignificand digit rest
            match unread with
            | following :: _ =>
                if (digit? following).isSome then readLongInteger isNegative significand unread
                else readAfterInteger isNegative significand unread
            | [] => readAfterInteger isNegative significand []

end ObjectStore.Json
