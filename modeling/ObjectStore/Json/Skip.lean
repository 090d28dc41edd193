import ObjectStore.Json.Token

/-!
Passing over a value that nobody asked for. Its texts need not be text, its numbers may be of any
size, and it may be nested to any depth.
-/

namespace ObjectStore.Json

def skipEscape : Bytes → Except Fault Bytes
  | [] => .error (.here .endOfString [])
  | letter :: rest =>
      if (simpleEscape? letter).isSome then .ok rest
      else if letter == 0x75 then do
        let (_, rest) ← readFourHexDigits rest
        pure rest
      else .error (.here .invalidEscape rest)

theorem skipEscape_length {bytes rest : Bytes} (skipped : skipEscape bytes = .ok rest) :
    rest.length < bytes.length := by
  unfold skipEscape at skipped
  split at skipped
  · cases skipped
  · rename_i letter tail
    split at skipped
    · simp only [Except.ok.injEq] at skipped
      simp [← skipped]
    · split at skipped
      · cases digits : readFourHexDigits tail with
        | error fault => simp [digits, bind, Except.bind] at skipped
        | ok result =>
            have shorter :=
              readFourHexDigits_length (digits.trans (congrArg Except.ok (Prod.eta result).symm))
            simp only [digits, bind, Except.bind, pure, Except.pure, Except.ok.injEq] at skipped
            simp only [← skipped, List.length_cons]
            omega
      · cases skipped

def skipText (bytes : Bytes) : Except Fault Bytes :=
  match bytes with
  | [] => .error (.here .endOfString [])
  | byte :: rest =>
      if byte == 0x22 then .ok rest
      else if byte == 0x5C then
        match _escaped : skipEscape rest with
        | .error fault => .error fault
        | .ok unread => skipText unread
      else if byte < 0x20 then .error (.here .controlCharacter (byte :: rest))
      else skipText rest
termination_by bytes.length
decreasing_by
  · have := skipEscape_length _escaped
    simp only [List.length_cons]
    omega
  · simp

def skipExponent (bytes : Bytes) : Except Fault Bytes :=
  let unsigned := match bytes with
    | 0x2B :: rest => rest
    | 0x2D :: rest => rest
    | rest => rest
  match unsigned with
  | [] => .error (.here .invalidNumber [])
  | byte :: rest =>
      if (digit? byte).isSome then .ok (skipDigits rest) else .error (.here .invalidNumber rest)

def skipFraction (bytes : Bytes) : Except Fault Bytes :=
  match bytes with
  | [] => .error (.next .invalidNumber [])
  | byte :: _ =>
      if (digit? byte).isNone then .error (.next .invalidNumber bytes)
      else match skipDigits bytes with
        | [] => .ok []
        | mark :: rest => if isExponentMark mark then skipExponent rest else .ok (mark :: rest)

def skipNumber : Bytes → Except Fault Bytes
  | [] => .error (.here .invalidNumber [])
  | byte :: rest => do
      let unread ← match digit? byte with
        | none => throw (.here .invalidNumber rest)
        | some digit =>
            if digit == 0 then
              match rest with
              | following :: _ =>
                  if (digit? following).isSome then throw (.next .invalidNumber rest) else pure rest
              | [] => pure rest
            else pure (skipDigits rest)
      match unread with
      | [] => pure []
      | mark :: tail =>
          if mark == 0x2E then skipFraction tail
          else if isExponentMark mark then skipExponent tail
          else pure (mark :: tail)

inductive Bracket where
  | list | object
deriving DecidableEq, Repr

def skipName (bytes : Bytes) : Except Fault Bytes :=
  match skipBlank bytes with
  | [] => .error (.next .endOfObject [])
  | byte :: rest =>
      if byte != 0x22 then .error (.next .keyNotText (byte :: rest))
      else do
        let rest ← skipText rest
        match skipBlank rest with
        | [] => throw (.next .endOfObject [])
        | colon :: rest => if colon == 0x3A then pure rest else throw (.next .expectedColon (colon :: rest))

def skipToValue (needsComma : Bool) : List Bracket → Bytes → Except Fault (Option (List Bracket) × Bytes)
  | [], rest => .ok (none, rest)
  | bracket :: outer, bytes =>
      match skipBlank bytes with
      | [] => .error (.next (if bracket = .list then .endOfList else .endOfObject) [])
      | byte :: rest =>
          if needsComma && byte == 0x2C then
            match bracket with
            | .list => .ok (some (bracket :: outer), rest)
            | .object => (skipName rest).map fun unread => (some (bracket :: outer), unread)
          else if byte == (if bracket = .list then 0x5D else 0x7D) then skipToValue true outer rest
          else if needsComma then
            .error (.next (if bracket = .list then .expectedListEnd else .expectedObjectEnd) (byte :: rest))
          else match bracket with
            | .list => .ok (some (bracket :: outer), byte :: rest)
            | .object => (skipName (byte :: rest)).map fun unread => (some (bracket :: outer), unread)

def skipScalar (first : UInt8) (rest : Bytes) : Except Fault Bytes :=
  if first == 0x6E then readWord afterN rest
  else if first == 0x74 then readWord afterT rest
  else if first == 0x66 then readWord afterF rest
  else if first == 0x2D then skipNumber rest
  else if (digit? first).isSome then skipNumber (first :: rest)
  else if first == 0x22 then skipText rest
  else .error (.next .expectedValue (first :: rest))

/-- Each round reads at least one byte, so that as many rounds as there are bytes are enough. -/
def skipRounds : Nat → List Bracket → Bytes → Except Fault Bytes
  | 0, _, rest => .error (.next .endOfValue rest)
  | rounds + 1, enclosing, bytes =>
      match skipBlank bytes with
      | [] => .error (.next .endOfValue [])
      | first :: rest => do
          let (needsComma, brackets, unread) ←
            if first == 0x5B then pure (false, Bracket.list :: enclosing, rest)
            else if first == 0x7B then pure (false, Bracket.object :: enclosing, rest)
            else do
              let unread ← skipScalar first rest
              pure (true, enclosing, unread)
          match ← skipToValue needsComma brackets unread with
          | (none, unread) => pure unread
          | (some brackets, unread) => skipRounds rounds brackets unread

def skipValue (bytes : Bytes) : Except Fault Bytes :=
  skipRounds (bytes.length + 1) [] bytes

end ObjectStore.Json
