import ObjectStore.Bytes
import ObjectStore.Calendar
import ObjectStore.Text.Decimal

/-!
Points in time with the offset of the place that wrote them, and their RFC 3339 text. Reading admits
any byte between date and time, either case of `Z`, any number of digits in a fraction, and a leap
second where one can be; it becomes the nanosecond before it.
-/

namespace ObjectStore

def nanosPerSecond : Int := 1000000000

def nanosPerDay : Int := 86400 * nanosPerSecond

/-- `wallClock` counts the nanoseconds of the calendar and clock at the offset, from the first day of
year 1. The offset is in seconds. -/
structure Timestamp where
  wallClock : Int
  offset : Int
deriving DecidableEq, Repr

namespace Timestamp

def instant (time : Timestamp) : Int :=
  time.wallClock - time.offset * nanosPerSecond

def sameInstant (left right : Timestamp) : Bool :=
  left.instant == right.instant

def date (time : Timestamp) : Calendar.Date :=
  Calendar.Date.ofDays (time.wallClock / nanosPerDay)

def ofUnixSeconds (seconds : Int) : Timestamp :=
  ⟨(Calendar.unixEpoch * 86400 + seconds) * nanosPerSecond, 0⟩

/-- Calendars reach from the start of year -9999 to the end of year 9999. -/
def isRepresentable (wallClock : Int) : Bool :=
  Calendar.daysBeforeYear (-9999) * nanosPerDay ≤ wallClock &&
    wallClock < Calendar.daysBeforeYear 10000 * nanosPerDay

def add? (time : Timestamp) (nanos : Int) : Option Timestamp :=
  if isRepresentable (time.wallClock + nanos) then some { time with wallClock := time.wallClock + nanos }
  else none

inductive Component where
  | year | month | day | separator | hour | minute | second | subsecond | offsetHour | offsetMinute
deriving DecidableEq, Repr

def Component.name : Component → String
  | .year => "year"
  | .month => "month"
  | .day => "day"
  | .separator => "separator"
  | .hour => "hour"
  | .minute => "minute"
  | .second => "second"
  | .subsecond => "subsecond"
  | .offsetHour => "offset hour"
  | .offsetMinute => "offset minute"

inductive Fault where
  | unreadable (component : Component)
  | literal
  | trailing
  | outOfRange (component : Component)
deriving DecidableEq, Repr

def Fault.message : Fault → String
  | .unreadable component => "the '" ++ component.name ++ "' component could not be parsed"
  | .literal => "a character literal was not valid"
  | .trailing => "unexpected trailing characters; the end of input was expected"
  | .outOfRange component => component.name ++ " was not in range"

def digit? (byte : UInt8) : Option Nat :=
  if 0x30 ≤ byte && byte ≤ 0x39 then some (byte.toNat - 0x30) else none

def readDigits (component : Component) : Nat → Nat → Bytes → Except Fault (Nat × Bytes)
  | 0, value, rest => .ok (value, rest)
  | _ + 1, _, [] => .error (.unreadable component)
  | count + 1, value, byte :: rest =>
      match digit? byte with
      | some digit => readDigits component count (value * 10 + digit) rest
      | none => .error (.unreadable component)

def readLiteral (expected : UInt8) : Bytes → Except Fault Bytes
  | [] => .error .literal
  | byte :: rest => if byte == expected then .ok rest else .error .literal

def skipSeparator : Bytes → Except Fault Bytes
  | [] => .error (.unreadable .separator)
  | _ :: rest => .ok rest

def readFraction (weight : Nat) : Bytes → Nat × Bytes
  | [] => (0, [])
  | byte :: rest =>
      match digit? byte with
      | some digit =>
          let (fraction, unread) := readFraction (weight / 10) rest
          (digit * weight + fraction, unread)
      | none => (0, byte :: rest)

def readSubsecond : Bytes → Except Fault (Nat × Bytes)
  | 0x2E :: byte :: rest =>
      match digit? byte with
      | some _ => .ok (readFraction 100000000 (byte :: rest))
      | none => .error (.unreadable .subsecond)
  | [0x2E] => .error (.unreadable .subsecond)
  | rest => .ok (0, rest)

def readNumericOffset (sign : Int) (rest : Bytes) : Except Fault (Int × Bytes) := do
  let (hour, rest) ← readDigits .offsetHour 2 0 rest
  if 23 < hour then throw (.unreadable .offsetHour)
  let rest ← readLiteral 0x3A rest
  let (minute, rest) ← readDigits .offsetMinute 2 0 rest
  if 59 < minute then throw (.outOfRange .offsetMinute)
  pure (sign * (hour * 3600 + minute * 60 : Int), rest)

def readOffset : Bytes → Except Fault (Int × Bytes)
  | [] => .error (.unreadable .offsetHour)
  | byte :: rest =>
      if byte == 0x5A || byte == 0x7A then .ok (0, rest)
      else if byte == 0x2B then readNumericOffset 1 rest
      else if byte == 0x2D then readNumericOffset (-1) rest
      else .error (.unreadable .offsetHour)

/-- What the text spells out, before any range but that of the offset is looked at. -/
structure Fields where
  year : Nat
  month : Nat
  day : Nat
  hour : Nat
  minute : Nat
  second : Nat
  nanos : Nat
  offset : Int
deriving DecidableEq, Repr

def readFields (bytes : Bytes) : Except Fault Fields := do
  let (year, rest) ← readDigits .year 4 0 bytes
  let rest ← readLiteral 0x2D rest
  let (month, rest) ← readDigits .month 2 0 rest
  if month == 0 then throw (.unreadable .month)
  let rest ← readLiteral 0x2D rest
  let (day, rest) ← readDigits .day 2 0 rest
  let rest ← skipSeparator rest
  let (hour, rest) ← readDigits .hour 2 0 rest
  let rest ← readLiteral 0x3A rest
  let (minute, rest) ← readDigits .minute 2 0 rest
  let rest ← readLiteral 0x3A rest
  let (second, rest) ← readDigits .second 2 0 rest
  let (nanos, rest) ← readSubsecond rest
  let (offset, rest) ← readOffset rest
  if rest.isEmpty then pure ⟨year, month, day, hour, minute, second, nanos, offset⟩
  else throw .trailing

def ofParts (date : Calendar.Date) (hour minute second nanos : Nat) (offset : Int) : Timestamp :=
  ⟨date.toDays * nanosPerDay + (hour * 3600 + minute * 60 + second : Int) * nanosPerSecond + nanos, offset⟩

/-- A leap second ends the last day of a month at offset zero. -/
def endsMonth (time : Timestamp) : Bool :=
  let universal : Timestamp := ⟨time.instant, 0⟩
  let today := universal.date
  universal.instant % nanosPerDay == nanosPerDay - 1 &&
    today.day == Calendar.monthLength today.year today.month

def Fields.toTimestamp (fields : Fields) : Except Fault Timestamp := do
  let isLeapSecond := fields.second == 60
  let second := if isLeapSecond then 59 else fields.second
  let nanos := if isLeapSecond then 999999999 else fields.nanos
  if 12 < fields.month then throw (.outOfRange .month)
  if fields.day == 0 || Calendar.monthLength fields.year fields.month < fields.day then
    throw (.outOfRange .day)
  if 23 < fields.hour then throw (.outOfRange .hour)
  if 59 < fields.minute then throw (.outOfRange .minute)
  if 59 < second then throw (.outOfRange .second)
  let time := ofParts ⟨fields.year, fields.month, fields.day⟩ fields.hour fields.minute second nanos fields.offset
  if isLeapSecond && !time.endsMonth then throw (.outOfRange .second)
  pure time

def parse (text : String) : Except Fault Timestamp := do
  let fields ← readFields (Bytes.ofText text)
  fields.toTimestamp

def digitChar (value : Nat) : Char :=
  Char.ofNat (0x30 + value % 10)

def twoDigits (value : Nat) : List Char :=
  [digitChar (value / 10), digitChar value]

def fourDigits (value : Nat) : List Char :=
  twoDigits (value / 100) ++ twoDigits (value % 100)

def fractionDigits (weight value : Nat) : List Char :=
  if value == 0 then []
  else match weight with
    | 0 => []
    | weight + 1 =>
        let unit := Nat.pow 10 weight
        digitChar (value / unit) :: fractionDigits weight (value % unit)

def fractionText (nanos : Nat) : List Char :=
  if nanos == 0 then [] else '.' :: fractionDigits 9 nanos

def offsetText (offset : Int) : List Char :=
  if offset == 0 then ['Z']
  else
    (if offset < 0 then '-' else '+') :: twoDigits (offset.natAbs / 3600) ++
      ':' :: twoDigits (offset.natAbs / 60 % 60)

inductive WriteFault where
  | year | offsetHour | offsetSecond
deriving DecidableEq, Repr

def WriteFault.component : WriteFault → String
  | .year => "year"
  | .offsetHour => "offset_hour"
  | .offsetSecond => "offset_second"

def WriteFault.message (fault : WriteFault) : String :=
  "The " ++ fault.component ++ " component cannot be formatted into the requested format."

/-- There is a text when the year has four digits and the offset is whole minutes below a day. -/
def write (time : Timestamp) : Except WriteFault String := do
  let date := time.date
  if date.year < 0 || 9999 < date.year then throw .year
  if 86400 ≤ time.offset.natAbs then throw .offsetHour
  if time.offset.natAbs % 60 != 0 then throw .offsetSecond
  let nanosOfDay := (time.wallClock % nanosPerDay).toNat
  let secondOfDay := nanosOfDay / 1000000000
  pure (String.ofList (
    fourDigits date.year.toNat ++ '-' :: twoDigits date.month ++ '-' :: twoDigits date.day ++
    'T' :: twoDigits (secondOfDay / 3600) ++ ':' :: twoDigits (secondOfDay / 60 % 60) ++
    ':' :: twoDigits (secondOfDay % 60) ++ fractionText (nanosOfDay % 1000000000) ++
    offsetText time.offset))

def format? (time : Timestamp) : Option String :=
  time.write.toOption

end Timestamp

end ObjectStore
