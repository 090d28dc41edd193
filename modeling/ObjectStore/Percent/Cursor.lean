import ObjectStore.Percent

/-!
Decoding as a loop over positions. A byte is read with or without a look at how long the text is, and a read behind
the end breaks the loop off.
-/

namespace ObjectStore.Percent

structure Cursor where
  position : Nat
  decoded : Array UInt8
deriving DecidableEq, Repr

inductive Round where
  | goesOn (cursor : Cursor)
  | ends (result : Option Bytes)
  | overruns
deriving DecidableEq, Repr

namespace Round

/-- Takes it for granted that there is a byte. -/
def reading (text : Array UInt8) (position : Nat) (next : UInt8 → Round) : Round :=
  match text[position]? with
  | some byte => next byte
  | none => .overruns

def readingDigit (text : Array UInt8) (position : Nat) (next : UInt8 → Round) : Round :=
  if position < text.size then
    reading text position fun digit =>
      match hexValue? digit with
      | some value => next value
      | none => .ends none
  else .ends none

end Round

namespace Cursor

def start : Cursor :=
  ⟨0, #[]⟩

def moved (cursor : Cursor) (width : Nat) (byte : UInt8) : Cursor :=
  ⟨cursor.position + width, cursor.decoded.push byte⟩

def round (text : Array UInt8) (cursor : Cursor) : Round :=
  if cursor.position < text.size then
    .reading text cursor.position fun byte =>
      if byte == 0x25 then
        .readingDigit text (cursor.position + 1) fun upper =>
          .readingDigit text (cursor.position + 2) fun lower =>
            .goesOn (cursor.moved 3 (upper <<< 4 ||| lower))
      else .goesOn (cursor.moved 1 byte)
  else .ends (some cursor.decoded.toList)

def after (text : Array UInt8) (cursor : Cursor) : Nat → Round
  | 0 => .goesOn cursor
  | rounds + 1 =>
      match cursor.round text with
      | .goesOn next => next.after text rounds
      | last => last

end Cursor

/-- A round for each byte and one to see the end are enough. -/
def scan (text : String) : Round :=
  let bytes := text.toByteArray.data
  Cursor.start.after bytes (bytes.size + 1)

end ObjectStore.Percent
