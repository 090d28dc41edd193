import ObjectStore.Url.Basic

/-!
Queries as lists of names and values: blanks are written as plus signs, and all but letters, digits
and `*-._` is percent-encoded.
-/

namespace ObjectStore.Form

def isKept (byte : UInt8) : Bool :=
  Percent.isAlphanumeric byte || byte == 0x2A || byte == 0x2D || byte == 0x2E || byte == 0x5F

def encodeByte (byte : UInt8) : Bytes :=
  if byte == 0x20 then [0x2B] else Percent.encodeByte isKept byte

def encode (text : String) : String :=
  Percent.asciiText ((Bytes.ofText text).flatMap encodeByte)

def pairText (pair : String × String) : String :=
  encode pair.1 ++ "=" ++ encode pair.2

def joinPairs (pairs : List (String × String)) : String :=
  String.intercalate "&" (pairs.map pairText)

def appendPairs (url : Url) (pairs : List (String × String)) : Url :=
  let query := match url.query with
    | none | some "" => joinPairs pairs
    | some before => if pairs.isEmpty then before else before ++ "&" ++ joinPairs pairs
  { url with query := some query }

def decode (bytes : Bytes) : String :=
  Bytes.toTextLossy (Percent.decodeLenient (bytes.map fun byte => if byte == 0x2B then 0x20 else byte))

def splitBytes (separator : UInt8) : Bytes → List Bytes
  | [] => [[]]
  | byte :: rest =>
      if byte == separator then [] :: splitBytes separator rest
      else match splitBytes separator rest with
        | [] => [[byte]]
        | piece :: pieces => (byte :: piece) :: pieces

def parsePair (piece : Bytes) : String × String :=
  (decode (piece.takeWhile (· != 0x3D)), decode ((piece.dropWhile (· != 0x3D)).drop 1))

def parsePairs (query : String) : List (String × String) :=
  ((splitBytes 0x26 (Bytes.ofText query)).filter fun piece => !piece.isEmpty).map parsePair

def pairs (url : Url) : List (String × String) :=
  match url.query with
  | some query => parsePairs query
  | none => []

end ObjectStore.Form
