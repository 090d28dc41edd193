import ObjectStore.Url.Basic

/-!
Reading an absolute URL. Blanks around it, tabs and line ends in it do not count.
-/

namespace ObjectStore.Url

/-! ### What each part keeps -/

def isVisible (byte : UInt8) : Bool :=
  0x21 ≤ byte && byte < 0x7F

def inFragment (byte : UInt8) : Bool :=
  isVisible byte && !Percent.among "\"<>`" byte

def inPath (byte : UInt8) : Bool :=
  inFragment byte && !Percent.among "#?\x7b\x7d" byte

def inUserInfo (byte : UInt8) : Bool :=
  inPath byte && !Percent.among "/:;=@[\\]^|" byte

def inQuery (byte : UInt8) : Bool :=
  isVisible byte && !Percent.among "\"#<>" byte

def inSpecialQuery (byte : UInt8) : Bool :=
  inQuery byte && byte != 0x27

def encodeChars (safe : Percent.SafeSet) (characters : List Char) : String :=
  Percent.encode safe (String.ofList characters)

/-! ### Scheme -/

def isAsciiLetter (character : Char) : Bool :=
  ('a' ≤ character && character ≤ 'z') || ('A' ≤ character && character ≤ 'Z')

def isSchemeCharacter (character : Char) : Bool :=
  isAsciiLetter character || ('0' ≤ character && character ≤ '9') ||
    character = '+' || character = '-' || character = '.'

def significant (input : String) : List Char :=
  let trimmed := input.toList.dropWhile fun character => character.toNat ≤ 0x20
  let trimmed := (trimmed.reverse.dropWhile fun character => character.toNat ≤ 0x20).reverse
  trimmed.filter fun character => character != '\t' && character != '\n' && character != '\r'

def splitScheme? (characters : List Char) : Option (String × List Char) :=
  match characters with
  | [] => none
  | first :: _ =>
      if isAsciiLetter first then
        match characters.dropWhile isSchemeCharacter with
        | ':' :: rest =>
            some (String.ofList ((characters.takeWhile isSchemeCharacter).map Char.toLower), rest)
        | _ => none
      else none

/-! ### Authority -/

def isBackslash (character : Char) : Bool :=
  character.toNat == 0x5C

def isDelimiter (isSpecial : Bool) (character : Char) : Bool :=
  character = '/' || character = '?' || character = '#' || (isSpecial && isBackslash character)

structure UserInfo where
  username : String
  password : Option String
deriving DecidableEq, Repr

def parseUserInfo (characters : List Char) : UserInfo :=
  let name := characters.takeWhile (· != ':')
  match characters.dropWhile (· != ':') with
  | _ :: character :: rest => ⟨encodeChars inUserInfo name, some (encodeChars inUserInfo (character :: rest))⟩
  | _ => ⟨encodeChars inUserInfo name, none⟩

def UserInfo.isEmpty (userInfo : UserInfo) : Bool :=
  userInfo.username = "" && userInfo.password.isNone

def splitUserInfo (isSpecial : Bool) (characters : List Char) :
    Except UrlFault (UserInfo × List Char) :=
  let authority := characters.takeWhile fun character => !isDelimiter isSpecial character
  if authority.contains '@' then
    let afterAt := (authority.reverse.takeWhile (· != '@')).reverse
    let user := authority.take (authority.length - afterAt.length - 1)
    let rest := characters.drop (user.length + 1)
    if user.isEmpty && (rest.head?.map (isDelimiter isSpecial)).getD false then .error .emptyHost
    else .ok (parseUserInfo user, rest)
  else .ok (⟨"", none⟩, characters)

def takeHost (isSpecial : Bool) : Bool → List Char → List Char × List Char
  | _, [] => ([], [])
  | inBrackets, character :: rest =>
      if isDelimiter isSpecial character || (character = ':' && !inBrackets) then ([], character :: rest)
      else
        let stillInBrackets :=
          if character = '[' then true else if character = ']' then false else inBrackets
        let (host, unread) := takeHost isSpecial stillInBrackets rest
        (character :: host, unread)

def parseHost (isSpecial : Bool) (characters : List Char) : Except UrlFault (Host × List Char) := do
  let (name, rest) := takeHost isSpecial false characters
  if isSpecial then
    if name.isEmpty then throw .emptyHost
    let host ← Host.parse name
    pure (host, rest)
  else
    let host ← Host.parsePlain name
    if host = .domain "" && rest.head? = some ':' then throw .emptyHost
    pure (host, rest)

def portDigits (value : Nat) : List Char → Except UrlFault (Nat × List Char)
  | [] => .ok (value, [])
  | character :: rest =>
      match Host.digitIn? 10 character with
      | some digit =>
          if 65535 < value * 10 + digit then .error .invalidPort
          else portDigits (value * 10 + digit) rest
      | none =>
          if isDelimiter true character then .ok (value, character :: rest) else .error .invalidPort

def parsePort (scheme : String) : List Char → Except UrlFault (Option Nat × List Char)
  | ':' :: rest => do
      let (port, unread) ← portDigits 0 rest
      let isGiven := unread.length < rest.length
      pure (if isGiven && defaultPort? scheme ≠ some port then some port else none, unread)
  | rest => .ok (none, rest)

/-! ### Path, query and fragment -/

def isDot (segment : String) : Bool :=
  segment = "." || segment.toLower = "%2e"

def isDoubleDot (segment : String) : Bool :=
  ["..", ".%2e", "%2e.", "%2e%2e"].contains segment.toLower

def isDriveLetter : List Char → Bool
  | [letter, mark] => isAsciiLetter letter && (mark = ':' || mark = '|')
  | _ => false

def shorten (kind : SchemeKind) (segments : List String) : List String :=
  match kind, segments with
  | .file, [only] => if isDriveLetter only.toList && only.toList.getLast? = some ':' then [only] else []
  | _, _ => segments.dropLast

/-- Segments are taken one by one: a dot segment adds nothing, a double one takes away the segment
before it, and either of them at the end leaves the path open. -/
def resolveSegments (kind : SchemeKind) : List String → List String → List String
  | path, [] => path
  | path, [last] =>
      if isDoubleDot last then shorten kind path ++ [""]
      else if isDot last then path ++ [""]
      else path ++ [last]
  | path, segment :: rest =>
      if isDoubleDot segment then resolveSegments kind (shorten kind path) rest
      else if isDot segment then resolveSegments kind path rest
      else resolveSegments kind (path ++ [segment]) rest

def normalizeDrive : List String → List String
  | first :: rest =>
      (if isDriveLetter first.toList then String.ofList [first.toList.headD ' ', ':'] else first) :: rest
  | [] => []

def withoutLeadingEmpty : List String → List String
  | "" :: second :: rest => withoutLeadingEmpty (second :: rest)
  | segments => segments

def splitSegments (isSpecial : Bool) : List Char → List (List Char)
  | [] => [[]]
  | character :: rest =>
      if character = '/' || (isSpecial && isBackslash character) then [] :: splitSegments isSpecial rest
      else match splitSegments isSpecial rest with
        | [] => [[character]]
        | piece :: pieces => (character :: piece) :: pieces

def isPathEnd (character : Char) : Bool :=
  character = '?' || character = '#'

def splitPath (characters : List Char) : List Char × List Char :=
  (characters.takeWhile fun character => !isPathEnd character,
    characters.dropWhile fun character => !isPathEnd character)

def parseSegments (kind : SchemeKind) (characters : List Char) : List String :=
  let pieces := (splitSegments (kind ≠ .other) characters).map (encodeChars inPath)
  match kind with
  | .file =>
      withoutLeadingEmpty (resolveSegments kind [] (normalizeDrive (withoutLeadingEmpty pieces)))
  | _ => resolveSegments kind [] pieces

/-- The path after an authority. Only schemes that are not special may have none. -/
def parsePath (kind : SchemeKind) (characters : List Char) : List String :=
  match kind, characters with
  | .other, [] => []
  | _, [] => parseSegments kind []
  | _, first :: rest =>
      if first = '/' || (kind ≠ .other && isBackslash first) then parseSegments kind rest
      else parseSegments kind (first :: rest)

structure Tail where
  query : Option String
  fragment : Option String
deriving DecidableEq, Repr

def parseFragment : List Char → Option String
  | [] => none
  | _ :: rest => some (encodeChars inFragment rest)

def parseTail (kind : SchemeKind) : List Char → Tail
  | '?' :: rest =>
      let query := rest.takeWhile (· != '#')
      let safe := if kind = .other then inQuery else inSpecialQuery
      ⟨some (encodeChars safe query), parseFragment (rest.dropWhile (· != '#'))⟩
  | rest => ⟨none, parseFragment rest⟩

/-! ### Whole URLs -/

def parseAuthority (scheme : String) (characters : List Char) : Except UrlFault Url := do
  let kind := schemeKind scheme
  let isSpecial := kind = .special
  let (user, rest) ← splitUserInfo isSpecial characters
  let (host, rest) ← parseHost isSpecial rest
  let (port, rest) ← parsePort scheme rest
  if host = .domain "" && !user.isEmpty then throw .emptyHost
  let (path, rest) := splitPath rest
  let tail := parseTail kind rest
  pure ⟨scheme, user.username, user.password, some host, port, .segments (parsePath kind path),
    tail.query, tail.fragment⟩

def parseFile (characters : List Char) : Except UrlFault Url := do
  let isSlash (character : Char) : Bool := character = '/' || isBackslash character
  let (name, rest) := match characters with
    | first :: second :: rest =>
        if isSlash first && isSlash second then
          let name := rest.takeWhile fun character => !isDelimiter true character
          if isDriveLetter name then ([], rest) else (name, rest.drop name.length)
        else ([], characters)
    | _ => ([], characters)
  let host ← if name.isEmpty then pure (Host.domain "") else Host.parse name
  let host := if host = .domain "localhost" then Host.domain "" else host
  let (path, rest) := splitPath rest
  let tail := parseTail .file rest
  pure ⟨"file", "", none, some host, none, .segments (parsePath .file path), tail.query, tail.fragment⟩

def parseOther (scheme : String) (characters : List Char) : Except UrlFault Url :=
  match characters with
  | '/' :: '/' :: rest => parseAuthority scheme rest
  | '/' :: rest =>
      let (path, rest) := splitPath rest
      let tail := parseTail .other rest
      .ok ⟨scheme, "", none, none, none, .segments (parseSegments .other path), tail.query, tail.fragment⟩
  | _ =>
      let (path, rest) := splitPath characters
      let tail := parseTail .other rest
      .ok ⟨scheme, "", none, none, none, .plain (encodeChars Host.isPlain path), tail.query, tail.fragment⟩

def parse (input : String) : Except UrlFault Url :=
  match splitScheme? (significant input) with
  | none => .error .noBase
  | some (scheme, rest) =>
      match schemeKind scheme with
      | .special =>
          parseAuthority scheme (rest.dropWhile fun character => character = '/' || isBackslash character)
      | .file => parseFile rest
      | .other => parseOther scheme rest

end ObjectStore.Url
