import Mathlib.Data.List.TakeWhile
import ObjectStore.Proofs.Percent
import ObjectStore.Url.Parser

/-!
URLs in their normal form read back as they are written: a host, segments that are not dots, and a
query in which everything unsafe is encoded.
-/

namespace ObjectStore.Url

open Bytes (IsAscii toChars)

def isSegmentByte (byte : UInt8) : Bool :=
  inPath byte && byte != 0x2F && byte != 0x5C

structure IsSegment (segment : String) : Prop where
  bytes : ∀ byte ∈ Bytes.ofText segment, isSegmentByte byte = true
  notDot : isDot segment = false
  notDoubleDot : isDoubleDot segment = false

def isHostCharacter (character : Char) : Bool :=
  !isDelimiter true character && character != ':' && character != '@' && character != '[' &&
    0x20 < character.toNat

structure IsHost (host : String) : Prop where
  characters : ∀ character ∈ host.toList, isHostCharacter character = true
  notEmpty : host.toList ≠ []
  parsed : Host.parse host.toList = .ok (.domain host)

def IsQuery (query : Option String) : Prop :=
  ∀ text, query = some text → ∀ byte ∈ Bytes.ofText text, inSpecialQuery byte = true

theorem isQuery_none : IsQuery none :=
  fun _ same => by cases same

def ofPlace (host : String) (segments : List String) (query : Option String) : Url :=
  ⟨"https", "", none, some (.domain host), none, .segments segments, query, none⟩

/-! ### Bytes of segments and queries -/

theorem inPath_iff {byte : UInt8} : inPath byte = true ↔ 0x21 ≤ byte.toNat ∧ byte.toNat < 0x7F ∧
    byte.toNat ∉ [0x22, 0x3C, 0x3E, 0x60, 0x23, 0x3F, 0x7B, 0x7D] := by
  have fragment : Bytes.ofText "\"<>`" = [0x22, 0x3C, 0x3E, 0x60] := rfl
  have path : Bytes.ofText "#?\x7b\x7d" = [0x23, 0x3F, 0x7B, 0x7D] := rfl
  simp only [inPath, inFragment, isVisible, Percent.among, fragment, path, List.contains_cons, List.contains_nil,
    Bool.or_false, Bool.not_or, Bool.and_eq_true, decide_eq_true_eq, UInt8.le_iff_toNat_le, UInt8.lt_iff_toNat_lt,
    Bool.not_eq_true', beq_eq_false_iff_ne, ne_eq, ← UInt8.toNat_inj, UInt8.reduceToNat, List.mem_cons,
    List.not_mem_nil, or_false]
  omega

theorem isSegmentByte_iff {byte : UInt8} : isSegmentByte byte = true ↔
    inPath byte = true ∧ byte.toNat ≠ 0x2F ∧ byte.toNat ≠ 0x5C := by
  simp only [isSegmentByte, Bool.and_eq_true, bne_iff_ne, ne_eq, ← UInt8.toNat_inj, UInt8.reduceToNat, and_assoc]

theorem inSpecialQuery_iff {byte : UInt8} : inSpecialQuery byte = true ↔ 0x21 ≤ byte.toNat ∧ byte.toNat < 0x7F ∧
    byte.toNat ∉ [0x22, 0x23, 0x3C, 0x3E, 0x27] := by
  have query : Bytes.ofText "\"#<>" = [0x22, 0x23, 0x3C, 0x3E] := rfl
  simp only [inSpecialQuery, inQuery, isVisible, Percent.among, query, List.contains_cons, List.contains_nil,
    Bool.or_false, Bool.not_or, Bool.and_eq_true, decide_eq_true_eq, UInt8.le_iff_toNat_le, UInt8.lt_iff_toNat_lt,
    Bool.not_eq_true', beq_eq_false_iff_ne, bne_iff_ne, ne_eq, ← UInt8.toNat_inj, UInt8.reduceToNat, List.mem_cons,
    List.not_mem_nil, or_false]
  omega

theorem isAscii_of_isSegmentByte (byte : UInt8) (inSegment : isSegmentByte byte = true) : byte < 0x80 := by
  rw [isSegmentByte_iff, inPath_iff] at inSegment
  apply Bytes.lt_of_toNat_lt
  omega

theorem isAscii_of_inSpecialQuery (byte : UInt8) (inQuery : inSpecialQuery byte = true) : byte < 0x80 := by
  rw [inSpecialQuery_iff] at inQuery
  apply Bytes.lt_of_toNat_lt
  omega

def isSegmentCharacter (character : Char) : Bool :=
  !isPathEnd character && character != '/' && !isBackslash character && 0x20 < character.toNat

theorem isSegmentCharacter_of_isSegmentByte (byte : UInt8) (inSegment : isSegmentByte byte = true) :
    isSegmentCharacter (Char.ofNat byte.toNat) = true := by
  have code := Bytes.toNat_char (isAscii_of_isSegmentByte byte inSegment)
  simp only [isSegmentByte_iff, inPath_iff, List.mem_cons, List.not_mem_nil, or_false] at inSegment
  simp only [isSegmentCharacter, isPathEnd, isBackslash, Bool.and_eq_true, Bool.not_eq_true', Bool.or_eq_false_iff,
    decide_eq_true_eq, decide_eq_false_iff_not, bne_iff_ne, beq_eq_false_iff_ne, ne_eq, ← Char.toNat_inj, code,
    Char.reduceToNat]
  omega

def isQueryCharacter (character : Char) : Bool :=
  character != '#' && 0x20 < character.toNat

theorem isQueryCharacter_of_inSpecialQuery (byte : UInt8) (inQuery : inSpecialQuery byte = true) :
    isQueryCharacter (Char.ofNat byte.toNat) = true := by
  have code := Bytes.toNat_char (isAscii_of_inSpecialQuery byte inQuery)
  simp only [inSpecialQuery_iff, List.mem_cons, List.not_mem_nil, or_false] at inQuery
  simp only [isQueryCharacter, Bool.and_eq_true, decide_eq_true_eq, bne_iff_ne, ne_eq, ← Char.toNat_inj, code,
    Char.reduceToNat]
  omega

section Segment

variable {segment : String} (bytes : ∀ byte ∈ Bytes.ofText segment, isSegmentByte byte = true)

include bytes

theorem isSegmentCharacter_of_mem :
    ∀ character ∈ segment.toList, isSegmentCharacter character = true := by
  apply Bytes.forall_mem_toList (fun byte member => isAscii_of_isSegmentByte byte (bytes byte member))
    isSegmentCharacter
  intro byte member
  exact isSegmentCharacter_of_isSegmentByte byte (bytes byte member)

theorem encodeChars_inPath : encodeChars inPath segment.toList = segment := by
  rw [encodeChars, String.ofList_toList]
  apply Percent.encode_of_safe fun byte member => isAscii_of_isSegmentByte byte (bytes byte member)
  intro byte member
  have found := bytes byte member
  simp only [isSegmentByte, Bool.and_eq_true] at found
  exact found.1.1

end Segment

section Query

variable {query : String} (bytes : ∀ byte ∈ Bytes.ofText query, inSpecialQuery byte = true)

include bytes

theorem isQueryCharacter_of_mem : ∀ character ∈ query.toList, isQueryCharacter character = true := by
  apply Bytes.forall_mem_toList (fun byte member => isAscii_of_inSpecialQuery byte (bytes byte member))
    isQueryCharacter
  intro byte member
  exact isQueryCharacter_of_inSpecialQuery byte (bytes byte member)

theorem encodeChars_inSpecialQuery : encodeChars inSpecialQuery query.toList = query := by
  rw [encodeChars, String.ofList_toList]
  exact Percent.encode_of_safe (fun byte member => isAscii_of_inSpecialQuery byte (bytes byte member)) bytes

end Query

/-! ### Segments -/

def slashed (segments : List String) : List Char :=
  segments.flatMap fun segment => '/' :: segment.toList

theorem splitSegments_append {characters : List Char}
    (areSegment : ∀ character ∈ characters, isSegmentCharacter character = true) (rest : List String)
    (pieces : List (List Char)) (split : splitSegments true (slashed rest) = [] :: pieces) :
    splitSegments true (characters ++ slashed rest) = characters :: pieces := by
  induction characters with
  | nil => exact split
  | cons character characters ih =>
      have isSegment := areSegment character (by simp)
      simp only [isSegmentCharacter, Bool.and_eq_true, Bool.not_eq_true', bne_iff_ne] at isSegment
      have kept : ¬((character = '/' || (true && isBackslash character)) = true) := by
        simp [isSegment.1.1.2, isSegment.1.2]
      rw [List.cons_append, splitSegments, if_neg kept,
        ih fun other member => areSegment other (by simp [member])]

theorem splitSegments_slashed {segments : List String}
    (areSegment : ∀ segment ∈ segments, ∀ character ∈ segment.toList, isSegmentCharacter character = true) :
    splitSegments true (slashed segments) = [] :: segments.map String.toList := by
  induction segments with
  | nil => rfl
  | cons segment rest ih =>
      have later := ih fun other member => areSegment other (by simp [member])
      have first := splitSegments_append (areSegment segment (by simp)) rest _ later
      have unfolded : slashed (segment :: rest) = '/' :: (segment.toList ++ slashed rest) := rfl
      rw [unfolded, splitSegments, if_pos (by simp), first]
      rfl

theorem resolveSegments_append {segments : List String} (resolved : List String)
    (areSegments : ∀ segment ∈ segments, isDot segment = false ∧ isDoubleDot segment = false) :
    resolveSegments .special resolved segments = resolved ++ segments := by
  induction segments generalizing resolved with
  | nil => simp [resolveSegments]
  | cons segment rest ih =>
      obtain ⟨notDot, notDoubleDot⟩ := areSegments segment (by simp)
      cases rest with
      | nil => simp [resolveSegments, notDot, notDoubleDot]
      | cons second rest =>
          have later := ih (resolved ++ [segment]) fun other member => areSegments other (by simp [member])
          simp only [resolveSegments, notDot, notDoubleDot, Bool.false_eq_true, if_false, later,
            List.append_assoc, List.singleton_append]

theorem parseSegments_special (characters : List Char) :
    parseSegments .special characters =
      resolveSegments .special [] ((splitSegments true characters).map (encodeChars inPath)) :=
  rfl

theorem parsePath_slashed {segments : List String} (notEmpty : segments ≠ [])
    (bytes : ∀ segment ∈ segments, ∀ byte ∈ Bytes.ofText segment, isSegmentByte byte = true) :
    parsePath .special (slashed segments) = resolveSegments .special [] segments := by
  cases segments with
  | nil => exact absurd rfl notEmpty
  | cons segment rest =>
      have characters : ∀ other ∈ segment :: rest, ∀ character ∈ other.toList,
          isSegmentCharacter character = true :=
        fun other member => isSegmentCharacter_of_mem (bytes other member)
      have unfolded : slashed (segment :: rest) = '/' :: (segment.toList ++ slashed rest) := rfl
      have later := splitSegments_slashed fun other member => characters other (List.mem_cons_of_mem _ member)
      have pieces := splitSegments_append (characters segment (by simp)) rest _ later
      have encoded : (segment :: rest).map (fun other => encodeChars inPath other.toList) = segment :: rest := by
        rw [List.map_congr_left fun other member => encodeChars_inPath (bytes other member), List.map_id']
      rw [unfolded, parsePath, if_pos (by simp), parseSegments_special, pieces,
        ← List.map_cons (f := String.toList), List.map_map]
      change resolveSegments .special [] ((segment :: rest).map fun other => encodeChars inPath other.toList) = _
      rw [encoded]

/-! ### Authority -/

theorem takeHost_append {host : List Char} (areHost : ∀ character ∈ host, isHostCharacter character = true)
    (rest : List Char) : takeHost true false (host ++ '/' :: rest) = (host, '/' :: rest) := by
  induction host with
  | nil => rfl
  | cons character host ih =>
      have isHost := areHost character (by simp)
      simp only [isHostCharacter, Bool.and_eq_true, Bool.not_eq_true', bne_iff_ne] at isHost
      obtain ⟨⟨⟨⟨notDelimiter, notColon⟩, _⟩, notOpening⟩, _⟩ := isHost
      have kept : ¬((isDelimiter true character || (character = ':' && !false)) = true) := by
        simp [notDelimiter, notColon]
      rw [List.cons_append, takeHost, if_neg kept]
      have outside : (if character = '[' then true else if character = ']' then false else false) = false := by
        rw [if_neg notOpening, ite_self]
      simp only [outside, ih fun other member => areHost other (by simp [member])]

section Host

variable {host : String} (isHost : IsHost host) (rest : List Char)

include isHost

theorem splitUserInfo_host :
    splitUserInfo true (host.toList ++ '/' :: rest) = .ok (⟨"", none⟩, host.toList ++ '/' :: rest) := by
  have characters : ∀ character ∈ host.toList, isDelimiter true character = false ∧ character ≠ '@' := by
    intro character member
    have found := isHost.characters character member
    simp only [isHostCharacter, Bool.and_eq_true, Bool.not_eq_true', bne_iff_ne] at found
    exact ⟨found.1.1.1.1, found.1.1.2⟩
  have authority : (host.toList ++ '/' :: rest).takeWhile (fun character => !isDelimiter true character) =
      host.toList := by
    rw [List.takeWhile_append_of_pos fun character member => by simp [(characters character member).1]]
    simp [isDelimiter]
  have noUser : host.toList.contains '@' = false := by
    simpa using fun member => (characters '@' member).2 rfl
  simp only [splitUserInfo, authority, noUser, Bool.false_eq_true, if_false]

theorem parseHost_host : parseHost true (host.toList ++ '/' :: rest) = .ok (.domain host, '/' :: rest) := by
  have notEmpty : host.toList.isEmpty = false := by simpa using isHost.notEmpty
  simp [parseHost, takeHost_append isHost.characters, notEmpty, isHost.parsed, bind, Except.bind, pure, Except.pure]

end Host

/-! ### Whole URLs -/

def queryCharacters : Option String → List Char
  | none => []
  | some query => '?' :: query.toList

theorem toList_text_ofPlace (host : String) (segments : List String) (query : Option String) :
    (ofPlace host segments query).text.toList =
      'h' :: 't' :: 't' :: 'p' :: 's' :: ':' :: '/' :: '/' ::
        (host.toList ++ (slashed segments ++ queryCharacters query)) := by
  have path : (String.join (segments.map fun segment => "/" ++ segment)).toList = slashed segments := by
    simp [String.toList_join, slashed, List.flatMap_map]
  cases query with
  | none => simp [text, beforeFragment, authorityText, ofPlace, userText, hostText, portText, Host.text,
      pathText, UrlPath.text, path, queryText, fragmentText, queryCharacters]
  | some query => simp [text, beforeFragment, authorityText, ofPlace, userText, hostText, portText, Host.text,
      pathText, UrlPath.text, path, queryText, fragmentText, queryCharacters]

theorem significant_eq {text : String} (visible : ∀ character ∈ text.toList, 0x20 < character.toNat) :
    significant text = text.toList := by
  have keep (characters : List Char) (each : ∀ character ∈ characters, 0x20 < character.toNat) :
      characters.dropWhile (fun character => character.toNat ≤ 0x20) = characters := by
    cases characters with
    | nil => rfl
    | cons first rest =>
        have large := each first (by simp)
        rw [List.dropWhile_cons_of_neg (by simpa using large)]
  unfold significant
  simp only [keep _ visible]
  rw [keep _ fun character member => visible character (List.mem_reverse.1 member), List.reverse_reverse,
    List.filter_eq_self]
  intro character member
  have large := visible character member
  simp only [Bool.and_eq_true, bne_iff_ne]
  refine ⟨⟨?_, ?_⟩, ?_⟩ <;> (rintro rfl; revert large; decide)

theorem parseTail_queryCharacters {query : Option String} (isQuery : IsQuery query) :
    parseTail .special (queryCharacters query) = ⟨query, none⟩ := by
  cases query with
  | none => rfl
  | some query =>
      have bytes := isQuery query rfl
      have noFragment : ∀ character ∈ query.toList, (character != '#') = true := by
        intro character member
        have found := isQueryCharacter_of_mem bytes character member
        simp only [isQueryCharacter, Bool.and_eq_true] at found
        exact found.1
      have taken : query.toList.takeWhile (· != '#') = query.toList := List.takeWhile_eq_self_iff.2 noFragment
      have dropped : query.toList.dropWhile (· != '#') = [] := List.dropWhile_eq_nil_iff.2 noFragment
      simp only [queryCharacters, parseTail, taken, dropped]
      rw [if_neg (by decide), encodeChars_inSpecialQuery bytes, parseFragment]

theorem splitPath_slashed {segments : List String}
    (bytes : ∀ segment ∈ segments, ∀ byte ∈ Bytes.ofText segment, isSegmentByte byte = true)
    (query : Option String) :
    splitPath (slashed segments ++ queryCharacters query) = (slashed segments, queryCharacters query) := by
  have inside : ∀ character ∈ slashed segments, (!isPathEnd character) = true := by
    intro character member
    obtain ⟨segment, inSegments, inSegment⟩ := List.mem_flatMap.1 member
    rcases List.mem_cons.1 inSegment with rfl | inSegment
    · rfl
    · have found := isSegmentCharacter_of_mem (bytes segment inSegments) character inSegment
      simp only [isSegmentCharacter, Bool.and_eq_true] at found
      exact found.1.1.1
  rw [splitPath, List.takeWhile_append_of_pos inside, List.dropWhile_append_of_pos inside]
  cases query <;> simp [queryCharacters, isPathEnd]

theorem splitScheme?_https (rest : List Char) :
    splitScheme? ('h' :: 't' :: 't' :: 'p' :: 's' :: ':' :: rest) = some ("https", rest) :=
  rfl

theorem parseAuthority_ofPlace {host : String} {segments : List String} {query : Option String}
    (isHost : IsHost host) (notEmpty : segments ≠ [])
    (bytes : ∀ segment ∈ segments, ∀ byte ∈ Bytes.ofText segment, isSegmentByte byte = true)
    (isQuery : IsQuery query) :
    parseAuthority "https" (host.toList ++ (slashed segments ++ queryCharacters query)) =
      .ok (ofPlace host (resolveSegments .special [] segments) query) := by
  obtain ⟨rest, path⟩ : ∃ rest, slashed segments ++ queryCharacters query = '/' :: rest := by
    cases segments with
    | nil => exact absurd rfl notEmpty
    | cons segment others => exact ⟨_, rfl⟩
  have split := splitPath_slashed bytes query
  have kind : schemeKind "https" = SchemeKind.special := by decide
  have named : decide (Host.domain host = Host.domain "") = false := by
    apply decide_eq_false
    intro same
    exact isHost.notEmpty (by rw [Host.domain.inj same]; rfl)
  rw [path] at split ⊢
  have port : parsePort "https" ('/' :: rest) = .ok (none, '/' :: rest) := rfl
  simp only [parseAuthority, kind, decide_true, splitUserInfo_host isHost, parseHost_host isHost, port, split,
    parsePath_slashed notEmpty bytes, parseTail_queryCharacters isQuery, bind, Except.bind, pure,
    Except.pure, named, Bool.false_and, Bool.false_eq_true, if_false]
  rfl

theorem lt_toNat_of_mem_text {host : String} {segments : List String} {query : Option String}
    (isHost : IsHost host)
    (bytes : ∀ segment ∈ segments, ∀ byte ∈ Bytes.ofText segment, isSegmentByte byte = true)
    (isQuery : IsQuery query) :
    ∀ character ∈ (ofPlace host segments query).text.toList, 0x20 < character.toNat := by
  intro character member
  have scheme : ∀ rest : List Char, 'h' :: 't' :: 't' :: 'p' :: 's' :: ':' :: '/' :: '/' :: rest =
      ['h', 't', 't', 'p', 's', ':', '/', '/'] ++ rest := fun _ => rfl
  rw [toList_text_ofPlace, scheme] at member
  simp only [List.mem_append] at member
  rcases member with inScheme | inHost | inPath | inQuery
  · have printed : (['h', 't', 't', 'p', 's', ':', '/', '/'].all fun other => 0x20 < other.toNat) = true := by decide
    exact of_decide_eq_true (List.all_eq_true.1 printed character inScheme)
  · have found := isHost.characters character inHost
    simp only [isHostCharacter, Bool.and_eq_true, decide_eq_true_eq] at found
    exact found.2
  · obtain ⟨segment, inSegments, inSegment⟩ := List.mem_flatMap.1 inPath
    rcases List.mem_cons.1 inSegment with rfl | inSegment
    · decide
    · have found := isSegmentCharacter_of_mem (bytes segment inSegments) character inSegment
      simp only [isSegmentCharacter, Bool.and_eq_true, decide_eq_true_eq] at found
      exact found.2
  · cases query with
    | none => cases inQuery
    | some text =>
        rcases List.mem_cons.1 inQuery with rfl | inText
        · decide
        · have found := isQueryCharacter_of_mem (isQuery text rfl) character inText
          simp only [isQueryCharacter, Bool.and_eq_true, decide_eq_true_eq] at found
          exact found.2

theorem dropWhile_slashes {host : String} (isHost : IsHost host) (rest : List Char) :
    ('/' :: '/' :: (host.toList ++ rest)).dropWhile (fun character => character = '/' || isBackslash character) =
      host.toList ++ rest := by
  cases name : host.toList with
  | nil => exact absurd name isHost.notEmpty
  | cons first others =>
      have found := isHost.characters first (by simp [name])
      simp only [isHostCharacter, isDelimiter, Bool.and_eq_true, Bool.not_eq_true', Bool.or_eq_false_iff,
        Bool.true_and, decide_eq_false_iff_not] at found
      obtain ⟨⟨⟨notSlash, _⟩, _⟩, notBackslash⟩ := found.1.1.1.1
      simp [notSlash, notBackslash]

/-- Only dots among the segments are not kept. -/
theorem parse_place {host : String} {segments : List String} {query : Option String}
    (isHost : IsHost host) (notEmpty : segments ≠ [])
    (bytes : ∀ segment ∈ segments, ∀ byte ∈ Bytes.ofText segment, isSegmentByte byte = true)
    (isQuery : IsQuery query) :
    parse (ofPlace host segments query).text = .ok (ofPlace host (resolveSegments .special [] segments) query) := by
  rw [parse, significant_eq (lt_toNat_of_mem_text isHost bytes isQuery), toList_text_ofPlace, splitScheme?_https]
  simp only [show schemeKind "https" = SchemeKind.special by decide]
  rw [dropWhile_slashes isHost, parseAuthority_ofPlace isHost notEmpty bytes isQuery]

end ObjectStore.Url
