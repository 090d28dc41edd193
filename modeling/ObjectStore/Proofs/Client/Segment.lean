import ObjectStore.Proofs.Url

/-!
Names as segments of a URL. An encoded name is a segment that is not a dot unless the name is one, and
it is read back as the name. Dots cost a path at least one of its segments, and nothing else does.
-/

namespace ObjectStore.Url

/-! ### Dots, escaped or not -/

theorem eq_of_toLower_eq {character lower : Char} (same : character.toLower = lower) :
    character = lower ∨
      (0x41 ≤ character.toNat ∧ character.toNat ≤ 0x5A ∧ lower.toNat = character.toNat + 32) := by
  unfold Char.toLower at same
  split at same
  · rename_i upper
    have bounds : 0x41 ≤ character.toNat ∧ character.toNat ≤ 0x5A := upper
    right
    refine ⟨bounds.1, bounds.2, ?_⟩
    subst same
    change (character.val + ('a'.val - 'A'.val)).toNat = character.toNat + 32
    rw [UInt32.toNat_add]
    change (character.toNat + 32) % 2 ^ 32 = character.toNat + 32
    omega
  · exact Or.inl same

theorem eq_of_toLower_eq_of_not_letter {character lower : Char} (same : character.toLower = lower)
    (notLetter : lower.toNat < 0x61) : character = lower := by
  rcases eq_of_toLower_eq same with found | ⟨_, _, shifted⟩
  · exact found
  · omega

theorem eq_of_toLower_eq_e {character : Char} (same : character.toLower = 'e') :
    character = 'e' ∨ character = 'E' := by
  rcases eq_of_toLower_eq same with found | ⟨_, _, shifted⟩
  · exact Or.inl found
  · right
    have code : character.toNat = 'E'.toNat := by
      change 0x65 = character.toNat + 32 at shifted
      change character.toNat = 0x45
      omega
    exact Char.toNat_inj.1 code

def variants : List Char → List (List Char)
  | [] => [[]]
  | lower :: rest =>
      (if lower = 'e' then ['e', 'E'] else [lower]).flatMap fun first => (variants rest).map (first :: ·)

theorem mem_variants {characters lower : List Char} (same : characters.map Char.toLower = lower)
    (letters : ∀ character ∈ lower, character = 'e' ∨ character.toNat < 0x61) : characters ∈ variants lower := by
  induction characters generalizing lower with
  | nil =>
      subst same
      simp [variants]
  | cons first rest ih =>
      subst same
      have tail := ih rfl fun character member => letters character (by simp [member])
      have head : first ∈ if first.toLower = 'e' then ['e', 'E'] else [first.toLower] := by
        rcases letters first.toLower (by simp) with isLetter | notLetter
        · rw [if_pos isLetter]
          simpa using eq_of_toLower_eq_e isLetter
        · have differs : first.toLower ≠ 'e' := by
            intro isLetter
            rw [isLetter] at notLetter
            revert notLetter
            decide
          rw [if_neg differs]
          simpa using eq_of_toLower_eq_of_not_letter rfl notLetter
      exact List.mem_flatMap.2 ⟨first, head, List.mem_map.2 ⟨rest, tail, rfl⟩⟩

theorem decodeText?_of_toLower {segment lower : String} {bytes : Bytes} (same : segment.toLower = lower)
    (letters : (lower.toList.all fun character => character = 'e' || character.toNat < 0x61) = true)
    (decoded : ∀ characters ∈ variants lower.toList,
      Percent.decodeText? (String.ofList characters) = some bytes) :
    Percent.decodeText? segment = some bytes := by
  have lowered : segment.toList.map Char.toLower = lower.toList := by
    rw [← same]
    exact (String.toList_map ..).symm
  have found := decoded segment.toList (mem_variants lowered fun character member => by
    simpa using List.all_eq_true.1 letters character member)
  rwa [String.ofList_toList] at found

theorem decodeText?_of_isDot {segment : String} (dot : isDot segment = true) :
    Percent.decodeText? segment = some (Bytes.ofText ".") := by
  simp only [isDot, Bool.or_eq_true, decide_eq_true_eq] at dot
  rcases dot with rfl | escaped
  · decide
  · exact decodeText?_of_toLower escaped (by decide) (by decide)

theorem decodeText?_of_isDoubleDot {segment : String} (dots : isDoubleDot segment = true) :
    Percent.decodeText? segment = some (Bytes.ofText "..") := by
  simp only [isDoubleDot, List.contains_iff_mem, List.mem_cons, List.not_mem_nil, or_false] at dots
  rcases dots with plain | second | first | both
  · exact decodeText?_of_toLower plain (by decide) (by decide)
  · exact decodeText?_of_toLower second (by decide) (by decide)
  · exact decodeText?_of_toLower first (by decide) (by decide)
  · exact decodeText?_of_toLower both (by decide) (by decide)

/-! ### Dots in a path -/

theorem resolveSegments_cons (kind : SchemeKind) (path : List String) (segment : String) {rest : List String}
    (notLast : rest ≠ []) :
    resolveSegments kind path (segment :: rest) =
      if isDoubleDot segment then resolveSegments kind (shorten kind path) rest
      else if isDot segment then resolveSegments kind path rest
      else resolveSegments kind (path ++ [segment]) rest := by
  cases rest with
  | nil => exact absurd rfl notLast
  | cons second rest => rfl

theorem length_shorten_special (path : List String) : (shorten .special path).length = path.length - 1 :=
  List.length_dropLast

theorem length_resolveSegments_le (path segments : List String) :
    (resolveSegments .special path segments).length ≤ path.length + segments.length := by
  induction segments generalizing path with
  | nil => simp [resolveSegments]
  | cons segment rest ih =>
      by_cases last : rest = []
      · subst last
        rw [resolveSegments]
        split
        · simp [length_shorten_special]
        · split <;> simp
      · have shorter := ih (shorten .special path)
        have unchanged := ih path
        have longer := ih (path ++ [segment])
        rw [length_shorten_special] at shorter
        rw [List.length_append, List.length_singleton] at longer
        rw [resolveSegments_cons _ _ _ last, List.length_cons]
        split
        · omega
        · split <;> omega

theorem length_resolveSegments_lt (path before : List String) {dots : String} {after : List String}
    (areDots : isDot dots = true ∨ isDoubleDot dots = true) (notLast : after ≠ []) :
    (resolveSegments .special path (before ++ dots :: after)).length <
      path.length + (before ++ dots :: after).length := by
  induction before generalizing path with
  | nil =>
      have shorter := length_resolveSegments_le (shorten .special path) after
      have unchanged := length_resolveSegments_le path after
      rw [length_shorten_special] at shorter
      rw [List.nil_append, resolveSegments_cons _ _ _ notLast, List.length_cons]
      by_cases double : isDoubleDot dots = true
      · rw [if_pos double]
        omega
      · rw [if_neg double, if_pos (areDots.resolve_right double)]
        omega
  | cons segment before ih =>
      have shorter := ih (shorten .special path)
      have unchanged := ih path
      have longer := ih (path ++ [segment])
      rw [length_shorten_special] at shorter
      rw [List.length_append, List.length_singleton] at longer
      rw [List.cons_append, resolveSegments_cons _ _ _ (by simp), List.length_cons]
      split
      · omega
      · split <;> omega

/-! ### Encoded names -/

/-- What must hold of a safe set for its encoded texts to be segments. -/
structure KeepsSegments (safe : Percent.SafeSet) : Prop where
  plain : Percent.IsPlain safe
  bytes : ∀ byte, Percent.isWritten safe byte = true → isSegmentByte byte = true

theorem keepsSegments_segment : KeepsSegments Percent.segment := by
  refine ⟨Percent.isPlain_segment, fun byte written => ?_⟩
  rw [Percent.isWritten_iff, Percent.segment_iff, Percent.unreserved_iff, Percent.isAlphanumeric_iff,
    Percent.isUpperHex_iff] at written
  simp only [isSegmentByte_iff, inPath_iff, List.mem_cons, List.not_mem_nil, or_false]
  omega

theorem keepsSegments_unreserved : KeepsSegments Percent.unreserved := by
  refine ⟨Percent.isPlain_unreserved, fun byte written => keepsSegments_segment.bytes byte ?_⟩
  rw [Percent.isWritten_iff] at written ⊢
  exact written.imp_left fun kept => Percent.segment_iff.2 (Or.inl kept)

def IsPlaceName (name : String) : Prop :=
  name ≠ "." ∧ name ≠ ".."

theorem KeepsSegments.isSegmentByte_encode {safe : Percent.SafeSet} (keeps : KeepsSegments safe) (name : String) :
    ∀ byte ∈ Bytes.ofText (Percent.encode safe name), isSegmentByte byte = true := by
  intro byte member
  rw [keeps.plain.ofText_encode] at member
  exact keeps.bytes byte (Percent.isWritten_encodeBytes safe _ byte member)

theorem KeepsSegments.isSegment {safe : Percent.SafeSet} (keeps : KeepsSegments safe) {name : String}
    (isPlaceName : IsPlaceName name) : IsSegment (Percent.encode safe name) := by
  have decoded := keeps.plain.decodeText?_encode name
  have differs {bytes : String} (found : Percent.decodeText? (Percent.encode safe name) = some (Bytes.ofText bytes)) :
      name = bytes := by
    rw [decoded] at found
    exact Bytes.ofText_injective (Option.some.inj found)
  refine ⟨keeps.isSegmentByte_encode name, ?_, ?_⟩
  · rw [← Bool.not_eq_true]
    intro dot
    exact isPlaceName.1 (differs (decodeText?_of_isDot dot))
  · rw [← Bool.not_eq_true]
    intro dots
    exact isPlaceName.2 (differs (decodeText?_of_isDoubleDot dots))

theorem KeepsSegments.reads_encode {safe : Percent.SafeSet} (keeps : KeepsSegments safe) (name : String) :
    (Percent.decodeText? (Percent.encode safe name)).bind Bytes.toText? = some name := by
  rw [keeps.plain.decodeText?_encode, Option.bind_some, Bytes.toText?_ofText]

section Address

variable {safe : Percent.SafeSet} {before after : List String} {host name : String} {query : Option String}
  (areSegments : ∀ segment ∈ before ++ after, IsSegment segment)

section Keeps

variable (keeps : KeepsSegments safe)

include areSegments keeps

theorem KeepsSegments.resolveSegments_eq (isPlaceName : IsPlaceName name) :
    resolveSegments .special [] (before ++ Percent.encode safe name :: after) =
      before ++ Percent.encode safe name :: after := by
  refine resolveSegments_append [] fun other member => ?_
  have isSegment : IsSegment other := by
    rcases List.mem_append.1 member with inBefore | inRest
    · exact areSegments other (List.mem_append_left _ inBefore)
    · rcases List.mem_cons.1 inRest with rfl | inAfter
      · exact keeps.isSegment isPlaceName
      · exact areSegments other (List.mem_append_right _ inAfter)
  exact ⟨isSegment.notDot, isSegment.notDoubleDot⟩

variable (isHost : IsHost host) (isQuery : IsQuery query)

include isHost isQuery

variable (name) in
theorem KeepsSegments.parse_address :
    parse (ofPlace host (before ++ Percent.encode safe name :: after) query).text =
      .ok (ofPlace host (resolveSegments .special [] (before ++ Percent.encode safe name :: after)) query) := by
  refine parse_place isHost (by simp) (fun segment member => ?_) isQuery
  rcases List.mem_append.1 member with inBefore | inRest
  · exact (areSegments segment (List.mem_append_left _ inBefore)).bytes
  · rcases List.mem_cons.1 inRest with rfl | inAfter
    · exact keeps.isSegmentByte_encode name
    · exact (areSegments segment (List.mem_append_right _ inAfter)).bytes

theorem KeepsSegments.parse_address_eq (isPlaceName : IsPlaceName name) :
    parse (ofPlace host (before ++ Percent.encode safe name :: after) query).text =
      .ok (ofPlace host (before ++ Percent.encode safe name :: after) query) := by
  rw [keeps.parse_address name areSegments isHost isQuery, keeps.resolveSegments_eq areSegments isPlaceName]

end Keeps

structure KeepsDots (safe : Percent.SafeSet) : Prop extends KeepsSegments safe where
  dot : Percent.encode safe "." = "."
  dots : Percent.encode safe ".." = ".."

theorem keepsDots_segment : KeepsDots Percent.segment :=
  ⟨keepsSegments_segment, rfl, rfl⟩

theorem keepsDots_unreserved : KeepsDots Percent.unreserved :=
  ⟨keepsSegments_unreserved, rfl, rfl⟩

theorem KeepsDots.isDot_encode (keeps : KeepsDots safe) (isDots : ¬IsPlaceName name) :
    isDot (Percent.encode safe name) = true ∨ isDoubleDot (Percent.encode safe name) = true := by
  by_cases single : name = "."
  · rw [single, keeps.dot]
    exact .inl rfl
  · have double : name = ".." := by
      by_contra other
      exact isDots ⟨single, other⟩
    have lower : "..".toLower = ".." := by
      apply String.toList_inj.1
      exact String.toList_map
    refine .inr ?_
    rw [double, keeps.dots, isDoubleDot, lower]
    rfl

include areSegments

theorem KeepsDots.resolveSegments_eq_iff (keeps : KeepsDots safe) (notLast : after ≠ []) (name : String) :
    resolveSegments .special [] (before ++ Percent.encode safe name :: after) =
      before ++ Percent.encode safe name :: after ↔ IsPlaceName name := by
  constructor
  · -- Dots always cost a segment, whichever segments are left: the lengths differ.
    intro same
    by_contra isDots
    have shorter := length_resolveSegments_lt [] before (keeps.isDot_encode isDots) notLast
    rw [same] at shorter
    simp at shorter
  · exact keeps.toKeepsSegments.resolveSegments_eq areSegments

end Address

end ObjectStore.Url
