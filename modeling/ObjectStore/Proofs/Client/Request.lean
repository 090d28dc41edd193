import ObjectStore.Proofs.Atomic.Bucket
import ObjectStore.Proofs.Client.Place

/-!
The requests of a bucket of the simulated service, each as one request to a place, with the pairs that
its query is written from.
-/

namespace ObjectStore

open Url (IsPlaceName IsQuery ofPlace)

/-! ### Queries -/

namespace Form

theorem inSpecialQuery_of_isWritten (byte : UInt8) (written : isWritten byte = true) :
    Url.inSpecialQuery byte = true := by
  rw [isWritten_iff, Percent.isWritten_iff, isKept_iff, Percent.isAlphanumeric_iff, Percent.isUpperHex_iff] at written
  simp only [Url.inSpecialQuery_iff, List.mem_cons, List.not_mem_nil, or_false]
  omega

theorem inSpecialQuery_pairText (pair : String × String) :
    ∀ byte ∈ Bytes.ofText (pairText pair), Url.inSpecialQuery byte = true := by
  intro byte member
  rw [pairText, Bytes.ofText_append, Bytes.ofText_append] at member
  simp only [List.mem_append] at member
  rcases member with (inName | isMark) | inValue
  · exact inSpecialQuery_of_isWritten byte (isWritten_encode _ byte inName)
  · rw [List.mem_singleton.1 isMark]
    decide
  · exact inSpecialQuery_of_isWritten byte (isWritten_encode _ byte inValue)

theorem isQuery_joinPairs (pairs : List (String × String)) : IsQuery (some (joinPairs pairs)) := by
  intro text same
  cases same
  induction pairs with
  | nil =>
      intro byte member
      cases member
  | cons first rest ih =>
      cases rest with
      | nil => simpa [joinPairs] using inSpecialQuery_pairText first
      | cons second rest =>
          intro byte member
          rw [joinPairs, List.map_cons, List.map_cons, String.intercalate_cons_cons, ← List.map_cons,
            ← joinPairs, Bytes.ofText_append, Bytes.ofText_append] at member
          simp only [List.mem_append] at member
          rcases member with (inFirst | isMark) | inRest
          · exact inSpecialQuery_pairText first byte inFirst
          · rw [List.mem_singleton.1 isMark]
            decide
          · exact ih byte inRest

theorem pairs_ofPlace (host : String) (segments : List String) (written : List (String × String)) :
    pairs (ofPlace host segments (some (joinPairs written))) = written :=
  parsePairs_joinPairs written

theorem encode_of_characters {text : String}
    (kept : ∀ character ∈ text.toList, character.toNat < 0x80 ∧ isKept (UInt8.ofNat character.toNat) = true) :
    encode text = text := by
  apply encode_of_kept
  intro byte member
  rw [Bytes.ofText_eq_flatMap] at member
  obtain ⟨character, inText, inPiece⟩ := List.mem_flatMap.1 member
  obtain ⟨isAscii, isKept⟩ := kept character inText
  rw [Bytes.utf8EncodeChar_of_lt isAscii] at inPiece
  rw [List.mem_singleton.1 inPiece]
  exact isKept

theorem isKept_of_isDigit {character : Char} (isDigit : character.isDigit = true) :
    character.toNat < 0x80 ∧ isKept (UInt8.ofNat character.toNat) = true := by
  have bounds : 0x30 ≤ character.toNat ∧ character.toNat ≤ 0x39 := by
    simpa [Char.isDigit, Char.le_def, UInt32.le_iff_toNat_le] using isDigit
  have code : (UInt8.ofNat character.toNat).toNat = character.toNat := Nat.mod_eq_of_lt (by omega)
  refine ⟨by omega, ?_⟩
  rw [isKept_iff, Percent.isAlphanumeric_iff, code]
  omega

theorem isKept_of_mem_toDigits {number : Nat} {character : Char} (member : character ∈ Nat.toDigits 10 number) :
    character.toNat < 0x80 ∧ isKept (UInt8.ofNat character.toNat) = true :=
  isKept_of_isDigit (Nat.isDigit_of_mem_toDigits (by decide) (by decide) member)

theorem encode_repr (number : Int) : encode number.repr = number.repr := by
  apply encode_of_characters
  intro character member
  rw [Int.repr_eq_if] at member
  split at member
  · rw [Nat.toList_repr] at member
    exact isKept_of_mem_toDigits member
  · have minus : ("-" ++ (-number).toNat.repr).toList = '-' :: Nat.toDigits 10 (-number).toNat := by simp
    rw [minus] at member
    rcases List.mem_cons.1 member with rfl | inDigits
    · decide
    · exact isKept_of_mem_toDigits inDigits

theorem encode_sessionName (number : Nat) : encode (Store.sessionName number) = Store.sessionName number := by
  apply encode_of_characters
  intro character member
  have name : (Store.sessionName number).toList = "upload-".toList ++ Nat.toDigits 10 number := by
    simp [Store.sessionName]
  rw [name, List.mem_append] at member
  rcases member with inPrefix | inDigits
  · have kept : ("upload-".toList.all fun other =>
        other.toNat < 0x80 && isKept (UInt8.ofNat other.toNat)) = true := by decide
    simpa using List.all_eq_true.1 kept character inPrefix
  · exact isKept_of_mem_toDigits inDigits

end Form

/-! ### Requests -/

namespace Simulation

def agentHeaders : Headers :=
  Headers.empty.insert "user-agent" (Bytes.ofText "objectgcs/0.3.0")

def fullPairs : List (String × String) :=
  [("projection", "full")]

def readPairs (generation : Int64) : Option (List (String × String)) :=
  if generation = 0 then none else some [("generation", generation.toInt.repr)]

def announcePairs (precondition : Option Int64) : List (String × String) :=
  [("uploadType", "resumable"), ("projection", "full")] ++
    match precondition with
    | some generation => [("ifGenerationMatch", generation.toInt.repr)]
    | none => []

theorem isQuery_full (isFull : Bool) : IsQuery (if isFull then some (Form.joinPairs fullPairs) else none) := by
  cases isFull with
  | true => exact Form.isQuery_joinPairs fullPairs
  | false => exact Url.isQuery_none

theorem isQuery_read (generation : Int64) : IsQuery ((readPairs generation).map Form.joinPairs) := by
  cases readPairs generation with
  | none => exact Url.isQuery_none
  | some pairs => exact Form.isQuery_joinPairs pairs

def sessionPairs (number : Nat) : List (String × String) :=
  [("uploadType", "resumable"), ("upload_id", Store.sessionName number)]

end Simulation

/-! ### Addresses -/

namespace BucketConfig

variable (config : BucketConfig)

theorem uploadAddress_eq (precondition : Option Int64) : config.uploadAddress precondition =
    (ofPlace config.uploadHost ["upload", "storage", "v1", "b", Percent.encodeSegment config.name, "o"]
      (some (Form.joinPairs (Simulation.announcePairs precondition)))).text := by
  have first : Form.pairText ("uploadType", "resumable") = "uploadType=resumable" := rfl
  have second : Form.pairText ("projection", "full") = "projection=full" := rfl
  have name : Form.encode "ifGenerationMatch" ++ "=" = "ifGenerationMatch=" := rfl
  apply String.toList_inj.1
  rw [Url.toList_text_ofPlace]
  cases precondition with
  | none =>
      simp [uploadAddress, Url.slashed, Url.queryCharacters, Simulation.announcePairs, Form.joinPairs, first, second]
  | some generation =>
      have third : Form.pairText ("ifGenerationMatch", generation.toInt.repr) =
          "ifGenerationMatch=" ++ generation.toInt.repr := by
        rw [Form.pairText, Form.encode_repr, name]
      simp [uploadAddress, Url.slashed, Url.queryCharacters, Simulation.announcePairs, Form.joinPairs, first, second,
        third]

theorem readAddress_eq (read : ReadRequest) : config.readAddress read =
    (ofPlace config.storageHost [Percent.encodeSegment config.name, Percent.encodeSegment read.name]
      ((Simulation.readPairs read.generation).map Form.joinPairs)).text := by
  apply String.toList_inj.1
  rw [Url.toList_text_ofPlace]
  by_cases latest : read.generation = 0
  · simp [readAddress, Url.slashed, Url.queryCharacters, Simulation.readPairs, latest]
  · have query : Form.joinPairs [("generation", read.generation.toInt.repr)] =
        "generation=" ++ read.generation.toInt.repr := by
      have name : Form.encode "generation" = "generation" := rfl
      simp [Form.joinPairs, Form.pairText, Form.encode_repr, name]
    simp [readAddress, Url.slashed, Url.queryCharacters, Simulation.readPairs, latest, query]

section Base

variable {config} {host : String} (base : config.apiBase = "https://" ++ host ++ "/storage/v1/")

include base

theorem bucketAddress_eq : config.bucketAddress =
    (ofPlace host ["storage", "v1", "b", Percent.expandVariable config.name, "o"] none).text := by
  apply String.toList_inj.1
  rw [Url.toList_text_ofPlace]
  simp [bucketAddress, base, Url.slashed, Url.queryCharacters]

theorem objectAddress_eq (name : String) (isFull : Bool) :
    (config.objectAddress name ++ if isFull then "?projection=full" else "") =
      (ofPlace host ["storage", "v1", "b", Percent.expandVariable config.name, "o", Percent.expandVariable name]
        (if isFull then some (Form.joinPairs Simulation.fullPairs) else none)).text := by
  have query : Form.joinPairs Simulation.fullPairs = "projection=full" := rfl
  apply String.toList_inj.1
  rw [Url.toList_text_ofPlace]
  cases isFull <;> simp [objectAddress, bucketAddress, base, Url.slashed, Url.queryCharacters, query]

end Base

end BucketConfig

namespace Simulation

namespace Sent

def stat (bucket name : String) : HttpRequest :=
  ⟨.get, Place.object bucket name (some (Form.joinPairs fullPairs)), agentHeaders, .empty⟩

def delete (bucket name : String) : HttpRequest :=
  ⟨.delete, Place.object bucket name none, agentHeaders, .empty⟩

def update (bucket : String) (request : UpdateRequest) : HttpRequest :=
  ⟨.patch, Place.object bucket request.name (some (Form.joinPairs fullPairs)),
    agentHeaders.insert "content-type" jsonContentType, .full (Bytes.ofText request.patch.compact)⟩

def read (bucket : String) (request : ReadRequest) : HttpRequest :=
  ⟨.get, Place.direct bucket request.name ((readPairs request.generation).map Form.joinPairs), agentHeaders, .empty⟩

def list (bucket : String) (query : Query) : HttpRequest :=
  ⟨.get, Place.bucket bucket (some (Form.joinPairs (BucketConfig.listPairs query))), agentHeaders, .empty⟩

def announce (bucket : String) (create : CreateRequest) : HttpRequest :=
  ⟨.post, Place.upload bucket (some (Form.joinPairs (announcePairs create.precondition))),
    (agentHeaders.insert "content-type" jsonContentType).insert "x-upload-content-type"
      (Bytes.ofText create.attributes.effectiveContentType),
    .full (create.attributes.serialize bucket)⟩

def upload (bucket : String) (create : CreateRequest) (number : Nat) : HttpRequest :=
  ⟨.put, Place.upload bucket (some (Form.joinPairs (sessionPairs number))),
    agentHeaders.insert "content-type" (Bytes.ofText create.attributes.effectiveContentType),
    .stream create.contents⟩

section Route

variable (bucket : String)

theorem route_stat (name : String) : (stat bucket name).route = .stat bucket name :=
  (Place.route_object ..).1

theorem route_delete (name : String) : (delete bucket name).route = .delete bucket name :=
  (Place.route_object ..).2.2

theorem route_update (request : UpdateRequest) : (update bucket request).route = .patch bucket request.name :=
  (Place.route_object ..).2.1

theorem route_read (request : ReadRequest) : (read bucket request).route = .read bucket request.name :=
  Place.route_direct ..

theorem route_list (query : Query) : (list bucket query).route = .list bucket :=
  Place.route_list ..

theorem route_announce (create : CreateRequest) : (announce bucket create).route = .announce bucket :=
  (Place.route_upload ..).1

theorem route_upload (create : CreateRequest) (number : Nat) : (upload bucket create number).route = .upload :=
  (Place.route_upload ..).2

end Route

end Sent

theorem isPlaceName_of_check {name : String} (checked : checkSegmentName name = .ok ()) : IsPlaceName name := by
  unfold checkSegmentName at checked
  split at checked
  · cases checked
  · split at checked
    · cases checked
    · rename_i notDot
      simpa [IsPlaceName] using notDot

theorem parseUrl_text {url other : Url} (parsed : Url.parse url.text = .ok other) {text : String}
    (same : text = url.text) : parseUrl text = .ok other := by
  rw [parseUrl, same, parsed]
  rfl

theorem uploadLocation_eq (bucket : String) (number : Nat) :
    Store.uploadLocation bucket (Store.sessionName number) =
      (Place.upload bucket (some (Form.joinPairs (sessionPairs number)))).text := by
  have query : Form.joinPairs (sessionPairs number) =
      "uploadType=resumable&upload_id=" ++ Store.sessionName number := by
    have first : Form.pairText ("uploadType", "resumable") = "uploadType=resumable" := rfl
    have name : Form.encode "upload_id" ++ "=" = "upload_id=" := rfl
    have second : Form.pairText ("upload_id", Store.sessionName number) = "upload_id=" ++ Store.sessionName number := by
      rw [Form.pairText, Form.encode_sessionName, name]
    apply String.toList_inj.1
    simp [Form.joinPairs, sessionPairs, first, second]
  apply String.toList_inj.1
  rw [Place.upload, Url.toList_text_ofPlace]
  simp [Store.uploadLocation, Url.slashed, Route.uploadHost, Url.queryCharacters, query]

theorem apiBase_bucketConfig (bucket : String) :
    (bucketConfig bucket).apiBase = "https://" ++ Route.apiHost ++ "/storage/v1/" := by
  apply String.toList_inj.1
  simp [bucketConfig, Route.apiHost]

theorem bucketAddress_bucketConfig (bucket : String) :
    (bucketConfig bucket).bucketAddress = (Place.bucket bucket none).text :=
  BucketConfig.bucketAddress_eq (apiBase_bucketConfig bucket)

theorem objectAddress_bucketConfig (bucket name : String) (isFull : Bool) :
    ((bucketConfig bucket).objectAddress name ++ if isFull then "?projection=full" else "") =
      (Place.object bucket name (if isFull then some (Form.joinPairs fullPairs) else none)).text :=
  BucketConfig.objectAddress_eq (apiBase_bucketConfig bucket) name isFull

/-! ### Parameters that are read back -/

section Parameters

variable (bucket : String)

theorem parameters_list (query : Query) :
    (Sent.list bucket query).parameters = ⟨BucketConfig.listPairs query⟩ :=
  congrArg Parameters.mk (Form.pairs_ofPlace ..)

theorem get?_listPairs (query : Query) :
    let parameters : Parameters := ⟨BucketConfig.listPairs query⟩
    (parameters.get? "prefix").getD "" = query.stem ∧ (parameters.get? "delimiter").getD "" = query.delimiter ∧
      parameters.get? "pageToken" = (if query.cursor = "" then none else some query.cursor) ∧
      parameters.get? "maxResults" =
        (if query.maxResults = 0 then none else some query.maxResults.toNat.repr) := by
  simp only [Parameters.get?, BucketConfig.listPairs]
  by_cases stem : query.stem = "" <;> by_cases delimiter : query.delimiter = "" <;>
    by_cases cursor : query.cursor = "" <;> by_cases count : query.maxResults = 0 <;>
    cases versions : query.versions <;>
    simp [stem, delimiter, cursor, count, List.lookup_cons]

theorem get?_read (request : ReadRequest) :
    (Sent.read bucket request).parameters.get? "generation" =
      if request.generation = 0 then none else some request.generation.toInt.repr := by
  by_cases latest : request.generation = 0
  · simp [HttpRequest.parameters, Sent.read, readPairs, latest, Place.direct, ofPlace, Form.pairs, Parameters.get?]
  · have pairs : Form.pairs (Sent.read bucket request).url = [("generation", request.generation.toInt.repr)] := by
      simp only [Sent.read, readPairs, latest, if_false, Option.map_some]
      exact Form.pairs_ofPlace ..
    simp [HttpRequest.parameters, pairs, Parameters.get?, latest]

theorem get?_announce (create : CreateRequest) :
    (Sent.announce bucket create).parameters.get? "uploadType" = some "resumable" ∧
      (Sent.announce bucket create).parameters.get? "ifGenerationMatch" =
        create.precondition.map fun generation => generation.toInt.repr := by
  have pairs : Form.pairs (Sent.announce bucket create).url = announcePairs create.precondition :=
    Form.pairs_ofPlace ..
  rw [HttpRequest.parameters, pairs]
  cases create.precondition <;> simp [Parameters.get?, announcePairs, List.lookup_cons]

theorem get?_upload (create : CreateRequest) (number : Nat) :
    (Sent.upload bucket create number).parameters.get? "upload_id" = some (Store.sessionName number) := by
  have pairs : Form.pairs (Sent.upload bucket create number).url = sessionPairs number := Form.pairs_ofPlace ..
  rw [HttpRequest.parameters, pairs]
  rfl

end Parameters

section Bucket

variable {bucket : String} (isBucket : IsPlaceName bucket)

include isBucket

theorem objectUrl_eq (name : String) (isFull : Bool) :
    (bucketConfig bucket).objectUrl name isFull = (checkSegmentName name).map fun _ =>
      Place.object bucket name (if isFull then some (Form.joinPairs fullPairs) else none) := by
  cases checked : checkSegmentName name with
  | error reason => simp [BucketConfig.objectUrl, checked, bind, Except.bind, Except.map]
  | ok =>
      have isName := isPlaceName_of_check checked
      simp only [BucketConfig.objectUrl, checked, bind, Except.bind, Except.map]
      exact parseUrl_text (Place.parse_object isBucket isName (isQuery_full isFull))
        (objectAddress_bucketConfig bucket name isFull)

theorem statRequest_eq (name : String) :
    (bucketConfig bucket).statRequest name = (checkSegmentName name).map fun _ => Sent.stat bucket name := by
  rw [BucketConfig.statRequest, objectUrl_eq isBucket]
  cases checkSegmentName name <;> rfl

theorem deleteRequest_eq (name : String) :
    (bucketConfig bucket).deleteRequest name = (checkSegmentName name).map fun _ => Sent.delete bucket name := by
  rw [BucketConfig.deleteRequest, objectUrl_eq isBucket]
  cases checkSegmentName name <;> rfl

theorem updateRequest_eq (update : UpdateRequest) :
    (bucketConfig bucket).updateRequest update =
      (checkSegmentName update.name).map fun _ => Sent.update bucket update := by
  rw [BucketConfig.updateRequest, objectUrl_eq isBucket]
  cases checkSegmentName update.name <;> rfl

theorem readRequest_eq (read : ReadRequest) :
    (bucketConfig bucket).readRequest read = (checkSegmentName read.name).map fun _ => Sent.read bucket read := by
  cases checked : checkSegmentName read.name with
  | error reason => simp [BucketConfig.readRequest, checked, bind, Except.bind, Except.map]
  | ok =>
      have isName := isPlaceName_of_check checked
      have parsed := parseUrl_text (Place.parse_direct isBucket isName (isQuery_read read.generation))
        (BucketConfig.readAddress_eq (bucketConfig bucket) read)
      simp only [BucketConfig.readRequest, checked, parsed, bind, Except.bind, Except.map]
      rfl

theorem listRequest_eq (query : Query) :
    (bucketConfig bucket).listRequest query = .ok (Sent.list bucket query) := by
  have parsed := parseUrl_text (Place.parse_bucket isBucket Url.isQuery_none) (bucketAddress_bucketConfig bucket)
  simp only [BucketConfig.listRequest, BucketConfig.listUrl, parsed, bind, Except.bind]
  rfl

theorem announceRequest_eq (create : CreateRequest) :
    ((bucketConfig bucket).announceRequest create).mapError Error.invalidRequest =
      (Atomic.checkCreate create).map fun _ => Sent.announce bucket create := by
  have isQuery := Form.isQuery_joinPairs (announcePairs create.precondition)
  have parsed := parseUrl_text (Place.parse_upload isBucket isQuery)
    (BucketConfig.uploadAddress_eq (bucketConfig bucket) create.precondition)
  cases named : validateName create.attributes.name with
  | error reason =>
      simp [BucketConfig.announceRequest, Atomic.checkCreate, named, bind, Except.bind, Except.map, Except.mapError]
  | ok =>
      cases valid : Headers.isValidValue (Bytes.ofText create.attributes.effectiveContentType) with
      | false =>
          simp [BucketConfig.announceRequest, Atomic.checkCreate, named, valid, bind, Except.bind, Except.map,
            Except.mapError, throw, throwThe, MonadExceptOf.throw]
      | true =>
          simp only [BucketConfig.announceRequest, Atomic.checkCreate, named, valid, parsed, bind, Except.bind]
          rfl

end Bucket

/-! ### The place that an announcement is answered with -/

def isVisible (byte : UInt8) : Bool :=
  (0x20 ≤ byte && byte < 0x7F) || byte == 0x09

theorem isVisible_iff {byte : UInt8} : isVisible byte = true ↔
    (0x20 ≤ byte.toNat ∧ byte.toNat < 0x7F) ∨ byte.toNat = 0x09 := by
  simp only [isVisible, Bool.or_eq_true, Bool.and_eq_true, decide_eq_true_eq, beq_iff_eq, UInt8.le_iff_toNat_le,
    UInt8.lt_iff_toNat_lt, ← UInt8.toNat_inj, UInt8.reduceToNat]

theorem visibleText?_ofText {text : String} (visible : (Bytes.ofText text).all isVisible = true) :
    Headers.visibleText? (Bytes.ofText text) = some text := by
  have isAscii : Bytes.IsAscii (Bytes.ofText text) := by
    intro byte member
    have bounds := isVisible_iff.1 (List.all_eq_true.1 visible byte member)
    apply Bytes.lt_of_toNat_lt
    omega
  have characters := Bytes.toList_of_isAscii isAscii
  have read : Headers.visibleText? (Bytes.ofText text) = some (String.ofList (Bytes.toChars (Bytes.ofText text))) :=
    if_pos visible
  rw [read, ← characters, String.ofList_toList]

theorem visible_uploadLocation (bucket : String) (number : Nat) :
    (Bytes.ofText (Store.uploadLocation bucket (Store.sessionName number))).all isVisible = true := by
  have inSegment : (Bytes.ofText (Percent.encodeSegment bucket)).all isVisible = true := by
    rw [Percent.encodeSegment, Percent.isPlain_segment.ofText_encode, List.all_eq_true]
    intro byte member
    have written := Url.keepsSegments_segment.bytes byte (Percent.isWritten_encodeBytes _ _ byte member)
    rw [Url.isSegmentByte_iff, Url.inPath_iff] at written
    rw [isVisible_iff]
    omega
  have inQuery : (Bytes.ofText (Store.sessionName number)).all isVisible = true := by
    rw [← Form.encode_sessionName, List.all_eq_true]
    intro byte member
    have written := Form.inSpecialQuery_of_isWritten byte (Form.isWritten_encode _ byte member)
    rw [Url.inSpecialQuery_iff] at written
    rw [isVisible_iff]
    omega
  have scheme : (Bytes.ofText "https://").all isVisible = true := by decide
  have host : (Bytes.ofText Route.uploadHost).all isVisible = true := by decide
  have path : (Bytes.ofText "/upload/storage/v1/b/").all isVisible = true := by decide
  have rest : (Bytes.ofText "/o?uploadType=resumable&upload_id=").all isVisible = true := by decide
  simp only [Store.uploadLocation, Bytes.ofText_append, List.all_append, scheme, host, path, inSegment, rest, inQuery,
    Bool.and_self]

def announced (bucket : String) (number : Nat) : HttpResponse :=
  .ofBytes Status.ok (Headers.empty.insert "location"
    (Bytes.ofText (Store.uploadLocation bucket (Store.sessionName number)))) []

theorem uploadUrl_eq {bucket : String} (isBucket : IsPlaceName bucket) (number : Nat) :
    BucketConfig.uploadUrl (.ok (announced bucket number)) =
      .ok (Place.upload bucket (some (Form.joinPairs (sessionPairs number)))) := by
  have found : (announced bucket number).headers.getText? "location" =
      some (Store.uploadLocation bucket (Store.sessionName number)) := by
    rw [announced, HttpResponse.ofBytes, Headers.getText?, Headers.get?_insert, if_pos rfl, Option.bind_some,
      visibleText?_ofText (visible_uploadLocation bucket number)]
  have notEmpty : Store.uploadLocation bucket (Store.sessionName number) ≠ "" := by
    intro same
    have characters := congrArg String.toList same
    simp [Store.uploadLocation] at characters
  have parsed := Place.parse_upload isBucket (Form.isQuery_joinPairs (sessionPairs number))
  have accepted : Operation.accepted (.ok (announced bucket number)) = .ok (announced bucket number) := rfl
  rw [← uploadLocation_eq] at parsed
  simp only [BucketConfig.uploadUrl, accepted, bind, Except.bind, found, Option.filter_some,
    decide_eq_true notEmpty, if_true, parsed]
  rfl

theorem uploadRequest_eq (bucket : String) (create : CreateRequest) (number : Nat) :
    (bucketConfig bucket).uploadRequest create
      (Place.upload bucket (some (Form.joinPairs (sessionPairs number)))) = .ok (Sent.upload bucket create number) :=
  rfl

end Simulation

end ObjectStore
