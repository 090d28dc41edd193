import ObjectStore.CommandLine.Run
import ObjectStore.Proofs.CommandLine.Metadata
import ObjectStore.Transport.Network

/-!
Metadata that is changed from the command line. Many arguments in one command leave the metadata that one command for
each leaves, and a bad argument is found before anything is sent.
-/

namespace ObjectStore

open Url (IsPlaceName)

namespace CommandLine

/-! ### Runs of one command -/

theorem objectTarget_of_parsed {uri bucket name : String} (place : ObjectUri.parse uri = .ok ⟨bucket, name⟩)
    (named : name ≠ "") : objectTarget uri = .ok ⟨bucket, name⟩ := by
  simp only [objectTarget, parseTarget, place, Except.mapError, bind, Except.bind, if_neg named]
  rfl

structure Invocation where
  uri : String
  contentType : Option String
  contentEncoding : Option String
  contentLanguage : Option String
  cacheControl : Option String
  settings : Settings
  contents : Except String Content

namespace Invocation

def command (invocation : Invocation) (arguments : List String) : Command :=
  .set invocation.uri invocation.contentType invocation.contentEncoding invocation.contentLanguage
    invocation.cacheControl arguments

def run {σ : Type} (invocation : Invocation) (transport : Transport σ) (arguments : List String) (state : σ) :
    Ended Outcome × σ :=
  (invocation.command arguments).run transport invocation.settings invocation.contents state

def update (invocation : Invocation) (name : String) (metadata : Option (Dictionary (Option String))) :
    UpdateRequest where
  name := name
  contentType := .ofOption invocation.contentType
  contentEncoding := .ofOption invocation.contentEncoding
  contentLanguage := .ofOption invocation.contentLanguage
  cacheControl := .ofOption invocation.cacheControl
  metadata := metadata

structure IsReady (invocation : Invocation) (bucket name : String) : Prop where
  place : ObjectUri.parse invocation.uri = .ok ⟨bucket, name⟩
  token : ∀ token, invocation.settings.accessToken = some token →
    ∃ authorization, Authorization.ofToken token = .ok authorization

structure IsAimed (invocation : Invocation) (bucket name : String) : Prop extends IsReady invocation bucket name where
  base : (invocation.settings.bucketConfig bucket).apiBase = (Simulation.bucketConfig bucket).apiBase
  contentType : invocation.contentType ≠ some ""

variable {invocation : Invocation} {arguments : List String} {bucket name : String}

theorem IsReady.exists_handle (ready : invocation.IsReady bucket name) :
    ∃ authorization, Handle.forBucket invocation.settings bucket =
      .ok ⟨invocation.settings.bucketConfig bucket, authorization⟩ := by
  cases token : invocation.settings.accessToken with
  | none => exact ⟨none, by simp only [Handle.forBucket, token]⟩
  | some text =>
      obtain ⟨authorization, accepted⟩ := ready.token text token
      exact ⟨some authorization, by simp only [Handle.forBucket, token, accepted]⟩

theorem errand_of_malformed {failure : Failure} (failed : metadataChanges arguments = .error failure) :
    ∃ reported, (invocation.command arguments).errand invocation.settings invocation.contents = .error reported := by
  simp only [command, Command.errand]
  cases objectTarget invocation.uri with
  | error reported => exact ⟨reported, rfl⟩
  | ok target =>
      simp only [bind, Except.bind]
      cases Handle.forBucket invocation.settings target.bucket with
      | error reported => exact ⟨reported, rfl⟩
      | ok handle => exact ⟨failure, by simp only [failed]⟩

theorem IsReady.errand_of_malformed (ready : invocation.IsReady bucket name) (named : name ≠ "") {failure : Failure}
    (failed : metadataChanges arguments = .error failure) :
    (invocation.command arguments).errand invocation.settings invocation.contents = .error failure := by
  obtain ⟨authorization, handle⟩ := ready.exists_handle
  simp only [command, Command.errand, objectTarget_of_parsed ready.place named, handle, failed, bind, Except.bind]

theorem run_of_malformed {failure : Failure} (failed : metadataChanges arguments = .error failure) :
    ∃ reported, (∀ {σ : Type} (transport : Transport σ) (state : σ),
        invocation.run transport arguments state = (.finished (.failed reported), state)) ∧
      ∀ bucket name, invocation.IsReady bucket name → name ≠ "" → reported = failure := by
  obtain ⟨reported, refused⟩ := invocation.errand_of_malformed failed
  refine ⟨reported, fun transport state => by rw [run, Command.run, refused], fun bucket name ready named => ?_⟩
  have refusedAlike := ready.errand_of_malformed named failed
  rw [refused] at refusedAlike
  exact Except.error.inj refusedAlike

end Invocation

end CommandLine

/-! ### What carries a change to the simulated service -/

theorem Network.connect_of_plain {σ : Type} {server : Transport σ} {request : HttpRequest}
    (scheme : request.url.scheme = "https") (username : request.url.username = "")
    (password : request.url.password = none) {body : Bytes} (read : request.body.content.collect = .ok body)
    (state : σ) :
    connect server request state = match server (arriving request body) state with
      | (.answer (.ok response), after) => (.answer (.ok (delivered request.method response)), after)
      | (.answer (.error _), after) => (.answer (.error (interrupted request.url closed)), after)
      | (reply, after) => (reply, after) := by
  have bare : credentials? request.url = none := by
    rw [credentials?, username, password]
    rfl
  have reachable : isReachable request.url = true := by
    simp [isReachable, scheme]
  have carried : withoutCredentials request = request := by
    rw [withoutCredentials, bare]
  rcases answered : server (arriving request body) state with ⟨(response | error) | _ | message, after⟩ <;>
    simp only [connect, carried, reachable, read, answered, Bool.not_true, Bool.false_eq_true, if_false]

structure HttpRequest.IsPatch (request : HttpRequest) (bucket name : String) (body : Bytes) : Prop where
  route : request.route = .patch bucket name
  body : request.body = .full body
  scheme : request.url.scheme = "https"
  username : request.url.username = ""
  password : request.url.password = none

namespace Simulation

theorem isPatch_update (bucket : String) (request : UpdateRequest) :
    (Sent.update bucket request).IsPatch bucket request.name (Bytes.ofText request.patch.compact) :=
  ⟨Sent.route_update bucket request, rfl, rfl, rfl, rfl⟩

def IsCarrier (carrier : Transport Simulation) : Prop :=
  carrier = transport ∨ carrier = Network.connect transport

def Delivers (carrier : Transport Simulation) : Prop :=
  ∀ {request : HttpRequest} {bucket name : String} {body : Bytes}, request.IsPatch bucket name body →
    ∀ simulation : Simulation, ∃ answer, carrier request simulation = (.answer answer, { simulation with
      store := (simulation.store.answerPatch simulation.clock.now bucket name body).2 })

theorem delivers_transport : Delivers transport := by
  intro request bucket name body patches simulation
  have read : request.body.collect = .ok body := by
    rw [patches.body]
    exact Body.collect_full body
  rw [transport_of_collect read, Store.answer_patch _ _ _ patches.route]
  exact ⟨_, rfl⟩

theorem delivers_connect : Delivers (Network.connect transport) := by
  intro request bucket name body patches simulation
  have read : request.body.content.collect = .ok body := by
    simp [patches.body, Body.content, Content.ofBytes, Content.collect, Except.map]
  have arrives : (Network.arriving request body).IsPatch bucket name body :=
    ⟨patches.route, rfl, patches.scheme, patches.username, patches.password⟩
  obtain ⟨answer, delivered⟩ := delivers_transport arrives simulation
  rw [Network.connect_of_plain patches.scheme patches.username patches.password read, delivered]
  cases answer with
  | ok response => exact ⟨_, rfl⟩
  | error error => exact ⟨_, rfl⟩

theorem Delivers.authorized {carrier : Transport Simulation} (delivers : Delivers carrier)
    (authorization : Authorization) : Delivers (authorization.transport carrier) := by
  intro request bucket name body patches simulation
  have authorized : (authorization.authorize request).IsPatch bucket name body :=
    ⟨patches.route, patches.body, patches.scheme, patches.username, patches.password⟩
  exact delivers authorized simulation

theorem IsCarrier.delivers {carrier : Transport Simulation} (isCarrier : IsCarrier carrier) : Delivers carrier := by
  rcases isCarrier with rfl | rfl
  · exact delivers_transport
  · exact delivers_connect

theorem state_of_update {bucket : String} (isBucket : IsPlaceName bucket) {carrier : Transport Simulation}
    (delivers : Delivers carrier) {request : UpdateRequest} (checked : checkSegmentName request.name = .ok ())
    (simulation : Simulation) : (((bucketConfig bucket).update request).run carrier simulation).2 =
      { simulation with
        store := (simulation.store.answerPatch simulation.clock.now bucket request.name
          (Bytes.ofText request.patch.compact)).2 } := by
  obtain ⟨answer, delivered⟩ := delivers (isPatch_update bucket request) simulation
  rw [BucketConfig.update, updateRequest_eq isBucket, checked]
  simp only [Except.map, Operation.sending, Exchange.run, delivered]

end Simulation

/-! ### What a run leaves -/

theorem BucketConfig.update_congr {config other : BucketConfig} (sameName : config.name = other.name)
    (sameBase : config.apiBase = other.apiBase) (sameAgent : config.userAgent = other.userAgent)
    (request : UpdateRequest) : config.update request = other.update request := by
  simp only [update, updateRequest, objectUrl, objectAddress, bucketAddress, BucketConfig.request, sameName, sameBase,
    sameAgent]

namespace CommandLine

theorem Settings.name_bucketConfig (settings : Settings) (bucket : String) :
    (settings.bucketConfig bucket).name = bucket := by
  unfold bucketConfig
  cases settings.apiBase <;> rfl

theorem Settings.userAgent_bucketConfig (settings : Settings) (bucket : String) :
    (settings.bucketConfig bucket).userAgent = (Simulation.bucketConfig bucket).userAgent := by
  unfold bucketConfig
  cases settings.apiBase <;> rfl

namespace Invocation.IsAimed

variable {invocation : Invocation} {bucket name : String} (aimed : invocation.IsAimed bucket name)

include aimed

theorem keepsContentType (changes : Option (Dictionary (Option String))) :
    ¬(invocation.update name changes).RemovesContentType := by
  have given : (invocation.update name changes).contentType = .ofOption invocation.contentType := rfl
  rw [UpdateRequest.RemovesContentType, given]
  cases option : invocation.contentType with
  | none => simp [FieldUpdate.ofOption]
  | some value =>
      have present : value ≠ "" := by
        rintro rfl
        exact aimed.contentType option
      simp [FieldUpdate.ofOption, present]

theorem update_eq (request : UpdateRequest) :
    (invocation.settings.bucketConfig bucket).update request = (Simulation.bucketConfig bucket).update request :=
  BucketConfig.update_congr (invocation.settings.name_bucketConfig bucket) aimed.base
    (invocation.settings.userAgent_bucketConfig bucket) request

theorem exists_carrier (named : name ≠ "") {carrier : Transport Simulation} (delivers : Simulation.Delivers carrier)
    {arguments : List String} {changes : Option (Dictionary (Option String))}
    (read : metadataChanges arguments = .ok changes) :
    ∃ used, Simulation.Delivers used ∧ ∀ simulation, (invocation.run carrier arguments simulation).2 =
      (((Simulation.bucketConfig bucket).update (invocation.update name changes)).run used simulation).2 := by
  obtain ⟨authorization, handle⟩ := aimed.exists_handle
  have errand : (invocation.command arguments).errand invocation.settings invocation.contents =
      .ok ⟨authorization, ((Simulation.bucketConfig bucket).update (invocation.update name changes)).map
        (Outcome.ofResult .ofObject)⟩ := by
    simp only [command, Command.errand, objectTarget_of_parsed aimed.place named, handle, read, bind, Except.bind,
      Handle.errand, ← aimed.update_eq]
    rfl
  cases authorization with
  | none =>
      refine ⟨carrier, delivers, fun simulation => ?_⟩
      simp only [run, Command.run, errand, Exchange.run_map]
  | some authorization =>
      refine ⟨authorization.transport carrier, delivers.authorized authorization, fun simulation => ?_⟩
      simp only [run, Command.run, errand, Exchange.run_map]

end Invocation.IsAimed

end CommandLine

namespace Simulation

open CommandLine (Invocation metadataChanges)

section Object

variable {invocation : Invocation} {arguments : List String} {bucket name : String}
  (isBucket : IsPlaceName bucket) (checked : checkSegmentName name = .ok ()) (aimed : invocation.IsAimed bucket name)

include isBucket checked aimed

theorem state_of_run {carrier : Transport Simulation} (isCarrier : IsCarrier carrier)
    {changes : Option (Dictionary (Option String))} (read : metadataChanges arguments = .ok changes)
    {simulation : Simulation} {object : StoredObject} (found : simulation.store.find? bucket name = some object)
    (typed : object.contentType ≠ "") :
    (invocation.run carrier arguments simulation).2 = { simulation with
      store := simulation.store.put bucket name
        (Atomic.updated (invocation.update name changes) object simulation.clock.now) } := by
  have named : name ≠ "" := by
    rintro rfl
    cases checked
  obtain ⟨used, delivers, ran⟩ := aimed.exists_carrier named isCarrier.delivers read
  have keeps : (Atomic.applyUpdate (invocation.update name changes) object).contentType ≠ "" :=
    Atomic.contentType_updated (aimed.keepsContentType changes) typed simulation.clock.now
  rw [ran, state_of_update isBucket delivers checked, ← state_of_update isBucket delivers_transport checked,
    run_update isBucket, Atomic.update_found checked found keeps]
  rfl

end Object

/-- One run for each argument. In between anything can happen but a successful write of the object. -/
inductive SetEach (invocation : Invocation) (carrier : Transport Simulation) (bucket name : String) :
    Simulation → List String → Simulation → Prop
  | done (simulation : Simulation) : SetEach invocation carrier bucket name simulation [] simulation
  | set {simulation final : Simulation} {argument : String} {rest : List String}
      (next : SetEach invocation carrier bucket name (invocation.run carrier [argument] simulation).2 rest final) :
      SetEach invocation carrier bucket name simulation (argument :: rest) final
  | meanwhile {simulation final : Simulation} {arguments : List String} (happening : Happening)
      (spared : ∀ request, happening = .request request → ¬simulation.Writes request bucket name)
      (next : SetEach invocation carrier bucket name (simulation.step happening) arguments final) :
      SetEach invocation carrier bucket name simulation arguments final

theorem exists_setEach (invocation : Invocation) (carrier : Transport Simulation) (bucket name : String)
    (simulation : Simulation) (arguments : List String) :
    ∃ final, SetEach invocation carrier bucket name simulation arguments final := by
  induction arguments generalizing simulation with
  | nil => exact ⟨simulation, .done simulation⟩
  | cons argument rest ih =>
      obtain ⟨final, next⟩ := ih (invocation.run carrier [argument] simulation).2
      exact ⟨final, .set next⟩

end Simulation

namespace CommandLine.Invocation

def retexted (invocation : Invocation) (object : StoredObject) : StoredObject :=
  { object with
    contentType := Atomic.applyField (.ofOption invocation.contentType) object.contentType
    contentEncoding := Atomic.applyField (.ofOption invocation.contentEncoding) object.contentEncoding
    contentLanguage := Atomic.applyField (.ofOption invocation.contentLanguage) object.contentLanguage
    cacheControl := Atomic.applyField (.ofOption invocation.cacheControl) object.cacheControl }

theorem updated_eq (invocation : Invocation) (name : String) (entries : List (String × Option String))
    (object : StoredObject) (now : Timestamp) :
    Atomic.updated (invocation.update name (some (.ofList entries))) object now =
      { invocation.retexted object with
        metadata := entries.foldl Atomic.applyChange object.metadata
        metageneration := object.metageneration + 1
        updated := now } := by
  rw [← Atomic.foldl_applyChange_ofList]
  rfl

theorem applyField_twice (update : FieldUpdate) (old : String) :
    Atomic.applyField update (Atomic.applyField update old) = Atomic.applyField update old := by
  cases update <;> rfl

theorem retexted_updated (invocation : Invocation) (name : String) (changes : Option (Dictionary (Option String)))
    (object : StoredObject) (now : Timestamp) :
    invocation.retexted (Atomic.updated (invocation.update name changes) object now) =
      Atomic.updated (invocation.update name changes) object now := by
  simp only [retexted, Atomic.updated, Atomic.applyUpdate, update, applyField_twice]

end CommandLine.Invocation

namespace Simulation

open CommandLine (EditedBy Invocation IsMalformed malformed metadataChanges metadataChanges_eq_ok_iff metadataEntry)

theorem SetEach.folds {invocation : Invocation} {carrier : Transport Simulation} (isCarrier : IsCarrier carrier)
    {bucket name : String} (isBucket : IsPlaceName bucket) (checked : checkSegmentName name = .ok ())
    (aimed : invocation.IsAimed bucket name) {simulation final : Simulation} {arguments : List String}
    (each : SetEach invocation carrier bucket name simulation arguments final)
    {entries : List (String × Option String)} (read : arguments.mapM metadataEntry = .ok entries)
    {object : StoredObject} (found : simulation.store.find? bucket name = some object)
    (typed : object.contentType ≠ "") :
    ∃ last, final.store.find? bucket name = some last ∧
      last = { (if arguments = [] then object else invocation.retexted object) with
        metadata := entries.foldl Atomic.applyChange object.metadata
        metageneration := object.metageneration + arguments.length
        updated := last.updated } := by
  induction each generalizing entries object with
  | done simulation =>
      cases read
      exact ⟨object, found, rfl⟩
  | meanwhile happening spared next ih =>
      refine ih read ?_ typed
      rw [find?_step_of_spared spared, found]
  | @set simulation final argument rest next ih =>
      obtain ⟨entry, others, isFirst, areRest, rfl⟩ : ∃ entry others, metadataEntry argument = .ok entry ∧
          rest.mapM metadataEntry = .ok others ∧ entries = entry :: others := by
        cases mapM_eq_ok_iff.1 read with
        | cons isFirst areRest => exact ⟨_, _, isFirst, mapM_eq_ok_iff.2 areRest, rfl⟩
      have single : metadataChanges [argument] = .ok (some (.ofList [entry])) :=
        (metadataChanges_eq_ok_iff (List.cons_ne_nil _ _)).2 ⟨[entry], mapM_eq_ok_iff.2 (.cons isFirst .nil), rfl⟩
      have ran := state_of_run isBucket checked aimed isCarrier single found typed
      let middle := Atomic.updated (invocation.update name (some (.ofList [entry]))) object simulation.clock.now
      have written : (invocation.run carrier [argument] simulation).2.store.find? bucket name = some middle := by
        rw [ran, Store.find?_put, if_pos ⟨rfl, rfl⟩]
      have middleTyped : middle.contentType ≠ "" :=
        Atomic.contentType_updated (aimed.keepsContentType _) typed simulation.clock.now
      obtain ⟨last, present, folded⟩ := ih areRest written middleTyped
      refine ⟨last, present, ?_⟩
      -- The first run gives the object its texts, and those after it find them as they leave them.
      have settled : (if rest = [] then middle else invocation.retexted middle) = middle := by
        rw [invocation.retexted_updated, ite_self]
      have middleEq : middle = _ := invocation.updated_eq name [entry] object simulation.clock.now
      rw [settled, middleEq] at folded
      rw [folded, if_neg (List.cons_ne_nil _ _), List.length_cons]
      simp only [List.foldl_cons, List.foldl_nil]
      congr 1
      omega

/-- Reading the arguments fails where one of them has no equals sign or begins with one. The first such argument is
told of, and nothing is sent. Otherwise they are edits of the metadata: one run with all of them leaves what one run
for each leaves, but for the time of the update and the number of metadata versions. -/
theorem metadata_arguments_edit_in_sequence {arguments : List String} (notEmpty : arguments ≠ []) :
    ((∃ failure, metadataChanges arguments = .error failure) ↔ ∃ argument ∈ arguments, IsMalformed argument) ∧
      (∀ failure, metadataChanges arguments = .error failure →
        (∃ before bad behind, arguments = before ++ bad :: behind ∧
          (∀ argument ∈ before, ¬IsMalformed argument) ∧ IsMalformed bad ∧ failure = malformed bad) ∧
        ∀ invocation : Invocation, ∃ reported,
          (∀ {σ : Type} (transport : Transport σ) (state : σ),
            invocation.run transport arguments state = (.finished (.failed reported), state)) ∧
          ∀ bucket name, invocation.IsReady bucket name → name ≠ "" → reported = failure) ∧
      ∀ changes, metadataChanges arguments = .ok changes →
        ∀ (time : Timestamp) (history : List Happening), (∀ happening ∈ history, happening.IsOperation) →
        ∀ bucket name object, (after time history).store.find? bucket name = some object →
        ∀ invocation : Invocation, invocation.IsAimed bucket name → ∀ carrier, IsCarrier carrier →
          ∃ metadata, EditedBy arguments object.metadata metadata ∧
            let new := { invocation.retexted object with
              metadata, metageneration := object.metageneration + 1, updated := (after time history).clock.now }
            (invocation.run carrier arguments (after time history)).2 =
                { after time history with store := (after time history).store.put bucket name new } ∧
              ∀ final, SetEach invocation carrier bucket name (after time history) arguments final →
                ∃ last, final.store.find? bucket name = some last ∧
                  last = { new with
                    metageneration := object.metageneration + arguments.length, updated := last.updated } := by
  refine ⟨CommandLine.exists_failure_iff, ?_, ?_⟩
  · intro failure failed
    exact ⟨CommandLine.metadataChanges_eq_error_iff.1 failed, fun invocation => Invocation.run_of_malformed failed⟩
  · intro changes accepted time history operations bucket name object found invocation aimed carrier isCarrier
    obtain ⟨isBucket, isName, typed⟩ := (after_operated time operations).objects bucket name object found
    have checked := checkSegmentName_of_validate isName
    obtain ⟨entries, read, rfl⟩ := (metadataChanges_eq_ok_iff notEmpty).1 accepted
    refine ⟨entries.foldl Atomic.applyChange object.metadata, CommandLine.editedBy_foldl read object.metadata, ?_, ?_⟩
    · rw [state_of_run isBucket checked aimed isCarrier accepted found typed, invocation.updated_eq]
    · intro final each
      obtain ⟨last, present, folded⟩ := each.folds isCarrier isBucket checked aimed read found typed
      rw [if_neg notEmpty] at folded
      exact ⟨last, present, folded⟩

theorem metadata_arguments_edit_twice :
    let arguments := ["size=big", "color=", "size=a=b"]
    let history := creation "photos" "a" 0
    let invocation : Invocation :=
      { uri := "gs://photos/a", contentType := none, contentEncoding := none, contentLanguage := some "de"
        cacheControl := none, contents := .ok []
        settings := ⟨"", some "secret", none, none, some "https://api.fake.test/storage/v1"⟩ }
    let carrier := Network.connect transport
    ∃ object new last final, (after ⟨0, 0⟩ history).store.find? "photos" "a" = some object ∧
      (invocation.run carrier arguments (after ⟨0, 0⟩ history)).2.store.find? "photos" "a" = some new ∧
      SetEach invocation carrier "photos" "a" (after ⟨0, 0⟩ history) arguments final ∧
      final.store.find? "photos" "a" = some last ∧
      new.metadata.get? "size" = some "a=b" ∧ new.metadata.get? "color" = none ∧ new.contentLanguage = "de" ∧
      last = { new with metageneration := object.metageneration + 3, updated := last.updated } := by
  intro arguments history invocation carrier
  have isBucket : IsPlaceName "photos" := ⟨by decide, by decide⟩
  have isName : validateName "a" = .ok () := by decide
  obtain ⟨object, _, written⟩ := objects_creation "photos" isName ⟨0, 0⟩
  have found : (after ⟨0, 0⟩ history).store.find? "photos" "a" = some object := by
    rw [Store.find?_congr written, Store.find?_put, if_pos ⟨rfl, rfl⟩]
  have ready : invocation.IsReady "photos" "a" := by
    constructor
    case place => decide
    case token =>
      rintro token ⟨⟩
      exact ⟨_, rfl⟩
  have aimed : invocation.IsAimed "photos" "a" := ⟨ready, by decide, nofun⟩
  have accepted : metadataChanges arguments =
      .ok (some (.ofList [("size", some "big"), ("color", none), ("size", some "a=b")])) := by
    decide
  obtain ⟨metadata, edited, ran, each⟩ :=
    (metadata_arguments_edit_in_sequence (List.cons_ne_nil _ _ : arguments ≠ [])).2.2 _ accepted ⟨0, 0⟩ history
      (isOperation_creation isBucket isName 0) "photos" "a" object found invocation aimed carrier (.inr rfl)
  let first := (invocation.run carrier ["size=big"] (after ⟨0, 0⟩ history)).2
  obtain ⟨final, rest⟩ :=
    exists_setEach invocation carrier "photos" "a" (first.step (.setTime ⟨9, 0⟩)) ["color=", "size=a=b"]
  have sets : SetEach invocation carrier "photos" "a" (after ⟨0, 0⟩ history) arguments final :=
    .set (.meanwhile (.setTime ⟨9, 0⟩) (fun _ sent => Happening.noConfusion sent) rest)
  obtain ⟨last, present, same⟩ := each final sets
  let new : StoredObject := { invocation.retexted object with
    metadata, metageneration := object.metageneration + 1, updated := (after ⟨0, 0⟩ history).clock.now }
  refine ⟨object, new, last, final, found, ?_, sets, present, ?_, ?_, ?_, same⟩
  · rw [ran, Store.find?_put, if_pos ⟨rfl, rfl⟩]
  · exact edited.last ["size=big", "color="] "size=a=b" [] "size" "a=b" rfl ⟨by decide, by decide⟩ nofun
  · refine edited.last ["size=big"] "color=" ["size=a=b"] "color" "" rfl ⟨by decide, by decide⟩ ?_
    intro later member other ⟨_, split⟩
    rw [List.mem_singleton.1 member] at split
    have characters := congrArg String.toList split
    simp at characters
  · rfl

end Simulation

end ObjectStore
