import ObjectStore.CommandLine.Run
import ObjectStore.Proofs.Decoding

/-!
Times as text, there and back. What the simulated service writes is read as the time that it was written for, and
every object that was decoded can be printed with its times, since reading admits no time that has no text. So a
command that changed something never fails for want of a text.
-/

namespace ObjectStore

open Json (Value)

/-! ### Times on the wire -/

theorem Timestamp.exists_write_iff {time : Timestamp} : (∃ text, time.write = .ok text) ↔ time.IsWritable := by
  simp only [write_eq_ok_iff, exists_and_left, exists_eq, and_true]

theorem StoredObject.shownTime_of_writable {time : Timestamp} (writable : time.IsWritable) :
    shownTime time = some time := by
  obtain ⟨text, written⟩ := Timestamp.exists_write_iff.2 writable
  rw [shownTime, Timestamp.format?_eq_some_iff.2 written, Option.map_some]

theorem StoredObject.format?_of_not_writable {time : Timestamp} (unwritable : ¬time.IsWritable) :
    time.format? = none := by
  cases written : time.format? with
  | none => rfl
  | some text => exact absurd (Timestamp.exists_write_iff.1 ⟨text, Timestamp.format?_eq_some_iff.1 written⟩) unwritable

/-- A time is read back as it was if it has a text, and otherwise its text is empty and read as none. -/
theorem written_times_are_read (field : CodedField) (time : Timestamp) :
    let text := StoredObject.timeText time
    (decodeTime field text = .ok (some time) ↔ time.IsWritable) ∧
      (decodeTime field text = .ok none ↔ ¬time.IsWritable) ∧ (text = "" ↔ ¬time.IsWritable) := by
  intro text
  have decoded : decodeTime field text = .ok (StoredObject.shownTime time) := decodeTime_timeText field time
  by_cases writable : time.IsWritable
  · have shown := StoredObject.shownTime_of_writable writable
    have notEmpty : text ≠ "" := by
      intro isEmpty
      rw [isEmpty, shown] at decoded
      cases decoded
    simp [decoded, shown, writable, notEmpty]
  · have unwritten := StoredObject.format?_of_not_writable writable
    have shown : StoredObject.shownTime time = none := by
      rw [StoredObject.shownTime, unwritten, Option.map_none]
    have isEmpty : text = "" := by
      simp only [text, StoredObject.timeText, unwritten, Option.getD_none]
    refine ⟨?_, ?_, iff_of_true isEmpty writable⟩ <;> simp [decoded, shown, writable]

/-! ### Printed objects -/

/-- What is printed for a time can be read as the field that it came from, and is that time. -/
def Timestamp.PrintsAs (field : CodedField) (value : Value) : Option Timestamp → Prop
  | none => value = .null
  | some time => ∃ text, value = .string text ∧ decodeTime field text = .ok (some time)

/-- What is printed of an object, and where its times stand in it. -/
structure Object.Prints (object : Object) (members : List (String × Value)) : Prop where
  toJson : object.toJson = .ok (.object members)
  created : ∃ value, members.lookup "created" = some value ∧ Timestamp.PrintsAs .timeCreated value object.created
  updated : ∃ value, members.lookup "updated" = some value ∧ Timestamp.PrintsAs .updated value object.updated
  deleted : ∃ value, members.lookup "deleted" = some value ∧ Timestamp.PrintsAs .timeDeleted value object.deleted

def Object.IsPrintable (object : Object) : Prop :=
  ∃ members, object.Prints members

theorem Timestamp.IsOptional.prints {text : String} {time : Option Timestamp} (isTime : IsOptional text time)
    (field : CodedField) : ∃ value, Object.timeJson time = .ok value ∧ PrintsAs field value time := by
  cases time with
  | none => exact ⟨.null, rfl, rfl⟩
  | some time =>
      obtain ⟨printed, written⟩ := exists_write_iff.2 (IsRfc3339.isWritable isTime)
      have isPrinted : IsOptional printed (some time) := parse_eq_ok_iff.1 (parse_write written)
      refine ⟨.string printed, ?_, printed, rfl, decodeTime_eq_ok_iff.2 isPrinted⟩
      rw [Object.timeJson, written]
      rfl

theorem Object.Decodes.isPrintable {object : Object} {bucket : String} {resource : Resource}
    (decodes : object.Decodes bucket resource) : object.IsPrintable := by
  obtain ⟨created, isCreated, printsCreated⟩ := decodes.created.prints .timeCreated
  obtain ⟨updated, isUpdated, printsUpdated⟩ := decodes.updated.prints .updated
  obtain ⟨deleted, isDeleted, printsDeleted⟩ := decodes.deleted.prints .timeDeleted
  have printed : ∃ members, object.toJson = .ok (.object members) ∧ members.lookup "created" = some created ∧
      members.lookup "updated" = some updated ∧ members.lookup "deleted" = some deleted := by
    simp only [toJson, isCreated, isUpdated, isDeleted]
    exact ⟨_, rfl, rfl, rfl, rfl⟩
  obtain ⟨members, toJson, atCreated, atUpdated, atDeleted⟩ := printed
  exact ⟨members, toJson, ⟨created, atCreated, printsCreated⟩, ⟨updated, atUpdated, printsUpdated⟩,
    ⟨deleted, atDeleted, printsDeleted⟩⟩

theorem CommandLine.Outcome.ofObject_of_prints {object : Object} {members : List (String × Value)}
    (prints : object.Prints members) :
    ofObject object = printed ((Value.object members).indented ++ "\n") := by
  rw [ofObject, prints.toJson]

theorem HttpResponse.isPrintable_of_object {response : HttpResponse} {bucket : String} {object : Object}
    (read : response.object bucket = .ok object) : object.IsPrintable := by
  obtain ⟨bytes, _, parsed⟩ := bind_eq_ok_iff.1 read
  obtain ⟨resource, _, decoded⟩ := bind_eq_ok_iff.1 parsed
  cases isObject : Object.ofResource bucket resource with
  | error fault =>
      rw [isObject] at decoded
      cases decoded
  | ok other =>
      rw [isObject] at decoded
      cases decoded
      exact (Object.ofResource_eq_ok_iff.1 isObject).isPrintable

/-! ### Results of exchanges -/

namespace Exchange

variable {α β σ : Type} {holds : α → Prop}

/-- Every result that an exchange can have is of a kind, whatever the replies are. -/
inductive Results (holds : α → Prop) : Exchange α → Prop
  | done {result : α} (isHeld : holds result) : Results holds (.done result)
  | send {request : HttpRequest} {next : Except TransportError HttpResponse → Exchange α}
      (rest : ∀ reply, Results holds (next reply)) : Results holds (.send request next)

theorem Results.of_run {exchange : Exchange α} (results : exchange.Results holds) {transport : Transport σ}
    {state after : σ} {result : α} (ran : exchange.run transport state = (.finished result, after)) :
    holds result := by
  induction results generalizing state with
  | done isHeld =>
      cases ran
      exact isHeld
  | @send request next rest ih =>
      rw [run] at ran
      split at ran
      · exact ih _ ran
      · cases ran
      · cases ran

theorem Results.map {exchange : Exchange α} (results : exchange.Results holds) {change : α → β} {kept : β → Prop}
    (keeps : ∀ result, holds result → kept (change result)) : (exchange.map change).Results kept := by
  induction results with
  | done isHeld => exact .done (keeps _ isHeld)
  | send rest ih => exact .send ih

theorem results_of_forall (exchange : Exchange α) (each : ∀ result, holds result) : exchange.Results holds := by
  induction exchange with
  | done result => exact .done (each result)
  | send request next ih => exact .send ih

end Exchange

namespace Operation

def IsPrintable (operation : Operation Object) : Prop :=
  operation.Results fun result => ∀ object, result = .ok object → object.IsPrintable

theorem isPrintable_of_error (error : Error) : IsPrintable (.done (.error error)) :=
  .done fun _ isOk => nomatch isOk

theorem isPrintable_of_reply (bucket : String) (reply : Except TransportError HttpResponse) :
    IsPrintable (.done do
      let response ← accepted reply
      response.object bucket) := by
  refine .done fun object isOk => ?_
  obtain ⟨response, _, read⟩ := bind_eq_ok_iff.1 isOk
  exact HttpResponse.isPrintable_of_object read

theorem isPrintable_sending (request : Except InvalidRequest HttpRequest)
    {next : Except TransportError HttpResponse → Operation Object} (rest : ∀ reply, IsPrintable (next reply)) :
    IsPrintable (sending request next) := by
  cases request with
  | error reason => exact isPrintable_of_error _
  | ok request => exact .send rest

end Operation

namespace BucketConfig

variable (config : BucketConfig)

theorem isPrintable_stat (name : String) : Operation.IsPrintable (config.stat name) :=
  Operation.isPrintable_sending _ (Operation.isPrintable_of_reply config.name)

theorem isPrintable_update (update : UpdateRequest) : Operation.IsPrintable (config.update update) :=
  Operation.isPrintable_sending _ (Operation.isPrintable_of_reply config.name)

theorem isPrintable_create (create : CreateRequest) : Operation.IsPrintable (config.create create) := by
  refine Operation.isPrintable_sending _ fun reply => ?_
  split
  · exact Operation.isPrintable_of_error _
  · exact .send (Operation.isPrintable_of_reply config.name)

end BucketConfig

/-! ### Commands -/

namespace CommandLine

def Failure.IsPrinting (failure : Failure) : Prop :=
  ∃ fault, failure = .printing fault

/-- Nothing is left unprinted for want of a text. -/
def Outcome.IsComplete (outcome : Outcome) : Prop :=
  ∀ failure, outcome.failure = some failure → ¬failure.IsPrinting

theorem Outcome.isComplete_of_none {outcome : Outcome} (succeeded : outcome.failure = none) : outcome.IsComplete := by
  intro failure failed
  rw [succeeded] at failed
  cases failed

theorem Outcome.isComplete_failed {failure : Failure} (other : ¬failure.IsPrinting) :
    (failed failure).IsComplete := by
  rintro _ ⟨⟩
  exact other

theorem Outcome.isComplete_ofContent (content : Content) : (ofContent content).IsComplete := by
  rintro failure failed ⟨fault, rfl⟩
  simp [ofContent] at failed

theorem Outcome.isComplete_ofResult {α : Type} {print : α → Outcome} {result : Except Error α}
    (complete : ∀ value, result = .ok value → (print value).IsComplete) : (ofResult print result).IsComplete := by
  cases result with
  | error error => exact isComplete_failed fun ⟨_, isPrinting⟩ => nomatch isPrinting
  | ok value => exact complete value rfl

def Errand.IsComplete (errand : Errand) : Prop :=
  errand.exchange.Results Outcome.IsComplete

theorem Handle.isComplete_errand (handle : Handle) {α : Type} (operation : Operation α) {print : α → Outcome}
    (complete : ∀ value, (print value).IsComplete) : (handle.errand operation print).IsComplete := by
  have results : operation.Results fun _ => True := Exchange.results_of_forall operation fun _ => trivial
  exact results.map fun _ _ => Outcome.isComplete_ofResult fun value _ => complete value

theorem Handle.isComplete_errand_ofObject (handle : Handle) {operation : Operation Object}
    (printable : Operation.IsPrintable operation) : (handle.errand operation .ofObject).IsComplete := by
  refine printable.map fun result isPrintable => Outcome.isComplete_ofResult fun object isOk => ?_
  obtain ⟨members, prints⟩ := isPrintable object isOk
  rw [Outcome.ofObject_of_prints prints]
  exact Outcome.isComplete_of_none rfl

def Prepares {α : Type} (holds : α → Prop) : Except Failure α → Prop
  | .ok result => holds result
  | .error failure => ¬failure.IsPrinting

theorem Prepares.after {α β : Type} {first : Except Failure α} {next : α → Except Failure β} {holds : β → Prop}
    (prepares : Prepares (fun _ => True) first) (rest : ∀ result, Prepares holds (next result)) :
    Prepares holds (first >>= next) := by
  cases first with
  | error failure => exact prepares
  | ok result => exact rest result

theorem prepares_parseTarget (uri : String) : Prepares (fun _ => True) (parseTarget uri) := by
  rw [parseTarget]
  cases ObjectUri.parse uri with
  | error reason => exact fun ⟨_, isPrinting⟩ => nomatch isPrinting
  | ok target => exact trivial

theorem prepares_objectTarget (uri : String) : Prepares (fun _ => True) (objectTarget uri) := by
  refine (prepares_parseTarget uri).after fun target => ?_
  dsimp only
  split
  · exact fun ⟨_, isPrinting⟩ => nomatch isPrinting
  · exact trivial

theorem prepares_forBucket (settings : Settings) (bucket : String) :
    Prepares (fun _ => True) (Handle.forBucket settings bucket) := by
  unfold Handle.forBucket
  dsimp only
  split
  · exact trivial
  · split
    · exact trivial
    · exact fun ⟨_, isPrinting⟩ => nomatch isPrinting

theorem prepares_metadataEntry (argument : String) : Prepares (fun _ => True) (metadataEntry argument) := by
  unfold metadataEntry
  dsimp only
  split
  · exact fun ⟨_, isPrinting⟩ => nomatch isPrinting
  · split
    · exact fun ⟨_, isPrinting⟩ => nomatch isPrinting
    · exact trivial

theorem prepares_metadataChanges (arguments : List String) :
    Prepares (fun _ => True) (metadataChanges arguments) := by
  unfold metadataChanges
  split
  · exact trivial
  · cases read : arguments.mapM metadataEntry with
    | ok entries => exact trivial
    | error failure =>
        -- The failure is that of the first entry that is none.
        obtain ⟨_, bad, _, _, _, isBad⟩ := mapM_eq_error_iff.1 read
        have prepares := prepares_metadataEntry bad
        rw [isBad] at prepares
        exact prepares

theorem Command.prepares_errand (settings : Settings) (contents : Except String Content) (command : Command) :
    Prepares Errand.IsComplete (command.errand settings contents) := by
  cases command with
  | stat uri =>
      refine (prepares_objectTarget uri).after fun target => (prepares_forBucket settings _).after fun handle => ?_
      exact handle.isComplete_errand_ofObject (handle.config.isPrintable_stat _)
  | cat uri generation =>
      refine (prepares_objectTarget uri).after fun target => (prepares_forBucket settings _).after fun handle => ?_
      exact handle.isComplete_errand _ Outcome.isComplete_ofContent
  | put source uri contentType precondition =>
      refine (prepares_objectTarget uri).after fun target => (prepares_forBucket settings _).after fun handle => ?_
      cases contents with
      | error reason => exact fun ⟨_, isPrinting⟩ => nomatch isPrinting
      | ok content => exact handle.isComplete_errand_ofObject (handle.config.isPrintable_create _)
  | set uri contentType contentEncoding contentLanguage cacheControl metadata =>
      refine (prepares_objectTarget uri).after fun target => (prepares_forBucket settings _).after fun handle => ?_
      refine (prepares_metadataChanges metadata).after fun changes => ?_
      exact handle.isComplete_errand_ofObject (handle.config.isPrintable_update _)
  | rm uri =>
      refine (prepares_objectTarget uri).after fun target => (prepares_forBucket settings _).after fun handle => ?_
      exact handle.isComplete_errand _ fun _ => Outcome.isComplete_of_none rfl
  | ls uri delimiter maxResults pageToken =>
      refine (prepares_parseTarget uri).after fun target => (prepares_forBucket settings _).after fun handle => ?_
      exact handle.isComplete_errand _ fun _ => Outcome.isComplete_of_none rfl

theorem Command.isComplete_of_run {σ : Type} {transport : Transport σ} {settings : Settings}
    {contents : Except String Content} {command : Command} {state after : σ} {outcome : Outcome}
    (ran : command.run transport settings contents state = (.finished outcome, after)) : outcome.IsComplete := by
  have prepares := command.prepares_errand settings contents
  unfold Command.run at ran
  split at ran
  · rename_i failure failed
    cases ran
    rw [failed] at prepares
    exact Outcome.isComplete_failed prepares
  · rename_i errand prepared
    rw [prepared] at prepares
    exact prepares.of_run ran

end CommandLine

open CommandLine (Command Outcome Settings)

/-- An object that was decoded is printed with each of its times as a text that is read as the same time again. So no
command fails to print what it results in, whatever the service answers. -/
theorem decoded_objects_are_printed :
    (∀ bucket resource object, Object.ofResource bucket resource = .ok object →
      ∃ members, object.Prints members ∧
        Outcome.ofObject object = .printed ((Value.object members).indented ++ "\n")) ∧
    ∀ (σ : Type) (transport : Transport σ) (settings : Settings) (contents : Except String Content)
      (command : Command) (state after : σ) (outcome : Outcome),
      command.run transport settings contents state = (.finished outcome, after) → outcome.IsComplete := by
  constructor
  · intro bucket resource object decoded
    obtain ⟨members, prints⟩ := (Object.ofResource_eq_ok_iff.1 decoded).isPrintable
    exact ⟨members, prints, Outcome.ofObject_of_prints prints⟩
  · intro σ transport settings contents command state after outcome ran
    exact Command.isComplete_of_run ran

theorem decoded_objects_are_printed_of_stat :
    let resource : Resource :=
      { timeCreated := "2016-12-31t23:59:60.5z"
        updated := "2017-01-01 00:00:00.12345678912-00:01"
        crc32c := Base64.encode (Crc32c.toBytes 0) }
    let settings : Settings :=
      ⟨"fake-project", none, some "storage.fake.test", some "upload.fake.test",
        some "https://api.fake.test/storage/v1/"⟩
    let transport : Transport Unit := fun _ state =>
      (.answer (.ok (HttpResponse.ofJson Status.ok resource.toJson)), state)
    ∃ object members,
      Object.ofResource "photos" resource = .ok object ∧
      object.created = some ⟨63618825600 * nanosPerSecond - 1, 0⟩ ∧
      object.updated = some ⟨63618825600 * nanosPerSecond + 123456789, -60⟩ ∧ object.Prints members ∧
      Command.run transport settings (.ok []) (.stat "gs://photos/a.txt") () =
        (.finished (.printed ((Value.object members).indented ++ "\n")), ()) ∧
      (Outcome.printed ((Value.object members).indented ++ "\n")).IsComplete := by
  intro resource settings transport
  obtain ⟨prints, complete⟩ := decoded_objects_are_printed
  have isCreated : Timestamp.IsOptional resource.timeCreated (some ⟨63618825600 * nanosPerSecond - 1, 0⟩) :=
    Timestamp.parse_eq_ok_iff.1 (show Timestamp.parse "2016-12-31t23:59:60.5z" = _ by decide)
  have isUpdated : Timestamp.IsOptional resource.updated (some ⟨63618825600 * nanosPerSecond + 123456789, -60⟩) :=
    Timestamp.parse_eq_ok_iff.1 (show Timestamp.parse "2017-01-01 00:00:00.12345678912-00:01" = _ by decide)
  have canDecode (field : CodedField) : resource.CanDecode field := by
    have others := Resource.canDecode_checksum 0 field
    cases field
    case timeCreated => exact ⟨_, isCreated⟩
    case updated => exact ⟨_, isUpdated⟩
    all_goals exact others
  obtain ⟨object, decoded⟩ := Object.exists_ofResource_iff.2 canDecode
  obtain ⟨members, printed, shown⟩ := prints "photos" resource object decoded
  have decodes := Object.ofResource_eq_ok_iff.1 decoded
  have asked : (Simulation.bucketConfig "photos").statRequest "a.txt" = .ok (Simulation.Sent.stat "photos" "a.txt") :=
    Simulation.statRequest_eq ⟨by decide, by decide⟩ "a.txt"
  have succeeded : Status.isSuccess (HttpResponse.ofJson Status.ok resource.toJson).status = true := rfl
  have read : (HttpResponse.ofJson Status.ok resource.toJson).object "photos" = .ok object := by
    rw [HttpResponse.object_ofJson, decoded]
    rfl
  have result : ((Simulation.bucketConfig "photos").stat "a.txt").run transport () = (.finished (.ok object), ()) := by
    have inBucket : (Simulation.bucketConfig "photos").name = "photos" := rfl
    simp only [BucketConfig.stat, asked, Operation.sending, Exchange.run, transport, Operation.accepted,
      Except.mapError, bind, Except.bind, HttpResponse.check_of_success succeeded, inBucket, read]
  have target : CommandLine.objectTarget "gs://photos/a.txt" = .ok ⟨"photos", "a.txt"⟩ := by decide
  have handle : CommandLine.Handle.forBucket settings "photos" = .ok ⟨Simulation.bucketConfig "photos", none⟩ := rfl
  have ran : Command.run transport settings (.ok []) (.stat "gs://photos/a.txt") () =
      (.finished (.printed ((Value.object members).indented ++ "\n")), ()) := by
    simp only [Command.run, Command.errand, target, handle, bind, Except.bind, pure, Except.pure,
      CommandLine.Handle.errand, Exchange.map_eq_bind, Exchange.run_bind, result, Outcome.ofResult, shown,
      Exchange.run]
  exact ⟨object, members, decoded, decodes.created.unique isCreated, decodes.updated.unique isUpdated, printed, ran,
    complete Unit transport settings (.ok []) (.stat "gs://photos/a.txt") () () _ ran⟩

end ObjectStore
