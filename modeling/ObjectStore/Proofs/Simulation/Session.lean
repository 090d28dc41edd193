import Mathlib.Data.List.Induction
import ObjectStore.Proofs.Bytes
import ObjectStore.Proofs.Decimal
import ObjectStore.Proofs.Simulation.Run

/-!
Upload sessions over a run. A session is opened by one announcement only, and what is sent to it later
finishes that announcement's upload or finds the session closed.
-/

namespace ObjectStore

namespace Store

theorem sessionName_injective {left right : Nat} (same : sessionName left = sessionName right) :
    left = right :=
  Decimal.repr_injective ((String.append_right_inj _).1 same)

theorem uploadLocation_injective {bucket left right : String}
    (same : uploadLocation bucket left = uploadLocation bucket right) : left = right :=
  (String.append_right_inj _).1 same

theorem upload_of_announcement {bucket : String} {parameters : Parameters} {headers : Headers}
    {body : Bytes} {upload : PendingUpload}
    (announced : readAnnouncement bucket parameters headers body = .ok upload) :
    ∃ resource, Resource.parse body = .ok resource ∧
      upload.bucket = bucket ∧
      upload.resource =
        { resource with
          contentType :=
            if resource.contentType = "" then (headers.getText? "x-upload-content-type").getD ""
            else resource.contentType } ∧
      upload.precondition = (parameters.get? "ifGenerationMatch").bind (Decimal.signed? 64) := by
  have precondition_eq {precondition : Option Int}
      (read : readPrecondition parameters = .ok precondition) :
      precondition = (parameters.get? "ifGenerationMatch").bind (Decimal.signed? 64) := by
    unfold readPrecondition at read
    split at read
    · rename_i absent
      cases read
      rw [absent]
      rfl
    · rename_i text given
      rw [given, Option.bind_some]
      split at read
      · rename_i generation parsed
        cases read
        rw [parsed]
      · cases read
  simp only [readAnnouncement, bind, Except.bind, pure, Except.pure, throw, throwThe,
    MonadExceptOf.throw] at announced
  split at announced
  · cases announced
  · split at announced
    · cases announced
    · rename_i resource parsed
      split at announced
      · cases announced
      · split at announced
        · cases announced
        · rename_i precondition read
          cases announced
          refine ⟨resource, ?_, rfl, rfl, precondition_eq read⟩
          cases parse : Resource.parse body with
          | error fault => simp [parse, Except.mapError] at parsed
          | ok other => simpa [parse, Except.mapError] using parsed

theorem readAnnouncement_eq_ok {bucket : String} {parameters : Parameters} {headers : Headers}
    {body : Bytes} {upload : PendingUpload}
    (announced : readAnnouncement bucket parameters headers body = .ok upload) :
    upload.bucket = bucket ∧
      (∃ resource, Resource.parse body = .ok resource ∧ upload.resource.name = resource.name) ∧
      upload.precondition = (parameters.get? "ifGenerationMatch").bind (Decimal.signed? 64) := by
  obtain ⟨resource, parsed, sameBucket, read, precondition⟩ := upload_of_announcement announced
  exact ⟨sameBucket, ⟨resource, parsed, by rw [read]⟩, precondition⟩

section Change

variable {store after : Store} {now : Timestamp} {request : HttpRequest} {body : Bytes}
  {answer : Option HttpResponse}

theorem Change.nextUpload_le (change : Change store now request body answer after) :
    store.nextUpload ≤ after.nextUpload := by
  cases change with
  | opened => exact Nat.le_succ _
  | quiet | patched | removed => exact Nat.le_refl _
  | refused _ _ _ _ _ taken => exact (takeUpload_eq_some taken).2 ▸ Nat.le_refl _
  | written _ _ _ _ _ _ taken => exact (takeUpload_eq_some taken).2 ▸ Nat.le_refl _

theorem Change.get?_uploads (change : Change store now request body answer after) {session : String}
    {upload : PendingUpload} (found : after.uploads.get? session = some upload) :
    store.uploads.get? session = some upload ∨
      (session = sessionName (store.nextUpload + 1) ∧ ∃ bucket, request.route = .announce bucket ∧
        readAnnouncement bucket request.parameters request.headers body = .ok upload ∧
        answer = some (.ofBytes Status.ok (Headers.empty.insert "location"
          (Bytes.ofText (uploadLocation bucket session))) [])) := by
  have stillOpen {closed : Store} {other : String} {taken : PendingUpload}
      (closing : store.takeUpload other = some (taken, closed))
      (remains : closed.uploads.get? session = some upload) :
      store.uploads.get? session = some upload := by
    rw [(takeUpload_eq_some closing).2, Dictionary.get?_erase] at remains
    split at remains
    · cases remains
    · exact remains
  cases change with
  | quiet | patched | removed => exact Or.inl found
  | refused _ _ _ _ _ taken => exact Or.inl (stillOpen taken found)
  | written _ _ _ _ _ _ taken => exact Or.inl (stillOpen taken found)
  | opened bucket announced route read =>
      change (store.uploads.insert _ announced).get? session = some upload at found
      rw [Dictionary.get?_insert] at found
      split at found
      · rename_i same
        cases found
        subst same
        exact Or.inr ⟨rfl, bucket, route, read, rfl⟩
      · exact Or.inl found

end Change

end Store

namespace Simulation

/-- A request that opens an upload of an object. The answer names the session, and the generation that
the object must have is the one that the request carries, if it carries one. -/
structure Opens (simulation : Simulation) (request : HttpRequest) (session bucket name : String)
    (precondition : Option Int) : Prop where
  route : request.route = .announce bucket
  named : ∃ body resource, request.body.collect = .ok body ∧ Resource.parse body = .ok resource ∧
    resource.name = name
  carried : (request.parameters.get? "ifGenerationMatch").bind (Decimal.signed? 64) = precondition
  answered : ∃ response, (transport request simulation).1 = .answer (.ok response) ∧
    Status.isSuccess response.status = true ∧
    response.headers.get? "location" = some (Bytes.ofText (Store.uploadLocation bucket session))

structure Sends (request : HttpRequest) (session : String) : Prop where
  route : request.route = .upload
  named : request.parameters.get? "upload_id" = some session

def Concerns (upload : PendingUpload) (bucket name : String) (precondition : Option Int) : Prop :=
  upload.bucket = bucket ∧ upload.resource.name = name ∧ upload.precondition = precondition

theorem Opens.reads {simulation : Simulation} {request : HttpRequest} {session bucket name : String}
    {precondition : Option Int} (opens : Opens simulation request session bucket name precondition) :
    ∃ body upload, request.body.collect = .ok body ∧
      Store.readAnnouncement bucket request.parameters request.headers body = .ok upload ∧
      simulation.store.announce upload = (session, (simulation.step (.request request)).store) := by
  obtain ⟨response, answered, succeeded, location⟩ := opens.answered
  obtain ⟨body, read, change⟩ := change_of_answered answered
  generalize stepped : (simulation.step (.request request)).store = store at change ⊢
  cases change with
  | quiet harmless =>
      have isGet := (harmless response rfl).2 succeeded
      have isPost : request.method = .post :=
        Route.method?_ofRequest (by rw [← HttpRequest.route, opens.route]; rfl)
      rw [isPost] at isGet
      cases isGet
  | opened otherBucket upload route announced =>
      have sameBucket : bucket = otherBucket := Route.announce.inj (opens.route.symm.trans route)
      subst sameBucket
      have sameLocation := Bytes.ofText_injective (Option.some.inj location)
      exact ⟨body, upload, read, announced, Prod.ext (Store.uploadLocation_injective sameLocation) rfl⟩
  | refused _ _ _ route => rw [opens.route] at route; cases route
  | written _ _ _ _ route => rw [opens.route] at route; cases route
  | patched _ _ _ _ _ route => rw [opens.route] at route; cases route
  | removed _ _ _ route => rw [opens.route] at route; cases route

theorem Opens.announces {simulation : Simulation} {request : HttpRequest} {session bucket name : String}
    {precondition : Option Int} (opens : Opens simulation request session bucket name precondition) :
    ∃ upload, Concerns upload bucket name precondition ∧
      simulation.store.announce upload = (session, (simulation.step (.request request)).store) := by
  obtain ⟨body, upload, read, announced, opened⟩ := opens.reads
  obtain ⟨other, resource, readOther, parsed, sameName⟩ := opens.named
  obtain ⟨uploadBucket, ⟨again, parsedAgain, uploadName⟩, carried⟩ := Store.readAnnouncement_eq_ok announced
  have sameBody : other = body := Except.ok.inj (readOther.symm.trans read)
  subst sameBody
  have sameResource : resource = again := Except.ok.inj (parsed.symm.trans parsedAgain)
  subst sameResource
  exact ⟨upload, ⟨uploadBucket, uploadName.trans sameName, carried.trans opens.carried⟩, opened⟩

/-- What holds of every upload that a session can still stand for. -/
structure Pledged (session : String) (holds : PendingUpload → Prop) (simulation : Simulation) : Prop where
  numbered : ∃ number, number ≤ simulation.store.nextUpload ∧ session = Store.sessionName number
  kept : ∀ upload, simulation.store.uploads.get? session = some upload → holds upload

theorem pledged_of_announce {simulation : Simulation} {session : String} {upload : PendingUpload} {happening : Happening}
    (announced : simulation.store.announce upload = (session, (simulation.step happening).store)) :
    Pledged session (· = upload) (simulation.step happening) := by
  obtain ⟨sameSession, sameStore⟩ := Prod.mk.inj announced
  constructor
  · exact ⟨simulation.store.nextUpload + 1, sameStore ▸ Nat.le_refl _, sameSession.symm⟩
  · intro other found
    rw [← sameStore] at found
    change (simulation.store.uploads.insert _ upload).get? session = some other at found
    rw [sameSession, Dictionary.get?_insert, if_pos rfl] at found
    exact (Option.some.inj found).symm

theorem Pledged.step {session : String} {holds : PendingUpload → Prop} {simulation : Simulation}
    (pledged : Pledged session holds simulation) (happening : Happening) :
    Pledged session holds (simulation.step happening) := by
  rcases step_cases simulation happening with same | ⟨request, body, answer, _, _, change, _⟩
  · exact ⟨same ▸ pledged.numbered, same ▸ pledged.kept⟩
  · obtain ⟨number, bound, named⟩ := pledged.numbered
    refine ⟨⟨number, Nat.le_trans bound change.nextUpload_le, named⟩, fun upload found => ?_⟩
    rcases change.get?_uploads found with before | ⟨fresh, _⟩
    · exact pledged.kept upload before
    · have sameNumber := Store.sessionName_injective (named.symm.trans fresh)
      omega

theorem Pledged.run {session : String} {holds : PendingUpload → Prop} {simulation : Simulation}
    (pledged : Pledged session holds simulation) (happenings : List Happening) :
    Pledged session holds (simulation.run happenings) :=
  run_induction _ (fun _ happening kept => kept.step happening) simulation happenings pledged

/-- A session once opened is never opened again, so that it stands for one upload for ever. -/
structure Assigned (session bucket name : String) (precondition : Option Int)
    (simulation : Simulation) : Prop where
  numbered : ∃ number, number ≤ simulation.store.nextUpload ∧ session = Store.sessionName number
  concerns : ∀ upload, simulation.store.uploads.get? session = some upload →
    Concerns upload bucket name precondition

theorem Opens.assigned {simulation : Simulation} {request : HttpRequest} {session bucket name : String}
    {precondition : Option Int} (opens : Opens simulation request session bucket name precondition) :
    Assigned session bucket name precondition (simulation.step (.request request)) := by
  obtain ⟨upload, concerns, announced⟩ := opens.announces
  have pledged := pledged_of_announce announced
  refine ⟨pledged.numbered, fun other found => ?_⟩
  rw [pledged.kept other found]
  exact concerns

theorem Assigned.run {session bucket name : String} {precondition : Option Int}
    {simulation : Simulation} (assigned : Assigned session bucket name precondition simulation)
    (happenings : List Happening) :
    Assigned session bucket name precondition (simulation.run happenings) := by
  have pledged : Pledged session (Concerns · bucket name precondition) simulation :=
    ⟨assigned.numbered, assigned.concerns⟩
  exact ⟨(pledged.run happenings).numbered, (pledged.run happenings).kept⟩

def OpenedIn (time : Timestamp) (happenings : List Happening) (session bucket name : String)
    (precondition : Option Int) : Prop :=
  ∃ before request between, happenings = before ++ .request request :: between ∧
    Opens (after time before) request session bucket name precondition

theorem OpenedIn.assigned {time : Timestamp} {happenings : List Happening} {session bucket name : String}
    {precondition : Option Int} (opened : OpenedIn time happenings session bucket name precondition) :
    Assigned session bucket name precondition (after time happenings) := by
  obtain ⟨before, request, between, rfl, opens⟩ := opened
  rw [after_append, run_cons]
  exact opens.assigned.run between

def AnnouncedIn (time : Timestamp) (happenings : List Happening) (session : String) (upload : PendingUpload) : Prop :=
  ∃ before request between body, happenings = before ++ .request request :: between ∧
    Opens (after time before) request session upload.bucket upload.resource.name upload.precondition ∧
    request.body.collect = .ok body ∧
    Store.readAnnouncement upload.bucket request.parameters request.headers body = .ok upload

theorem AnnouncedIn.append {time : Timestamp} {happenings : List Happening} {session : String}
    {upload : PendingUpload} (announced : AnnouncedIn time happenings session upload) (later : List Happening) :
    AnnouncedIn time (happenings ++ later) session upload := by
  obtain ⟨before, request, between, body, rfl, opens⟩ := announced
  exact ⟨before, request, between ++ later, body, by simp, opens⟩

theorem announcedIn_of_get? {time : Timestamp} {happenings : List Happening} {session : String}
    {upload : PendingUpload}
    (found : (after time happenings).store.uploads.get? session = some upload) :
    AnnouncedIn time happenings session upload := by
  induction happenings using List.reverseRecOn with
  | nil => cases found
  | append_singleton earlier happening ih =>
      rw [after_append, run_cons, run_nil] at found
      rcases step_cases (after time earlier) happening with
        same | ⟨request, body, answer, sent, read, change, replied⟩
      · exact (ih (same ▸ found)).append [happening]
      · rcases change.get?_uploads found with before | ⟨named, bucket, route, announced, answered⟩
        · exact (ih before).append [happening]
        · obtain ⟨sameBucket, ⟨resource, parsed, sameName⟩, carried⟩ :=
            Store.readAnnouncement_eq_ok announced
          subst sent
          refine ⟨earlier, request, [], body, rfl, ⟨sameBucket ▸ route, ⟨body, resource, read, parsed, sameName.symm⟩,
            carried.symm, _, by rw [replied, answered]; rfl, rfl, ?_⟩, read, sameBucket ▸ announced⟩
          simp [HttpResponse.ofBytes, sameBucket]

theorem openedIn_of_get? {time : Timestamp} {happenings : List Happening} {session : String}
    {upload : PendingUpload}
    (found : (after time happenings).store.uploads.get? session = some upload) :
    OpenedIn time happenings session upload.bucket upload.resource.name upload.precondition := by
  obtain ⟨before, request, between, _, split, opens, _⟩ := announcedIn_of_get? found
  exact ⟨before, request, between, split, opens⟩

theorem OpenedIn.concerns {time : Timestamp} {happenings : List Happening} {session bucket name : String}
    {precondition : Option Int} (opened : OpenedIn time happenings session bucket name precondition)
    {upload : PendingUpload} {closed : Store}
    (taken : (after time happenings).store.takeUpload session = some (upload, closed)) :
    Concerns upload bucket name precondition :=
  opened.assigned.concerns upload (Store.takeUpload_eq_some taken).1

/-- The object that a request writes to: the one that its path names, or the one that the session it
sends contents to was opened for. -/
def Targets (time : Timestamp) (happenings : List Happening) (request : HttpRequest)
    (bucket name : String) : Prop :=
  match request.method with
  | .put => ∃ session precondition, Sends request session ∧
      OpenedIn time happenings session bucket name precondition
  | .patch | .delete => request.url.hostText = Route.apiHost ∧
      Route.segmentsBehind ["storage", "v1", "b"] request.url.path = some [bucket, "o", name]
  | _ => False

end Simulation

end ObjectStore
