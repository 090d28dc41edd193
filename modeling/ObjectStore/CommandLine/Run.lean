import ObjectStore.CommandLine.Arguments
import ObjectStore.CommandLine.Metadata
import ObjectStore.Transport.Authorized

/-!
What each command does to a bucket and what it prints.
-/

namespace ObjectStore.CommandLine

structure Outcome where
  output : Bytes
  notes : String
  failure : Option Failure
deriving DecidableEq, Repr

namespace Outcome

def failed (failure : Failure) : Outcome :=
  ⟨[], "", some failure⟩

def printed (output : String) : Outcome :=
  ⟨Bytes.ofText output, "", none⟩

def ofResult {α : Type} (print : α → Outcome) : Except Error α → Outcome
  | .ok result => print result
  | .error error => failed (.operation error)

def ofObject (object : Object) : Outcome :=
  match object.toJson with
  | .ok value => printed (value.indented ++ "\n")
  | .error fault => failed (.printing fault)

/-- What was read before a failure is printed all the same. -/
def ofContent (content : Content) : Outcome :=
  let (bytes, failure) := content.readAll
  ⟨bytes, "", failure.map Failure.copying⟩

def sizeWidth : Nat := 12

def padded (number : Nat) : String :=
  let digits := toString number
  String.ofList (List.replicate (sizeWidth - digits.length) ' ') ++ digits

def groupLine (bucket stem : String) : String :=
  ObjectUri.text bucket stem ++ "\n"

def objectLine (bucket : String) (object : Object) : String :=
  padded object.size.toNat ++ "  " ++ ObjectUri.text bucket object.name ++ "\n"

def ofPage (bucket : String) (page : Page) : Outcome :=
  let output := String.join
    (page.prefixes.map (groupLine bucket) ++ page.results.map (objectLine bucket))
  let notes := match page.next with
    | some query => "next page token: " ++ query.cursor ++ "\n"
    | none => ""
  ⟨Bytes.ofText output, notes, none⟩

end Outcome

structure Errand where
  authorization : Option Authorization
  exchange : Exchange Outcome

def parseTarget (uri : String) : Except Failure ObjectUri :=
  (ObjectUri.parse uri).mapError fun reason => .operation (.invalidRequest reason)

def objectTarget (uri : String) : Except Failure ObjectUri := do
  let target ← parseTarget uri
  if target.object = "" then throw (.missingName uri)
  pure target

structure Handle where
  config : BucketConfig
  authorization : Option Authorization

namespace Handle

def forBucket (settings : Settings) (bucket : String) : Except Failure Handle :=
  let config := settings.bucketConfig bucket
  match settings.accessToken with
  | none => .ok ⟨config, none⟩
  | some token => match Authorization.ofToken token with
    | .ok authorization => .ok ⟨config, some authorization⟩
    | .error error => .error (.accessToken error)

def errand {α : Type} (handle : Handle) (operation : Operation α) (print : α → Outcome) : Errand :=
  ⟨handle.authorization, operation.map (Outcome.ofResult print)⟩

end Handle

namespace Command

/-- The exchange that a command stands for, or why there is none. `contents` is what the source of an
upload holds. -/
def errand (settings : Settings) (contents : Except String Content) : Command → Except Failure Errand
  | .stat uri => do
      let target ← objectTarget uri
      let handle ← Handle.forBucket settings target.bucket
      pure (handle.errand (handle.config.stat target.object) .ofObject)
  | .cat uri generation => do
      let target ← objectTarget uri
      let handle ← Handle.forBucket settings target.bucket
      pure (handle.errand (handle.config.read ⟨target.object, generation.getD 0⟩) .ofContent)
  | .put source uri contentType precondition => do
      let target ← objectTarget uri
      let handle ← Handle.forBucket settings target.bucket
      let contents ← contents.mapError (Failure.source source)
      let attributes : Attributes := { name := target.object, contentType := contentType.getD "" }
      pure (handle.errand (handle.config.create ⟨attributes, contents, precondition⟩) .ofObject)
  | .set uri contentType contentEncoding contentLanguage cacheControl metadata => do
      let target ← objectTarget uri
      let handle ← Handle.forBucket settings target.bucket
      let metadata ← metadataChanges metadata
      let update : UpdateRequest :=
        { name := target.object
          contentType := .ofOption contentType
          contentEncoding := .ofOption contentEncoding
          contentLanguage := .ofOption contentLanguage
          cacheControl := .ofOption cacheControl
          metadata }
      pure (handle.errand (handle.config.update update) .ofObject)
  | .rm uri => do
      let target ← objectTarget uri
      let handle ← Handle.forBucket settings target.bucket
      pure (handle.errand (handle.config.delete target.object) fun _ => .printed "")
  | .ls uri delimiter maxResults pageToken => do
      let target ← parseTarget uri
      let handle ← Handle.forBucket settings target.bucket
      let query : Query :=
        { stem := target.object
          delimiter := delimiter.getD ""
          cursor := pageToken.getD ""
          maxResults := maxResults.getD 0 }
      pure (handle.errand (handle.config.list query) (.ofPage target.bucket))

def source? : Command → Option String
  | .put source _ _ _ => some source
  | _ => none

def run {σ : Type} (transport : Transport σ) (settings : Settings) (contents : Except String Content)
    (command : Command) (state : σ) : Ended Outcome × σ :=
  match command.errand settings contents with
  | .error failure => (.finished (.failed failure), state)
  | .ok errand =>
      let carrier := match errand.authorization with
        | some authorization => authorization.transport transport
        | none => transport
      errand.exchange.run carrier state

end Command

def Failure.complaint (failure : Failure) : String :=
  "objectgcs: " ++ failure.message ++ "\n"

def failureExitCode : UInt32 := 1

end ObjectStore.CommandLine
