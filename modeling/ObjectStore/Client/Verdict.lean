import ObjectStore.Error

/-!
What a response or a failed transport means for the caller.
-/

namespace ObjectStore

def HttpResponse.refusalText (response : HttpResponse) : String :=
  match response.collect with
  | .ok bytes => Bytes.toTextLossy bytes
  | .error error => "<unreadable body: " ++ error.message ++ ">"

def ServiceError.ofResponse (response : HttpResponse) : ServiceError :=
  let body := response.refusalText
  let message := match ErrorEnvelope.parse (Bytes.ofText body) with
    | .ok envelope => if envelope.message = "" then body else envelope.message
    | .error _ => body
  ⟨response.status, message, body⟩

def ServiceError.classify (error : ServiceError) : Error :=
  if error.code == Status.notFound then .notFound (.service error)
  else if error.code == Status.preconditionFailed then .precondition (.service error)
  else .service error

def HttpResponse.check (response : HttpResponse) : Except Error HttpResponse :=
  if Status.isSuccess response.status then .ok response
  else .error (ServiceError.ofResponse response).classify

/-- Some transports report a missing object as a failure of their own. -/
def TransportError.classify (error : TransportError) : Error :=
  if error.status = some Status.notFound then .notFound (.transport error) else .transport error

end ObjectStore
