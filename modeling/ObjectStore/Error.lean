import ObjectStore.Http.Message
import ObjectStore.Object.Decode

/-!
Why an operation on a bucket fails, and in which words.
-/

namespace ObjectStore

inductive InvalidRequest where
  | emptyName
  | dotName (name : String)
  | longName (length : Nat)
  | lineBreakInName
  | contentType (value : String)
  | userAgent
  | url (text : String) (fault : UrlFault)
  | uriProvider (uri : String)
  | uriBucket (uri : String)
deriving DecidableEq, Repr

def maxNameLength : Nat := 1024

def InvalidRequest.message : InvalidRequest → String
  | .emptyName => "invalid object name: empty"
  | .dotName name => "invalid object name: " ++ Quoted.ofText name ++ " is not allowed"
  | .longName length =>
      "invalid object name: " ++ toString length ++ " bytes exceeds the limit of " ++ toString maxNameLength
  | .lineBreakInName => "invalid object name: contains a line feed or carriage return"
  | .contentType value => "invalid content type: " ++ Quoted.ofText value
  | .userAgent => "user agent is not a valid header value"
  | .url text fault => "bad url " ++ text ++ ": " ++ fault.message
  | .uriProvider uri => "failed to parse provider of: " ++ uri
  | .uriBucket uri => "failed to parse bucket of: " ++ uri

inductive ProtocolViolation where
  | missingLocation
  | invalidLocation (location : String)
  | unreadableContents (message : String)
  | noError
deriving DecidableEq, Repr

def ProtocolViolation.message : ProtocolViolation → String
  | .missingLocation => "expected a Location header for the upload session"
  | .invalidLocation location => "invalid upload location: " ++ location
  | .unreadableContents message => "reading contents: " ++ message
  | .noError => "no error"

/-- A response whose status is no success. The message is that of its error envelope, or else the
whole body. -/
structure ServiceError where
  code : Nat
  message : String
  body : String
deriving DecidableEq, Repr

def ServiceError.text (error : ServiceError) : String :=
  "HTTP " ++ Status.text error.code ++ ": " ++ error.message

inductive Error where
  | notFound (cause : Error)
  | precondition (cause : Error)
  | invalidRequest (reason : InvalidRequest)
  | decode (error : DecodeError)
  | protocol (violation : ProtocolViolation)
  | service (error : ServiceError)
  | transport (error : TransportError)
  | json (input : Bytes) (fault : Json.Fault)
deriving DecidableEq, Repr

namespace Error

def message : Error → String
  | .notFound cause => "not found: " ++ cause.message
  | .precondition cause => "precondition failed: " ++ cause.message
  | .invalidRequest reason => "invalid request: " ++ reason.message
  | .decode error => error.message
  | .protocol violation => "protocol error: " ++ violation.message
  | .service error => error.text
  | .transport error => error.message
  | .json input fault => "json: " ++ fault.message input

def causes : Error → List String
  | .notFound cause => cause.message :: cause.causes
  | .precondition cause => cause.message :: cause.causes
  | .decode error => error.causes
  | .transport error => error.causes
  | .json input fault => [fault.message input]
  | _ => []

def fullMessage (error : Error) : String :=
  String.intercalate ": " (error.message :: error.causes)

def isNotFound : Error → Bool
  | .notFound _ => true
  | _ => false

def isPrecondition : Error → Bool
  | .precondition _ => true
  | _ => false

def cause : Error → Error
  | .notFound cause => cause
  | .precondition cause => cause
  | error => error

end Error

end ObjectStore
