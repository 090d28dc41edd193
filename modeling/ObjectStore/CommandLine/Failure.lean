import ObjectStore.Error

/-!
Why a command fails, and in which words.
-/

namespace ObjectStore.CommandLine

inductive Failure where
  | missingName (uri : String)
  | accessToken (error : TransportError)
  | metadataWithoutValue (argument : String)
  | metadataWithoutKey (argument : String)
  | source (path reason : String)
  | copying (failure : ReadFailure)
  | operation (error : Error)
  | printing (fault : Timestamp.WriteFault)
deriving DecidableEq, Repr

def Failure.message : Failure → String
  | .missingName uri => "no object name in: " ++ uri
  | .accessToken error => String.intercalate ": " ("invalid access token" :: error.message :: error.causes)
  | .metadataWithoutValue argument => "metadata must be key=value, got: " ++ argument
  | .metadataWithoutKey argument => "metadata key is empty in: " ++ argument
  | .source path reason => "opening " ++ path ++ ": " ++ reason
  | .copying failure =>
      String.intercalate ": " ("copying contents to stdout" :: failure.message :: failure.causes)
  | .operation error => error.fullMessage
  | .printing fault => fault.message

end ObjectStore.CommandLine
