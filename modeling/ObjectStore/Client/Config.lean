/-!
The settings that a handle on a bucket is bound to.
-/

namespace ObjectStore

/-- Resources are addressed relative to `apiBase`, which ends in a slash. -/
structure BucketConfig where
  projectId : String
  name : String
  storageHost : String := "storage.googleapis.com"
  uploadHost : String := "www.googleapis.com"
  apiBase : String := "https://www.googleapis.com/storage/v1/"
  userAgent : String := "objectgcs/0.3.0"
deriving DecidableEq, Repr

namespace BucketConfig

def withSlash (base : String) : String :=
  if base.toList.getLast? = some '/' then base else base ++ "/"

def withApiBase (config : BucketConfig) (base : String) : BucketConfig :=
  { config with apiBase := withSlash base }

end BucketConfig

end ObjectStore
