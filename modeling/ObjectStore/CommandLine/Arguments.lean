import ObjectStore.Client.Config
import ObjectStore.CommandLine.Usage

/-!
The commands with their arguments, and the settings that arguments and environment agree on.
-/

namespace ObjectStore.CommandLine

inductive Command where
  | stat (uri : String)
  | cat (uri : String) (generation : Option Int64)
  | put (source uri : String) (contentType : Option String) (precondition : Option Int64)
  | set (uri : String) (contentType contentEncoding contentLanguage cacheControl : Option String)
      (metadata : List String)
  | rm (uri : String)
  | ls (uri : String) (delimiter : Option String) (maxResults : Option UInt32) (pageToken : Option String)
deriving DecidableEq, Repr

structure CommandRule where
  name : String
  options : List OptionRule
  operandCount : Nat
  build : Reading → Command

def commandRules : List CommandRule := [
  ⟨"stat", [], 1, fun reading => .stat (reading.operand 0)⟩,
  ⟨"cat", [{ name := "generation", kind := .integer }], 1, fun reading =>
    .cat (reading.operand 0) ((reading.value? "generation").bind integer?)⟩,
  ⟨"put", [{ name := "content-type" }, { name := "if-generation-match", kind := .integer }], 2,
    fun reading => .put (reading.operand 0) (reading.operand 1) (reading.value? "content-type")
      ((reading.value? "if-generation-match").bind integer?)⟩,
  ⟨"set", [{ name := "content-type" }, { name := "content-encoding" }, { name := "content-language" },
      { name := "cache-control" }, { name := "metadata", isRepeatable := true }], 1,
    fun reading => .set (reading.operand 0) (reading.value? "content-type")
      (reading.value? "content-encoding") (reading.value? "content-language")
      (reading.value? "cache-control") (reading.valuesOf "metadata")⟩,
  ⟨"rm", [], 1, fun reading => .rm (reading.operand 0)⟩,
  ⟨"ls", [{ name := "delimiter" }, { name := "max-results", kind := .count }, { name := "page-token" }], 1,
    fun reading => .ls (reading.operand 0) (reading.value? "delimiter")
      ((reading.value? "max-results").bind count?) (reading.value? "page-token")⟩]

def CommandRule.level (rule : CommandRule) : Level :=
  ⟨rule.options, rule.operandCount, [], false⟩

structure Arguments where
  project : Option String
  accessToken : Option String
  storageHost : Option String
  uploadHost : Option String
  apiBase : Option String
  command : Command
deriving DecidableEq, Repr

namespace Arguments

def helpCommand : String := "help"

def commandNames : List String :=
  commandRules.map CommandRule.name ++ [helpCommand]

def level : Level where
  options := [{ name := "project" }, { name := "access-token" }, { name := "storage-host" },
    { name := "upload-host" }, { name := "api-base" }]
  operandCount := 0
  commands := commandNames
  hasVersion := true

def helpOn : List String → UsageFault
  | [] => .helpWanted
  | [name] => if commandNames.contains name then .helpWanted else .unknownCommand
  | _ => .unknownCommand

def ofReading (reading : Reading) (command : Command) : Arguments where
  project := reading.value? "project"
  accessToken := reading.value? "access-token"
  storageHost := reading.value? "storage-host"
  uploadHost := reading.value? "upload-host"
  apiBase := reading.value? "api-base"
  command := command

/-- The arguments of the command are read before the last option in front of it is settled. -/
def parse (words : List String) : Except UsageFault Arguments := do
  let (reading, command) ← level.read false .start words
  match command with
  | none =>
      let settled ← reading.settle
      throw (if settled.values.isEmpty then .nothingGiven else .missingCommand)
  | some (name, rest) =>
      match commandRules.find? fun rule => rule.name == name with
      | none => throw (helpOn rest)
      | some rule =>
          let inner ← rule.level.readLast rest
          let settled ← reading.settle
          pure (ofReading settled (rule.build inner))

end Arguments

structure Settings where
  projectId : String
  accessToken : Option String
  storageHost : Option String
  uploadHost : Option String
  apiBase : Option String
deriving DecidableEq, Repr

namespace Settings

/-- An argument hides the variable, also when it is empty. -/
def pick (argument inherited : Option String) : Option String :=
  (argument <|> inherited).filter (· ≠ "")

def variableNames : List String :=
  ["OBJECTGCS_PROJECT", "OBJECTGCS_ACCESS_TOKEN", "OBJECTGCS_STORAGE_HOST", "OBJECTGCS_UPLOAD_HOST",
    "OBJECTGCS_API_BASE"]

def ofArguments (arguments : Arguments) (environment : List (String × String)) : Settings where
  projectId := (pick arguments.project (environment.lookup "OBJECTGCS_PROJECT")).getD ""
  accessToken := pick arguments.accessToken (environment.lookup "OBJECTGCS_ACCESS_TOKEN")
  storageHost := pick arguments.storageHost (environment.lookup "OBJECTGCS_STORAGE_HOST")
  uploadHost := pick arguments.uploadHost (environment.lookup "OBJECTGCS_UPLOAD_HOST")
  apiBase := pick arguments.apiBase (environment.lookup "OBJECTGCS_API_BASE")

def bucketConfig (settings : Settings) (bucket : String) : BucketConfig :=
  let standard : BucketConfig := { projectId := settings.projectId, name := bucket }
  let config := { standard with
    storageHost := settings.storageHost.getD standard.storageHost
    uploadHost := settings.uploadHost.getD standard.uploadHost }
  match settings.apiBase with
  | some base => config.withApiBase base
  | none => config

end Settings

end ObjectStore.CommandLine
