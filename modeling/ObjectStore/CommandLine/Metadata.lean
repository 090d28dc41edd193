import ObjectStore.CommandLine.Failure
import ObjectStore.Dictionary

/-!
Changes of metadata as they are written in arguments: `key=value` sets a key and `key=` removes it.
-/

namespace ObjectStore.CommandLine

def metadataEntry (argument : String) : Except Failure (String × Option String) :=
  let characters := argument.toList
  match characters.dropWhile (· != '=') with
  | [] => .error (.metadataWithoutValue argument)
  | _ :: value =>
      let key := characters.takeWhile (· != '=')
      if key.isEmpty then .error (.metadataWithoutKey argument)
      else .ok (String.ofList key, if value.isEmpty then none else some (String.ofList value))

/-- The first bad argument is reported. Without arguments there is no change at all. -/
def metadataChanges (arguments : List String) : Except Failure (Option (Dictionary (Option String))) :=
  if arguments.isEmpty then .ok none
  else (arguments.mapM metadataEntry).map fun entries => some (Dictionary.ofList entries)

end ObjectStore.CommandLine
