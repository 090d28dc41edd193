import ObjectStore.CommandLine.Run
import ObjectStore.Transport.Network

/-!
The program: reads arguments, environment and the source of an upload, and prints what a command prints.
-/

namespace ObjectStore.Program

open CommandLine

/-- No connection can be opened from here, so that every request ends as if its server had hung up. -/
def offline : Transport Unit :=
  Network.connect fun _ _ => (.answer (.error (.ofMessage "no connection")), ())

def reason : IO.Error → String
  | .noFileOrDirectory .. => "No such file or directory (os error 2)"
  | .permissionDenied .. => "Permission denied (os error 13)"
  | error => toString error

def readSource : Option String → IO (Except String Content)
  | none => pure (.ok [])
  | some source => do
      try
        let bytes ← if source = "-" then (← IO.getStdin).readBinToEnd else IO.FS.readBinFile source
        pure (.ok (.ofBytes bytes.data.toList))
      catch error => pure (.error (reason error))

def environment : IO (List (String × String)) :=
  Settings.variableNames.filterMapM fun name => do
    let value ← IO.getEnv name
    pure (value.map fun value => (name, value))

def report (outcome : Outcome) : IO UInt32 := do
  (← IO.getStdout).write ⟨outcome.output.toArray⟩
  IO.eprint outcome.notes
  match outcome.failure with
  | none => pure 0
  | some failure => do
      IO.eprint failure.complaint
      pure failureExitCode

end ObjectStore.Program

open ObjectStore CommandLine Program in
def main (words : List String) : IO UInt32 := do
  match Arguments.parse words with
  | .error fault => pure fault.exitCode
  | .ok arguments => do
      let settings := Settings.ofArguments arguments (← environment)
      let contents ← readSource arguments.command.source?
      match (arguments.command.run offline settings contents ()).1 with
      | .finished outcome => Program.report outcome
      | .pending => pure failureExitCode
      | .broken message => do
          IO.eprintln message
          pure failureExitCode
