import RecordSynth.CommandLine
/-!
# The program

Commands with the files and the output of the system.
-/

namespace RecordSynth

/-- The program keeps no journal. -/
instance : MonadJournal IO := ⟨fun _ _ => pure ()⟩

/-- Why the system could not read a file. -/
def ReadFault.ofSystem : IO.Error → ReadFault
  | .inappropriateType _ 20 _ => .notDirectory
  | .inappropriateType .. => .isDirectory
  | .invalidArgument .. => .nameTooLong
  | _ => .missing

/-- The host that is the system. -/
def Host.system : Host IO where
  read path := do
    try
      match String.fromUTF8? (← IO.FS.readBinFile path) with
      | some s => return .ok s
      | none => return .error .notText
    catch e => return .error (.ofSystem e)
  write path content := do
    try
      let above := Path.above path
      if above ≠ "" then IO.FS.createDirAll above
      IO.FS.writeFile path content
      return .ok ()
    catch e => return .error (.storage (toString e))
  print line := IO.println line

/-- The variables of the environment that the program uses. -/
def systemEnvironment : IO Environment := do
  let schema ← IO.getEnv "SVCGEN_SCHEMA"
  let config ← IO.getEnv "SVCGEN_CONFIG"
  return fun name =>
    if name = "SVCGEN_SCHEMA" then schema else if name = "SVCGEN_CONFIG" then config else none

end RecordSynth

open RecordSynth in
/-- Runs the program with its arguments. -/
def main (args : List String) : IO UInt32 := do
  let outcome ← (Invocation.parse (← systemEnvironment) args).execute Host.system
  match outcome with
  | .done => pure ()
  | .failed e => IO.eprintln ("Error: " ++ e.message)
  | .misused => IO.eprintln usage
  return outcome.status
