import OpenstackAdmission.CommandLine.Arguments
import OpenstackAdmission.CommandLine.Documents
import OpenstackAdmission.CommandLine.Verdict

/-!
# The command line

Reads the files that the arguments name, validates them, and prints what comes of it. What would be logged, with the
time, on standard error (`ValidationOutcome.logged`) is left out.
-/

namespace OpenstackAdmission

/-- Why a file was not read. -/
def readFault : IO.Error → ReadFault
  | .noFileOrDirectory .. => .notFound
  | e => .system (toString e)

/-- A file as it is found. -/
def readFile (path : String) : IO ManifestFile := do
  try
    let bytes ← IO.FS.readBinFile path
    return ⟨path, .ok bytes.toList⟩
  catch e => return ⟨path, .error (readFault e)⟩

/-- Validates files and prints the verdicts. -/
def validate (a : Arguments) : IO UInt32 := do
  let request : ValidationRequest := {
    manifests := ← a.manifests.mapM readFile
    previous := ← a.previous.mapM readFile
    context := ← a.context.mapM readFile }
  let outcome := request.run ManifestDocument.ofText
  IO.print outcome.standardOutput
  IO.eprint outcome.standardError
  return UInt32.ofNat outcome.exitStatus

end OpenstackAdmission

open OpenstackAdmission in
def main (arguments : List String) : IO UInt32 := do
  match Arguments.parse arguments with
  | .ok a => validate a
  | .error fault =>
    IO.eprintln ("error: " ++ fault.message)
    return 2
