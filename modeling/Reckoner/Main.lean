import Reckoner.CommandLine

/-! The program.

Every argument is tried as the name of a file, so that what the arguments ask for
is settled before anything runs. -/
namespace Reckoner.CommandLine

/-- The bytes of a file, if it can be read. -/
def readFile? (name : String) : IO (Option (List Nat)) :=
  try
    let bytes ← IO.FS.readBinFile name
    pure (some (bytes.toList.map UInt8.toNat))
  catch _ => pure none

/-- The bytes of the standard input. -/
def readInput : IO (List Nat) := do
  let bytes ← (← IO.getStdin).readBinToEnd
  pure (bytes.toList.map UInt8.toNat)

/-- The bytes of each file that can be read, by its name. -/
def readFiles (names : List String) : IO (List (String × List Nat)) :=
  names.filterMapM fun name => do
    let bytes? ← readFile? name
    pure (bytes?.map fun bytes => (name, bytes))

/-- What the arguments come to. -/
def perform (arguments : List String) : IO Outcome := do
  let files ← readFiles arguments
  match request (fun name => (files.lookup name).isSome) arguments with
  | .session a =>
    match a.source.bind fun name => files.lookup name with
    | some bytes => pure (run a (.ofBytes bytes))
    | none => pure (run a (.ofBytes (← readInput)))
  | .noLevel => pure { status := faultStatus, errors := noLevelMessage ++ "\n" }
  | .help => pure { output := usageText }
  | .version => pure { output := versionText }
  | .refused => pure { status := refusedStatus, errors := usageText }

end Reckoner.CommandLine

def main (arguments : List String) : IO UInt32 := do
  let outcome ← Reckoner.CommandLine.perform arguments
  IO.print outcome.output
  IO.eprint outcome.errors
  pure outcome.status.toUInt32
