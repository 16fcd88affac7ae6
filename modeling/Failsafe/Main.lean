import Failsafe.Validator

/-!
# The validator program

Reads what a request needs from the file system and the process, carries the request out and prints what comes
of it.
-/

namespace Failsafe.Validator

/-- The variables of this process. -/
def processVariables : IO Variables := do
  let bytes ← try IO.FS.readBinFile "/proc/self/environ" catch _ => pure .empty
  let texts := (String.fromUTF8? bytes).getD ""
  return (texts.splitOn "\x00").filterMap fun entry =>
    match entry.toList.span (· ≠ '=') with
    | (_, []) => none
    | (name, _ :: value) => some (String.ofList name, String.ofList value)

/-- The texts of those files that exist. -/
def readFiles (paths : List String) : IO (List (String × String)) := do
  let mut found := #[]
  for path in paths do
    try found := found.push (path, ← IO.FS.readFile path) catch _ => pure ()
  return found.toList

def readListing (directory : String) : IO Listing := do
  let path := (← IO.currentDir) / directory
  if !(← path.pathExists) then return .missing
  try return .names ((← path.readDir).toList.map (·.fileName)) catch _ => return .unreadable

/-- Carries a request out. -/
def perform (r : Request) : IO UInt32 := do
  let vars ← processVariables
  let sources := Configuration.sources (r.directory.getD vars.directory) r.environment
  let texts ← readFiles (sources ++ sources.map Configuration.fallback)
  let listing ← readListing (r.directory.getD "config")
  let outcome := r.perform ⟨vars, fun path => texts.lookup path, fun _ => listing⟩
  outcome.printed.forM IO.println
  return outcome.ending.code

end Failsafe.Validator

open Failsafe.Validator in
def main (args : List String) : IO UInt32 := do
  match Invocation.ofArguments args with
  | .run request => perform request
  | .version =>
    IO.println versionLine
    return 0
  | .help =>
    helpLines.forM IO.println
    return 0
  | .refused =>
    IO.eprintln "error: the arguments are not understood; for more information, try '--help'"
    return refusedCode
