import Conformance.CommandLine

/-!
# The program

Reads the files that the arguments name into a tree, runs the command on it, and prints and
writes what comes of it.
-/

namespace Conformance

def usageText : String := String.join
  ["check JSON documents against the shapes of a declaration document\n\n",
    "Usage: conformance check     -d FILE -m MODEL [--ndjson] [--json-pointer P] [--jq-expr F] -i PATH...\n",
    "       conformance normalize (the same) [--pretty] [-o FILE]\n"]

def versionText : String := "conformance 0.1.0\n"

def probe (path : String) : IO (Option FileNode) := do
  try
    return some (.file (← IO.FS.readFile path))
  catch
    | .inappropriateType .. => return some .directory
    | _ => return none

def survey (t : FileTree) (path : String) : IO FileTree := do
  let names := pathNames path
  let mut t := t
  for i in [0:names.length] do
    let part := names.take (i + 1)
    if (t.node? part).isNone then
      if let some n ← probe ("/".intercalate part) then t := t.put part n
  return t

def surveyBelow : Nat → FileTree → String → IO FileTree
  | 0, t, _ => return t
  | depth + 1, t, path => do
    let mut t := t
    for entry in ← ((← IO.currentDir) / path).readDir do
      let here := if path = "." then entry.fileName else path ++ "/" ++ entry.fileName
      t ← survey t here
      if t.isDirectory (pathNames here) then t ← surveyBelow depth t here
    return t

def patternDepth (pattern : String) : Nat :=
  if (pattern.splitOn "**").length > 1 then 64 else (pathNames pattern).length

def surveyInput (t : FileTree) (pattern : String) : IO FileTree := do
  if isGlob pattern then
    let fixed := (pathNames pattern).takeWhile fun n => !isGlob n
    let base := if fixed.isEmpty then "." else "/".intercalate fixed
    let t ← survey t base
    if t.isDirectory (pathNames base) then surveyBelow (patternDepth pattern) t base else return t
  else survey t pattern

def Command.settings : Command → Settings
  | .check s | .normalize s _ _ => s

def Command.out? : Command → Option String
  | .check _ => none
  | .normalize _ _ out => out

def Command.survey (c : Command) : IO FileTree := do
  let mut t ← Conformance.survey ⟨[]⟩ c.settings.declarations
  for pattern in c.settings.inputs.patterns do
    t ← surveyInput t pattern
  for path in c.out? do
    t ← Conformance.survey t path
  return t

def store (c : Command) (after : FileTree) : IO Unit := do
  if let some path := c.out? then
    if let .ok text := after.read path then
      let parent := parentPath path
      if parent ≠ "" then IO.FS.createDirAll parent
      IO.FS.writeFile path text

end Conformance

open Conformance in
def main (args : List String) : IO UInt32 := do
  match parseArguments args with
  | .error e =>
    if e = .version then IO.print versionText
    else if e = .help then IO.print usageText
    else IO.eprint usageText
    return e.exitCode.toUInt32
  | .ok command =>
    let color ← (← IO.getStdout).isTty
    let outcome := command.run color (← command.survey)
    match outcome.error with
    | some chain => IO.eprintln ("error: " ++ ": ".intercalate chain)
    | none =>
      store command outcome.files
      IO.print outcome.output
    return outcome.exitCode.toUInt32
