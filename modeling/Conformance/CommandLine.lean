import Conformance.CommandLine.Arguments
import Conformance.CommandLine.Glob
import Conformance.Declaration
import Conformance.Filter.Parser
import Conformance.Pattern.Parser
import Conformance.Shape

/-!
# The command line

Both commands load declarations, find a model and read documents. Then `check` prints a verdict
for each document, and `normalize` prints or writes the text of an instance of each, or nothing
at all if one of them does not fit.
-/

namespace Conformance

abbrev Chain := List String

def globFault : String := "<glob error>"
def filterFault : String := "<jq error>"

/-- What a jq expression makes of an input: its outputs, or the fault that it ends in. -/
abbrev Filtering := String → Json → Except FilterError (List Json)

structure Candidate where
  origin : String
  content : Json

def within {α : Type} (context : String) : Except Chain α → Except Chain α
  | .ok a => .ok a
  | .error chain => .error (context :: chain)

/-! ## Declarations -/

def DeclarationError.chain (e : DeclarationError) : Chain :=
  match e with
  | .document .. => [e.message, e.reason]
  | .compile _ c => e.message :: c.message :: c.cause?.toList

def readFile (t : FileTree) (path : String) : Except Chain String :=
  match t.read path with
  | .ok text => .ok text
  | .error e => .error [e.message]

def Settings.shape [RegexEngine] (s : Settings) (t : FileTree) : Except Chain Shape := do
  let text ← within ("failed to read declarations " ++ s.declarations) (readFile t s.declarations)
  match (Registry.empty 0).load text with
  | .error e => .error (("failed to load declarations " ++ s.declarations) :: e.chain)
  | .ok (r, _) =>
    match r.named? s.model with
    | some shape => .ok shape
    | none => .error [(ShapeError.unknownShape s.model).message]

/-! ## Documents -/

def resolvePattern (t : FileTree) (pattern : String) : Except Chain (List String) :=
  if isGlob pattern then
    match Glob.find? t pattern with
    | none => .error [globFault]
    | some [] => .error ["glob pattern matched no files: " ++ pattern]
    | some paths => .ok paths
  else .ok [pattern]

def parseJson (text : String) : Except Chain Json :=
  match Json.parse text with
  | .ok j => .ok j
  | .error _ => .error [jsonFault]

/-- A carriage return belongs to the line feed after it. -/
def withoutReturn (line : List Char) : List Char :=
  if line.getLast? = some '\r' then line.dropLast else line

/-- The lines of a text without their ends; a text that ends a line has no empty one after it. -/
def linesOf (text : String) : List String :=
  let lines := text.toList.splitOn '\n'
  (lines.dropLast.map withoutReturn ++ lines.getLast?.toList.filter (· ≠ [])).map String.ofList

def isBlankLine (line : String) : Bool := line.toList.all blankRanges.contains

namespace Inputs

def process (s : Inputs) (jq : Filtering) (d : Candidate) : Except Chain (List Candidate) := do
  let content ← match s.pointer with
    | none => .ok d.content
    | some pointer =>
      match d.content.pointer? pointer with
      | some j => .ok j
      | none => .error ["JSON pointer " ++ pointer ++ " selects nothing in " ++ d.origin]
  match s.filter with
  | none => .ok [⟨d.origin, content⟩]
  | some filter =>
    match jq filter content with
    | .ok outs => .ok (outs.zipIdx.map fun (j, i) => ⟨d.origin ++ "#" ++ i.repr, j⟩)
    | .error _ => .error ["failed to apply jq expression to " ++ d.origin, filterFault]

/-- The documents of a file: its lines that are not blank, or its whole text. -/
def ofFile (s : Inputs) (jq : Filtering) (t : FileTree) (path : String) : Except Chain (List Candidate) := do
  let text ← within ("failed to read source file " ++ path) (readFile t path)
  if s.ndjson then
    let numbered := (linesOf text).zipIdx.filter fun l => !isBlankLine l.1
    let parts ← numbered.mapM fun (line, i) => do
      let origin := path ++ ":" ++ (i + 1).repr
      let j ← within ("failed to parse NDJSON line (" ++ origin ++ ")") (parseJson line)
      s.process jq ⟨origin, j⟩
    .ok parts.flatten
  else
    let j ← within ("failed to parse JSON source file (" ++ path ++ ")") (parseJson text)
    s.process jq ⟨path, j⟩

def documents (s : Inputs) (jq : Filtering) (t : FileTree) : Except Chain (List Candidate) := do
  let paths ← within "failed to resolve input file paths" (s.patterns.mapM (resolvePattern t))
  let parts ← paths.flatten.mapM (s.ofFile jq t)
  .ok parts.flatten

end Inputs

/-! ## Runs -/

structure Outcome where
  exitCode : Nat
  output : String
  files : FileTree
  error : Option Chain

section
variable [RegexEngine]

def Settings.prepare (s : Settings) (jq : Filtering) (t : FileTree) : Except Chain (Shape × List Candidate) := do
  let shape ← s.shape t
  .ok (shape, ← s.inputs.documents jq t)

def verdictWord (color passed : Bool) : String :=
  let word := if passed then "pass" else "fail"
  if color then "\x1b[1;" ++ (if passed then "32" else "31") ++ "m" ++ word ++ "\x1b[0m" else word

def verdictsOn (shape : Shape) (ds : List Candidate) : List (Candidate × Bool) :=
  ds.map fun d => (d, shape.check (.ofJson d.content))

def verdictLines (color : Bool) (vs : List (Candidate × Bool)) : String :=
  String.join (vs.map fun (d, passed) => verdictWord color passed ++ " " ++ d.origin ++ "\n")

def normalized (shape : Shape) (pretty : Bool) (d : Candidate) : Except Chain String :=
  match shape.create (.ofJson d.content) with
  | .error e => .error [d.origin ++ " does not match model " ++ shape.name, e.message]
  | .ok i =>
    match shape.toJsonText i pretty with
    | .error e => .error [e.message]
    | .ok text => .ok text

/-- The directories that were made stay if the file cannot be written. -/
def writeOutput (t : FileTree) (path text : String) : Except Chain Unit × FileTree :=
  let parent := parentPath path
  match t.makeDirectories parent with
  | (.error e, t) => (.error ["failed to create " ++ parent, e.message], t)
  | (.ok (), t) =>
    match t.write path text with
    | .error e => (.error ["failed to write " ++ path, e.message], t)
    | .ok t => (.ok (), t)

def failed (t : FileTree) (chain : Chain) : Outcome := ⟨1, "", t, some chain⟩

/-- Prints the text, or writes it to the file that is to have it. -/
def deliver (t : FileTree) (text : String) : Option String → Outcome
  | none => ⟨0, text ++ "\n", t, none⟩
  | some path =>
    match writeOutput t path text with
    | (.error chain, t) => failed t chain
    | (.ok (), t) => ⟨0, "", t, none⟩

def runCheck (s : Settings) (jq : Filtering) (color : Bool) (t : FileTree) : Outcome :=
  match s.prepare jq t with
  | .error chain => failed t chain
  | .ok (shape, ds) =>
    let vs := verdictsOn shape ds
    ⟨if vs.all (·.2) then 0 else 1, verdictLines color vs, t, none⟩

def runNormalize (s : Settings) (jq : Filtering) (pretty : Bool) (out : Option String) (t : FileTree) : Outcome :=
  match s.prepare jq t with
  | .error chain => failed t chain
  | .ok (shape, ds) =>
    match ds.mapM (normalized shape pretty) with
    | .error chain => failed t chain
    | .ok texts => deliver t ("\n".intercalate texts) out

def Command.runWith (jq : Filtering) (color : Bool) (t : FileTree) : Command → Outcome
  | .check s => runCheck s jq color t
  | .normalize s pretty out => runNormalize s jq pretty out t

end

/-- The run with the filters and the regular expressions of this library. -/
def Command.run (color : Bool) (t : FileTree) (c : Command) : Outcome := c.runWith Filter.apply color t

end Conformance
