/-!
# Arguments

Two commands, `check` and `normalize`, with options. An option with a value takes it from the
next argument or from its own; `--input` takes all arguments up to the next option. Options may
not be repeated, `--input` apart.
-/

namespace Conformance

inductive UsageError where
  | helpOnMissing
  | help
  | version
  | invalidSubcommand
  | missingArgument
  | invalidValue
  | unknownArgument
  | argumentConflict
  | tooManyValues
  deriving DecidableEq

/-- Help and version that were asked for are no failure. -/
def UsageError.exitCode : UsageError → Nat
  | .help | .version => 0
  | _ => 2

structure Inputs where
  ndjson : Bool
  pointer : Option String
  filter : Option String
  patterns : List String

structure Settings where
  declarations : String
  model : String
  inputs : Inputs

inductive Command where
  | check (s : Settings)
  | normalize (s : Settings) (pretty : Bool) (out : Option String)

/-! ## Options -/

inductive Flag where
  | declarations
  | model
  | ndjson
  | pointer
  | filter
  | input
  | pretty
  | out
  | help
  deriving DecidableEq

def Flag.takesValue : Flag → Bool
  | .ndjson | .pretty | .help => false
  | _ => true

def longFlag? (normalizing : Bool) (name : String) : Option Flag :=
  match name with
  | "declarations" => some .declarations
  | "model" => some .model
  | "ndjson" => some .ndjson
  | "json-pointer" => some .pointer
  | "jq-expr" => some .filter
  | "input" => some .input
  | "help" => some .help
  | "pretty" => if normalizing then some .pretty else none
  | "out" => if normalizing then some .out else none
  | _ => none

def shortFlag? (normalizing : Bool) (c : Char) : Option Flag :=
  match c with
  | 'd' => some .declarations
  | 'm' => some .model
  | 'i' => some .input
  | 'h' => some .help
  | 'o' => if normalizing then some .out else none
  | _ => none

structure Given where
  declarations : Option String := none
  model : Option String := none
  ndjson : Bool := false
  pointer : Option String := none
  filter : Option String := none
  inputs : List String := []
  pretty : Bool := false
  out : Option String := none

def once (old : Option String) (values : List String) : Except UsageError (Option String) :=
  if old.isSome then .error .argumentConflict else .ok values.head?

def oncePath (old : Option String) (values : List String) : Except UsageError (Option String) := do
  let new ← once old values
  if new = some "" then .error .invalidValue else .ok new

def Given.give (g : Given) (f : Flag) (values : List String) : Except UsageError Given :=
  if f.takesValue && values.isEmpty then .error .invalidValue
  else match f with
    | .declarations => do .ok { g with declarations := ← oncePath g.declarations values }
    | .model => do .ok { g with model := ← once g.model values }
    | .pointer => do .ok { g with pointer := ← once g.pointer values }
    | .filter => do .ok { g with filter := ← once g.filter values }
    | .out => do .ok { g with out := ← oncePath g.out values }
    | .input => .ok { g with inputs := g.inputs ++ values }
    | .ndjson => if g.ndjson then .error .argumentConflict else .ok { g with ndjson := true }
    | .pretty => if g.pretty then .error .argumentConflict else .ok { g with pretty := true }
    | .help => .error .help

abbrev Pending := Option (Flag × List String)

def Given.settle (g : Given) : Pending → Except UsageError Given
  | none => .ok g
  | some (f, values) => g.give f values

def Given.option (g : Given) (pending : Pending) (f : Flag) (attached : Option String) :
    Except UsageError (Given × Pending) :=
  match attached with
  | some v =>
    if f.takesValue then do
      let g ← g.settle pending
      .ok (← g.give f [v], none)
    else .error .tooManyValues
  | none => do
    let g ← g.settle pending
    if f.takesValue then .ok (g, some (f, [])) else .ok (← g.give f [], none)

def splitLong (cs : List Char) : String × Option String :=
  let name := cs.takeWhile (· != '=')
  match cs.drop name.length with
  | _ :: value => (String.ofList name, some (String.ofList value))
  | [] => (String.ofList name, none)

def attachedShort : List Char → Option String
  | [] => none
  | '=' :: cs => some (String.ofList cs)
  | cs => some (String.ofList cs)

def readOptions? (normalizing : Bool) (g : Given) (pending : Pending) :
    List String → Except UsageError Given
  | [] => g.settle pending
  | arg :: args =>
    match arg.toList with
    | ['-', '-'] => if args.isEmpty then g.settle pending else .error .unknownArgument
    | '-' :: '-' :: cs =>
      let (name, attached) := splitLong cs
      match longFlag? normalizing name with
      | none => .error .unknownArgument
      | some f => do
        let (g, pending) ← g.option pending f attached
        readOptions? normalizing g pending args
    | '-' :: c :: cs =>
      match shortFlag? normalizing c with
      | none => .error .unknownArgument
      | some f => do
        let (g, pending) ← g.option pending f (if f.takesValue then attachedShort cs else none)
        readOptions? normalizing g pending args
    | _ =>
      match pending with
      | some (f, values) =>
        if f = .input || values.isEmpty then
          readOptions? normalizing g (some (f, values ++ [arg])) args
        else .error .unknownArgument
      | none => .error .unknownArgument

def Given.settings (g : Given) : Except UsageError Settings :=
  match g.declarations, g.model with
  | some declarations, some model =>
    if g.inputs.isEmpty then .error .missingArgument
    else .ok ⟨declarations, model, ⟨g.ndjson, g.pointer, g.filter, g.inputs⟩⟩
  | _, _ => .error .missingArgument

/-! ## Commands -/

def helpOn : List String → UsageError
  | [] | ["check"] | ["normalize"] | ["help"] => .help
  | _ => .invalidSubcommand

def parseArguments (args : List String) : Except UsageError Command :=
  match args with
  | [] | ["--"] => .error .helpOnMissing
  | "check" :: args => do
    let g ← readOptions? false {} none args
    .ok (.check (← g.settings))
  | "normalize" :: args => do
    let g ← readOptions? true {} none args
    .ok (.normalize (← g.settings) g.pretty g.out)
  | "help" :: names => .error (helpOn names)
  | "--" :: name :: _ =>
    .error (if name = "check" || name = "normalize" || name = "help" then .unknownArgument
      else .invalidSubcommand)
  | arg :: _ =>
    match arg.toList with
    | '-' :: '-' :: cs =>
      match splitLong cs with
      | ("help", none) => .error .help
      | ("version", none) => .error .version
      | ("help", some _) | ("version", some _) => .error .tooManyValues
      | _ => .error .unknownArgument
    | '-' :: 'h' :: _ => .error .help
    | '-' :: 'V' :: _ => .error .version
    | '-' :: _ :: _ => .error .unknownArgument
    | _ => .error .invalidSubcommand

end Conformance
