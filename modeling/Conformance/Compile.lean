import Conformance.Registry

/-!
# Compiling declarations

What authors write are type tokens, class markers, arrays, keyed maps, unions, and descriptors
compiled earlier. A declaration becomes a descriptor against a registry: names of shapes become
their ids, keys written as patterns are compiled, and options are checked against the kind of their
node.
-/

namespace Conformance

inductive Source where
  /-- A primitive tag or the name of a shape. -/
  | token (name : String)
  | cls (c : Class)
  | openArray
  | arrayOf (item : Source)
  | keyed (entries : List (String × Source))
  | mix (alternatives : List Source)
  | described (d : Descriptor)

instance : Inhabited Source := ⟨.openArray⟩

/-- Keyed maps merged from left to right: a later entry replaces the value of an earlier one
and keeps its place. -/
def Source.merged (partials : List (List (String × Source))) : Source :=
  .keyed (Entries.ofList partials.flatten)

variable [RegexEngine]

/-! ## Keys and validators -/

/-- The inside of a key written as a pattern: anchored at both ends, between slashes, without a
line feed. -/
def patternKey? (key : String) : Option String :=
  match key.toList with
  | '/' :: '^' :: rest =>
    match rest.reverse with
    | '/' :: '$' :: inner =>
      if inner.contains '\n' then none
      else some (String.ofList ('^' :: inner.reverse ++ ['$']))
    | _ => none
  | _ => none

def compileKey (key : String) : Except CompileError KeyMatcher :=
  match patternKey? key with
  | none => .ok (.exact key)
  | some inner =>
    match Regex.compile? inner with
    | some r => .ok (.pattern r)
    | none => .error (.invalidPatternKey key)

/-- Pattern validators belong to strings and numbers. -/
def checkValidator (k : Kind) (o : Options) : Except CompileError Unit :=
  match o.validator with
  | some (.pattern _) =>
    if k = .string ∨ k = .number then .ok () else .error (.patternValidatorKind k)
  | _ => .ok ()

def finish (o : Options) (node : Traits → Descriptor) : Except CompileError Descriptor := do
  let d := node o.traits
  checkValidator d.kind o
  .ok d

namespace Registry

/-- Shapes come first, so a shape could not be shadowed by a tag; no shape has a tag's name. -/
def resolve (r : Registry) (token : String) : Except CompileError (Traits → Descriptor) :=
  match r.lookup token with
  | some id => .ok (.model id)
  | none =>
    if isReservedName token then .error (.reservedWord token)
    else match Kind.ofToken? token with
      | none => .error (.unknownType token)
      | some .any => .ok (.primitive .any)
      | some .boolean => .ok (.primitive .boolean)
      | some .number => .ok (.primitive .number)
      | some .bigInt => .ok (.primitive .bigInt)
      | some .string => .ok (.primitive .string)
      | some .date => .ok (.primitive .date)
      | some .symbol => .ok (.primitive .symbol)
      | some .regexp => .ok (.primitive .regexp)
      | some .function => .ok (.primitive .function)
      | some .array => .ok .openArray
      | some .object => .ok .openObject
      | some .cls => .error .missingClass
      | some .model => .error .missingModel
      | some .mix => .error .emptyUnion

/-! ## Descriptors compiled earlier -/

mutual

def isLocal (r : Registry) : Descriptor → Bool
  | .model id _ => r.owns id
  | .arrayOf items _ => r.isLocal items
  | .keyed schema _ => r.isLocalSchema schema
  | .mix choices _ _ => r.areLocal choices
  | .primitive .. | .openArray _ | .openObject _ | .cls .. => true

def isLocalSchema (r : Registry) : List (KeyMatcher × Descriptor) → Bool
  | [] => true
  | (_, d) :: rest => r.isLocal d && r.isLocalSchema rest

def areLocal (r : Registry) : List Descriptor → Bool
  | [] => true
  | d :: rest => r.isLocal d && r.areLocal rest

end

/-! ## Compilation -/

mutual

/-- A descriptor compiled earlier passes as it is, without the options. An empty map describes
any object. -/
def compile (r : Registry) : Source → Options → Except CompileError Descriptor
  | .described d, _ => if r.isLocal d then .ok d else .error .missingModel
  | .token name, o => do finish o (← r.resolve name)
  | .cls c, o => finish o (match r.lookupClass c with
    | some id => .model id
    | none => .cls c)
  | .openArray, o => finish o .openArray
  | .arrayOf item, o => do
    let items ← r.compile item {}
    finish o (.arrayOf items)
  | .keyed [], o => finish o .openObject
  | .keyed (e :: es), o => do
    let schema ← r.compileEntries (e :: es)
    finish o (.keyed schema)
  | .mix [], _ => .error .emptyUnion
  | .mix (s :: ss), o => do
    let choices ← r.compileAll (s :: ss)
    finish o (.mix choices (o.strategy.getD .any))

def compileEntries (r : Registry) :
    List (String × Source) → Except CompileError (List (KeyMatcher × Descriptor))
  | [] => .ok []
  | (key, s) :: rest => do
    let matcher ← compileKey key
    let d ← r.compile s {}
    let schema ← r.compileEntries rest
    .ok ((matcher, d) :: schema)

def compileAll (r : Registry) : List Source → Except CompileError (List Descriptor)
  | [] => .ok []
  | s :: rest => do
    let d ← r.compile s {}
    let ds ← r.compileAll rest
    .ok (d :: ds)

end

/-- A schema that describes a shape is an object or an array and does not accept null. -/
def compileTopLevel (r : Registry) (s : Source) : Except CompileError Descriptor := do
  let d ← r.compile s {}
  if d.kind ≠ .object ∧ d.kind ≠ .array then .error (.topLevelKind d.kind)
  else if d.traits.allowNull then .error .topLevelNull
  else .ok d

/-- Registers a shape. Its name is declared first, so the schema may refer to its own shape. -/
def model (r : Registry) (name : String) (s : Source) : Except CompileError (Registry × ShapeId) := do
  let (r, id) ← r.declare name
  let d ← r.compileTopLevel s
  let r ← r.define id d
  .ok (r, id)

end Registry

end Conformance
