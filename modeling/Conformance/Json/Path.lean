/-!
# Paths into JSON

A path leads from the root through keys and positions. A key that could not be read is unknown.
-/

namespace Conformance

inductive Step where
  | key (name : String)
  | index (i : Nat)
  | unknown
  deriving DecidableEq

/-- The steps from the innermost outwards. -/
abbrev Path := List Step

namespace Path

def root : Path := []
def key (p : Path) (name : String) : Path := .key name :: p
def index (p : Path) (i : Nat) : Path := .index i :: p
def unknown (p : Path) : Path := .unknown :: p

def stepText : Step → String
  | .key name => name
  | .index i => "[" ++ i.repr ++ "]"
  | .unknown => "?"

/-- A point stands before each key but the first. -/
def text (p : Path) : String :=
  match p.reverse with
  | [] => "."
  | first :: rest => stepText first ++ String.join (rest.map fun
    | .index i => stepText (.index i)
    | s => "." ++ stepText s)

end Path

end Conformance
