import Conformance.CommandLine.Files

/-!
# Path patterns

In a path pattern a question mark stands for one character, a star for any number of them,
brackets for one of those inside, and two stars alone between slashes for any number of
directories. A star does not reach beyond its name.
-/

namespace Conformance

inductive GlobToken where
  | char (c : Char)
  | anyChar
  | anySequence
  | anyDirectories
  /-- One character in one of the ranges, or in none of them. -/
  | oneOf (negated : Bool) (ranges : List (Char × Char))
  deriving DecidableEq

abbrev Glob := List GlobToken

namespace Glob

/-! ## Reading -/

def specifiers : List Char → List (Char × Char)
  | a :: '-' :: b :: cs => (a, b) :: specifiers cs
  | c :: cs => (c, c) :: specifiers cs
  | [] => []

def bracket? : List Char → Option (List Char × List Char)
  | first :: cs =>
    let inner := cs.takeWhile (· != ']')
    if inner.length = cs.length then none
    else some (first :: inner, cs.drop (inner.length + 1))
  | [] => none

/-- Two stars must be a whole name; three never stand together. -/
def tokens? : Nat → Bool → List Char → Option Glob
  | 0, _, _ => none
  | fuel + 1, atStart, cs =>
    let next := fun t cs => (tokens? fuel false cs).map (t :: ·)
    match cs with
    | [] => some []
    | '?' :: cs => next .anyChar cs
    | '*' :: '*' :: '*' :: _ => none
    | '*' :: '*' :: cs =>
      if !atStart then none
      else match cs with
        | [] => some [.anyDirectories]
        | '/' :: cs => (tokens? fuel true cs).map (.anyDirectories :: ·)
        | _ => none
    | '*' :: cs => next .anySequence cs
    | '[' :: '!' :: cs => do
      let (inner, cs) ← bracket? cs
      next (.oneOf true (specifiers inner)) cs
    | '[' :: cs => do
      let (inner, cs) ← bracket? cs
      next (.oneOf false (specifiers inner)) cs
    | '/' :: cs => (tokens? fuel true cs).map (.char '/' :: ·)
    | c :: cs => next (.char c) cs

def parse? (s : String) : Option Glob := tokens? (s.length + 1) true s.toList

/-! ## Matching names -/

def suffixes {α : Type} : List α → List (List α)
  | [] => [[]]
  | a :: as => (a :: as) :: suffixes as

def matchesName : Glob → List Char → Bool
  | [], cs => cs.isEmpty
  | .anySequence :: ts, cs => (suffixes cs).any fun rest => matchesName ts rest
  | .anyDirectories :: ts, cs => (suffixes cs).any fun rest => matchesName ts rest
  | .char c :: ts, d :: cs => c == d && matchesName ts cs
  | .anyChar :: ts, _ :: cs => matchesName ts cs
  | .oneOf negated ranges :: ts, c :: cs =>
    (ranges.any fun r => r.1 ≤ c && c ≤ r.2) != negated && matchesName ts cs
  | _ :: _, [] => false

def literal? (g : Glob) : Option String :=
  (g.mapM fun (t : GlobToken) => match t with
    | .char c => some c
    | _ => none).map String.ofList

def isRecursive (g : Glob) : Bool := g = [.anyDirectories]

/-! ## Finding paths -/

structure Found where
  path : String
  place : Place

def isCurrent (path : String) : Bool := path ≠ "" && (pathNames path).isEmpty

def joined (path name : String) : String :=
  if endsInSlash path then path ++ name else path ++ "/" ++ name

def Found.move (f : Found) (path name : String) : Found :=
  { path
    place :=
      if name = ".." then FileTree.above f.place
      else if name = "" || name = "." then f.place
      else f.place ++ [name] }

/-- Names directly below the working directory stand alone. -/
def Found.child (f : Found) (name : String) : Found :=
  f.move (if isCurrent f.path then name else joined f.path name) name

/-- The paths below `here` that fit the patterns of their names, in order. Directories that
stand for two stars come before what is in them. -/
def expand (t : FileTree) : Nat → List Glob → Found → List Found
  | 0, _, _ => []
  | _, [], here => [here]
  | fuel + 1, g :: gs, here =>
    if g.isRecursive then
      let rest := gs.dropWhile isRecursive
      (t.children here.place).flatMap fun name =>
        let found := here.child name
        let below := if t.isDirectory found.place then expand t fuel (g :: gs) found else []
        match rest with
        | [] => if t.isDirectory found.place then found :: below else []
        | h :: hs =>
          (if h.matchesName name.toList then expand t fuel hs found else []) ++ below
    else
      match g.literal? with
      | some name =>
        let found := here.child name
        let special := name = "" || name = "." || name = ".."
        let there := if special then t.isDirectory here.place else (t.node? found.place).isSome
        if there && found.path ≠ "" then expand t fuel gs found else []
      | none =>
        if t.isDirectory here.place then
          let fits := fun (name : String) => g.matchesName name.toList
          let dots := if g.head? = some (.char '.') then ["..", "."].filter fits else []
          let found := dots.map (fun name => here.move (joined here.path name) name) ++
            ((t.children here.place).filter fits).map here.child
          found.flatMap (expand t fuel gs)
        else []

def ofPath? (pattern : String) : Option (List Glob) := do
  let _ ← parse? pattern
  let names := pathParts pattern
  let names := if isAbsolute pattern then names.drop 1 else names
  (if names.getLast? = some "" then names.dropLast else names).mapM parse?

/-- All paths of the tree that fit a pattern; nothing if the pattern is ill-formed. -/
def find? (t : FileTree) (pattern : String) : Option (List String) := do
  let globs ← ofPath? pattern
  let start : Found := if isAbsolute pattern then ⟨"/", ["/"]⟩ else ⟨".", []⟩
  let depth := (t.nodes.map fun n => n.1.length).foldl max 0
  let found := expand t (depth + globs.length + 1) globs start
  some ((found.filter fun f => !endsInSlash pattern || t.isDirectory f.place).map (·.path))

end Glob

def isGlob (path : String) : Bool :=
  path.toList.any fun c => c == '*' || c == '?' || c == '[' || c == '{'

end Conformance
