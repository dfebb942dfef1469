import Conformance.Filter
import Conformance.Json.Reader
import Conformance.Text.Ranges

/-!
# Reading filters

Pipes bind weaker than commas, commas weaker than equations, those weaker than the other
comparisons, and all of them weaker than a minus sign and the steps that follow a term. A run
of operator characters is one operator, and a point and a name that follows it at once are one
step. Between them there may be blanks and comments.
-/

namespace Conformance

namespace Filter

/-! ## Words and blanks -/

/-- What follows blanks and comments. In a comment we know whether the backslashes just before
the position are odd in number: then the comment goes on after the end of the line. -/
def skipIn : Option Bool → List Char → List Char
  | _, [] => []
  | none, c :: cs =>
    if c == '#' then skipIn (some false) cs
    else if blankRanges.contains c then skipIn none cs
    else c :: cs
  | some odd, '\n' :: cs => skipIn (if odd then some false else none) cs
  | some odd, '\r' :: '\n' :: cs => skipIn (if odd then some false else none) cs
  | some odd, c :: cs => skipIn (some (c == '\\' && !odd)) cs

def skip : List Char → List Char := skipIn none

def isLetter (c : Char) : Bool := c.isAlpha || c == '_'

def name? : List Char → Option (String × List Char)
  | [] => none
  | c :: cs =>
    if isLetter c then
      let rest := cs.takeWhile fun c => isLetter c || c.isDigit
      some (String.ofList (c :: rest), cs.drop rest.length)
    else none

def qualified? (cs : List Char) : Option (String × List Char) := do
  let (m, cs) ← name? cs
  match cs with
  | ':' :: ':' :: cs => do
    let (n, cs) ← name? cs
    some (m ++ "::" ++ n, cs)
  | cs => some (m, cs)

def reserved : List String :=
  ["def", "if", "try", "label", "break", "reduce", "foreach"]

def leading : List String := ["module", "import", "include"]

/-! ## Operators -/

def isOperatorChar (c : Char) : Bool := "|=!<>+-*/%".toList.contains c

def operator (cs : List Char) : List Char × List Char := (skip cs).span isOperatorChar

def equation? : List Char → Option Comparison
  | ['=', '='] => some .eq
  | ['!', '='] => some .ne
  | _ => none

def inequation? : List Char → Option Comparison
  | ['<'] => some .lt
  | ['<', '='] => some .le
  | ['>'] => some .gt
  | ['>', '='] => some .ge
  | _ => none

/-! ## Numbers -/

def digits? (cs : List Char) : Option (List Char × List Char) :=
  let (ds, rest) := cs.span Char.isDigit
  if ds.isEmpty then none else some (ds, rest)

def numeral (written whole fraction : List Char) (exponent : Option Int) : Item :=
  let n := Json.digitsValue (whole ++ fraction)
  if fraction.isEmpty && exponent.isNone && Json.fitsSigned n then .whole n
  else .decimal (String.ofList written) (.ofDecimal n (exponent.getD 0 - fraction.length))

def number? (cs : List Char) : Option (Item × List Char) := do
  let (whole, rest) := cs.span Char.isDigit
  let (fraction, rest) ← match rest with
    | '.' :: rest => digits? rest
    | rest => some ([], rest)
  let (exponent, rest) ← match rest with
    | 'e' :: rest | 'E' :: rest =>
      let (negative, rest) := match rest with
        | '-' :: rest => (true, rest)
        | '+' :: rest => (false, rest)
        | rest => (false, rest)
      (digits? rest).map fun (ds, rest) =>
        (some (if negative then -(Json.digitsValue ds : Int) else Json.digitsValue ds), rest)
    | rest => some (none, rest)
  some (numeral (cs.take (cs.length - rest.length)) whole fraction exponent, rest)

/-! ## Strings -/

def unicode? (cs : List Char) : Option (Char × List Char) := do
  let (n, cs) ← (Json.fourDigits cs).toOption
  if 0xD800 ≤ n && n ≤ 0xDFFF then none else some (Char.ofNat n, cs)

def verbatim (s : String) : Filter := .literal (.string s)

def ofParts : List Filter → Filter
  | [] => verbatim ""
  | [.literal v] => .literal v
  | parts => .join parts

def withText (parts : List Filter) (read : List Char) : List Filter :=
  if read.isEmpty then parts else verbatim (String.ofList read.reverse) :: parts

def fieldOf (key : Filter) : Filter := .path .self [.index key false]

/-! ## Brackets and question marks -/

def closed? {α : Type} (bracket : Char) (a : α) (cs : List Char) : Option (α × List Char) :=
  match skip cs with
  | c :: cs => if c = bracket then some (a, cs) else none
  | [] => none

def questions : Nat → List Char → Bool × List Char
  | 0, cs => (false, cs)
  | fuel + 1, cs =>
    match skip cs with
    | '?' :: cs => (true, (questions fuel cs).2)
    | _ => (false, cs)

def lenient (cs : List Char) : Bool × List Char := questions cs.length cs

/-! ## Filters -/

mutual

def pipeline? : Nat → Bool → List Char → Option (Filter × List Char)
  | 0, _, _ => none
  | fuel + 1, commas, cs => do
    let (f, cs) ← commaList? fuel commas cs
    match operator cs with
    | (['|'], cs) => do
      let (g, cs) ← pipeline? fuel commas cs
      some (.pipe f g, cs)
    | _ => some (f, cs)

def commaList? : Nat → Bool → List Char → Option (Filter × List Char)
  | 0, _, _ => none
  | fuel + 1, commas, cs => do
    let (f, cs) ← compared? fuel cs
    match skip cs, commas with
    | ',' :: cs, true => do
      let (g, cs) ← commaList? fuel commas cs
      some (.comma f g, cs)
    | _, _ => some (f, cs)

def compared? : Nat → List Char → Option (Filter × List Char)
  | 0, _ => none
  | fuel + 1, cs => do
    let (f, cs) ← signed? fuel cs
    let (f, cs) ← inequations? fuel f cs
    equations? fuel f cs

def inequations? : Nat → Filter → List Char → Option (Filter × List Char)
  | 0, _, _ => none
  | fuel + 1, f, cs =>
    let (op, rest) := operator cs
    match inequation? op with
    | some c => do
      let (g, rest) ← signed? fuel rest
      inequations? fuel (.compare c f g) rest
    | none => some (f, cs)

def equations? : Nat → Filter → List Char → Option (Filter × List Char)
  | 0, _, _ => none
  | fuel + 1, f, cs =>
    let (op, rest) := operator cs
    match equation? op with
    | some c => do
      let (g, rest) ← signed? fuel rest
      let (g, rest) ← inequations? fuel g rest
      equations? fuel (.compare c f g) rest
    | none => some (f, cs)

def signed? : Nat → List Char → Option (Filter × List Char)
  | 0, _ => none
  | fuel + 1, cs =>
    match operator cs with
    | (['-'], cs) => do
      let (f, cs) ← signed? fuel cs
      some (.negate f, cs)
    | _ => do
      let (f, cs) ← term? fuel cs
      let (tried, cs) := lenient cs
      let f := if tried then .attempt f else f
      let (steps, cs) ← steps? fuel cs
      some (if steps.isEmpty then f else .path f steps, cs)

def term? : Nat → List Char → Option (Filter × List Char)
  | 0, _ => none
  | fuel + 1, cs =>
    match skip cs with
    | '.' :: '.' :: cs => some (.descend, cs)
    | '.' :: cs =>
      let keyed := cs.head?.any isLetter || (skip cs).head? == some '"'
      some (.self, if keyed then '.' :: cs else cs)
    | '"' :: cs => string? fuel [] [] cs
    | '(' :: cs => do
      let (f, cs) ← pipeline? fuel true cs
      closed? ')' f cs
    | '[' :: cs =>
      match skip cs with
      | ']' :: cs => some (.collect none, cs)
      | cs => do
        let (f, cs) ← pipeline? fuel true cs
        closed? ']' (.collect (some f)) cs
    | '{' :: cs => do
      let (entries, cs) ← entries? fuel cs
      some (.build entries, cs)
    | '$' :: cs => do
      let (x, cs) ← qualified? cs
      some (.variable x, cs)
    | '@' :: cs => do
      let (format, cs) ← name? cs
      let f : Filter := .call ("@" ++ format) []
      match skip cs with
      | '"' :: cs => do
        let (_, cs) ← string? fuel [] [] cs
        some (f, cs)
      | cs => some (f, cs)
    | c :: cs =>
      if c.isDigit then (number? (c :: cs)).map fun (v, cs) => (.literal v, cs)
      else do
        let (f, cs) ← qualified? (c :: cs)
        if reserved.contains f then none
        else match skip cs with
          | '(' :: cs => do
            let (args, cs) ← arguments? fuel cs
            some (.call f args, cs)
          | cs => some (.call f [], cs)
    | [] => none

def string? : Nat → List Filter → List Char → List Char → Option (Filter × List Char)
  | 0, _, _, _ => none
  | fuel + 1, parts, read, cs =>
    match cs with
    | '"' :: cs => some (ofParts (withText parts read).reverse, cs)
    | '\\' :: '(' :: cs => do
      let (f, cs) ← pipeline? fuel true cs
      let (f, cs) ← closed? ')' f cs
      string? fuel (.join [f] :: withText parts read) [] cs
    | '\\' :: 'u' :: cs => do
      let (c, cs) ← unicode? cs
      string? fuel parts (c :: read) cs
    | '\\' :: c :: cs => do
      let c ← Json.simpleEscape? c
      string? fuel parts (c :: read) cs
    | c :: cs => string? fuel parts (c :: read) cs
    | [] => none

def steps? : Nat → List Char → Option (List Step × List Char)
  | 0, _ => none
  | fuel + 1, cs =>
    match skip cs with
    | '.' :: cs => do
      let (key, cs) ← match name? cs with
        | some (k, cs) => some (verbatim k, cs)
        | none => match skip cs with
          | '"' :: cs => string? fuel [] [] cs
          | _ => none
      let (l, cs) := lenient cs
      let (steps, cs) ← steps? fuel cs
      some (.index key l :: steps, cs)
    | '[' :: cs => do
      let (step, cs) ← bracket? fuel cs
      let (l, cs) := lenient cs
      let (steps, cs) ← steps? fuel cs
      some (step l :: steps, cs)
    | cs => some ([], cs)

def bracket? : Nat → List Char → Option ((Bool → Step) × List Char)
  | 0, _ => none
  | fuel + 1, cs =>
    match skip cs with
    | ']' :: cs => some (.each, cs)
    | ':' :: cs => do
      let (high, cs) ← pipeline? fuel true cs
      closed? ']' (.slice none (some high)) cs
    | cs => do
      let (low, cs) ← pipeline? fuel true cs
      match skip cs with
      | ':' :: cs =>
        match skip cs with
        | ']' :: cs => some (.slice (some low) none, cs)
        | cs => do
          let (high, cs) ← pipeline? fuel true cs
          closed? ']' (.slice (some low) (some high)) cs
      | cs => closed? ']' (.index low) cs

def arguments? : Nat → List Char → Option (List Filter × List Char)
  | 0, _ => none
  | fuel + 1, cs => do
    let (f, cs) ← pipeline? fuel true cs
    match skip cs with
    | ';' :: cs => do
      let (fs, cs) ← arguments? fuel cs
      some (f :: fs, cs)
    | cs => closed? ')' [f] cs

/-- The entries of an object up to its closing brace, which may follow a comma. A key alone
stands for the field of the input under it. -/
def entries? : Nat → List Char → Option (List (Filter × Filter) × List Char)
  | 0, _ => none
  | fuel + 1, cs =>
    match skip cs with
    | '}' :: cs => some ([], cs)
    | cs => do
      let (key, alone, cs) ← match cs with
        | '"' :: cs => (string? fuel [] [] cs).map fun (k, cs) => (k, some (fieldOf k), cs)
        | '(' :: cs => do
          let (f, cs) ← pipeline? fuel true cs
          let (f, cs) ← closed? ')' f cs
          some (f, none, cs)
        | '$' :: cs => (qualified? cs).map fun (x, cs) => (verbatim x, some (.variable x), cs)
        | cs => (name? cs).map fun (k, cs) => (verbatim k, some (fieldOf (verbatim k)), cs)
      let (value, cs) ← match skip cs with
        | ':' :: cs => pipeline? fuel false cs
        | cs => alone.map fun f => (f, cs)
      match skip cs with
      | ',' :: cs => do
        let (rest, cs) ← entries? fuel cs
        some ((key, value) :: rest, cs)
      | cs => closed? '}' [(key, value)] cs

end

def parse? (s : String) : Option Filter := do
  let cs := s.toList
  if (name? (skip cs)).any fun n => leading.contains n.1 then none
  else
    let (f, rest) ← pipeline? (12 * cs.length + 12) true cs
    if (skip rest).isEmpty then some f else none

/-! ## Applying -/

def document : Option Item → Except FilterError Json
  | none => .error .failed
  | some v => ((Json.parse v.text).toOption.map .ok).getD (.error .unwritable)

/-- All outputs of the filter on a document, or the first failure. A filter is read and its
names are looked up before it runs. -/
def apply (s : String) (input : Json) : Except FilterError (List Json) :=
  match parse? s with
  | none => .error .unreadable
  | some f => if f.isDefined then (f.run (.ofJson input)).mapM document else .error .undefined

end Filter

end Conformance
