import Conformance.Entries
import Conformance.Filter.Item

/-!
# The order of items

Null, false, true, numbers, strings, arrays and objects follow each other in this order.
Arrays are compared element by element, objects first by their sorted keys and then by the
values under them. What is not a number comes before every number, itself included.
-/

namespace Conformance

def Number.order (a b : Number) : Ordering :=
  if a = .nan then .lt
  else if b = .nan then .gt
  else if a.lt b then .lt
  else if b.lt a then .gt
  else .eq

namespace Item

def rank : Item → Nat
  | .null => 0
  | .bool false => 1
  | .bool true => 2
  | .whole _ | .decimal .. => 3
  | .string _ => 4
  | .array _ => 5
  | .object _ => 6

def sortedKeys {α : Type} (fs : Entries α) : List String :=
  (Entries.keys fs).mergeSort fun a b => a ≤ b

def orderKeys : List String → List String → Ordering
  | [], [] => .eq
  | [], _ :: _ => .lt
  | _ :: _, [] => .gt
  | k :: ks, l :: ls => if k < l then .lt else if l < k then .gt else orderKeys ks ls

mutual

def order : Item → Item → Ordering
  | .whole a, .whole b => compare a b
  | .whole a, .decimal _ b => (Number.ofInt a).order b
  | .decimal _ a, .whole b => a.order (.ofInt b)
  | .decimal _ a, .decimal _ b => a.order b
  | .string a, .string b => if a < b then .lt else if b < a then .gt else .eq
  | .array xs, .array ys => orderElements xs ys
  | .object fs, .object gs =>
    let keys := sortedKeys fs
    (orderKeys keys (sortedKeys gs)).then (orderUnder (comparisons fs) gs keys)
  | a, b => compare a.rank b.rank

def orderElements : List Item → List Item → Ordering
  | [], [] => .eq
  | [], _ :: _ => .lt
  | _ :: _, [] => .gt
  | x :: xs, y :: ys => (x.order y).then (orderElements xs ys)

def comparisons : List (String × Item) → Entries (Item → Ordering)
  | [] => []
  | (k, v) :: fs => (k, v.order) :: comparisons fs

def orderUnder (fs : Entries (Item → Ordering)) (gs : Entries Item) : List String → Ordering
  | [] => .eq
  | k :: ks =>
    match Entries.get? fs k, Entries.get? gs k with
    | some c, some v => (c v).then (orderUnder fs gs ks)
    | _, _ => orderUnder fs gs ks

end

end Item

end Conformance
