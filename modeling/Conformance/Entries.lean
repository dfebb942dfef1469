/-!
# Keyed entries

Entries are kept in the order in which their keys were first inserted.
-/

namespace Conformance

abbrev Entries (α : Type) := List (String × α)

namespace Entries

def get? {α : Type} : Entries α → String → Option α
  | [], _ => none
  | (k, a) :: es, key => if k = key then some a else get? es key

def keys {α : Type} (es : Entries α) : List String := es.map Prod.fst

/-- Replaces the entry of the key in its place, or adds one at the end. -/
def insert {α : Type} : Entries α → String → α → Entries α
  | [], key, a => [(key, a)]
  | (k, b) :: es, key, a => if k = key then (key, a) :: es else (k, b) :: insert es key a

/-- One entry for each key: its first place, its last value. -/
def ofList {α : Type} (es : List (String × α)) : Entries α :=
  es.foldl (fun acc e => insert acc e.1 e.2) []

def indexed {α : Type} (xs : List α) : Entries α :=
  xs.zipIdx.map fun (x, i) => (i.repr, x)

theorem get?_insert {α : Type} (es : Entries α) (k key : String) (a : α) :
    get? (insert es k a) key = if k = key then some a else get? es key := by
  induction es with
  | nil => simp [insert, get?]
  | cons e es ih =>
    obtain ⟨k', b⟩ := e
    by_cases h : k' = k
    · subst h; by_cases h' : k' = key <;> simp [insert, get?, h']
    · by_cases h' : k' = key
      · subst h'; simp [insert, get?, h, Ne.symm h]
      · simp [insert, get?, h, h', ih]

theorem keys_insert {α : Type} (es : Entries α) (k : String) (a : α) :
    keys (insert es k a) = if k ∈ keys es then keys es else keys es ++ [k] := by
  induction es with
  | nil => simp [insert, keys]
  | cons e es ih =>
    obtain ⟨k', b⟩ := e
    by_cases h : k' = k
    · subst h; simp [insert, keys]
    · simp only [insert, h, if_false, keys, List.map_cons, List.mem_cons, Ne.symm h, false_or] at ih ⊢
      rw [ih]; split <;> simp_all

end Entries

end Conformance
