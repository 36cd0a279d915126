/-!
# JSON values

Documents are ordered: an object is a list of entries in the order in which their keys were first
put, and putting a key again replaces its value where it stands. Numbers keep the distinction
between integers of the signed and unsigned 64-bit ranges and binary floating point.

The laws at the end say what `put` does to a look-up and to the order of keys.
-/
namespace ClusterGraph

/-- A number as documents hold it: an integer between `-2^63` and `2^64 - 1`, or the sign and the
bits of a finite double. -/
inductive Number where
  | integer (n : Int)
  | double (negative : Bool) (magnitude : Nat)
  deriving DecidableEq, Repr

/-- Ordered entries with string keys. -/
abbrev Entries (α : Type) := List (String × α)

inductive Json where
  | null
  | bool (b : Bool)
  | number (n : Number)
  | string (s : String)
  | array (items : List Json)
  | object (entries : List (String × Json))
  deriving Repr, Inhabited

namespace Entries
variable {α : Type}

def get? : Entries α → String → Option α
  | [], _ => none
  | (k, v) :: rest, key => if k = key then some v else get? rest key

/-- Puts a value under a key: in place if the key is there, else at the end. -/
def put : Entries α → String → α → Entries α
  | [], key, value => [(key, value)]
  | (k, v) :: rest, key, value =>
    if k = key then (k, value) :: rest else (k, v) :: put rest key value

def has (entries : Entries α) (key : String) : Bool := (entries.get? key).isSome

def putDefault (entries : Entries α) (key : String) (value : α) : Entries α :=
  if entries.has key then entries else entries ++ [(key, value)]

/-- Entries put one after another: a repeated key keeps its first position and its last value. -/
def collect (entries : List (String × α)) : Entries α :=
  entries.foldl (fun acc e => acc.put e.1 e.2) []

def keys (entries : Entries α) : List String := entries.map Prod.fst

@[simp] theorem get?_put_self (entries : Entries α) (key : String) (value : α) :
    (entries.put key value).get? key = some value := by
  induction entries with
  | nil => simp [put, get?]
  | cons e rest ih =>
    obtain ⟨k, v⟩ := e
    by_cases h : k = key <;> simp [put, get?, h, ih]

theorem get?_put_of_ne (entries : Entries α) {key other : String} (h : key ≠ other) (value : α) :
    (entries.put key value).get? other = entries.get? other := by
  induction entries with
  | nil => simp [put, get?, h]
  | cons e rest ih =>
    obtain ⟨k, v⟩ := e
    by_cases hk : k = key
    · subst hk; simp [put, get?, h]
    · by_cases ho : k = other
      · subst ho; simp [put, get?, hk]
      · simp [put, get?, hk, ho, ih]

/-- The order of the keys only grows at its end. -/
theorem keys_put (entries : Entries α) (key : String) (value : α) :
    (entries.put key value).keys
      = if key ∈ entries.keys then entries.keys else entries.keys ++ [key] := by
  induction entries with
  | nil => simp [put, keys]
  | cons e rest ih =>
    obtain ⟨k, v⟩ := e
    by_cases hk : k = key
    · simp [put, keys, hk]
    · have hk' : ¬ key = k := fun h => hk h.symm
      simp only [put, hk, keys, List.map_cons, if_false, List.mem_cons, hk', false_or] at ih ⊢
      rw [ih]
      by_cases hm : key ∈ rest.map Prod.fst <;> simp [hm]

end Entries

namespace Json

def get? (key : String) : Json → Option Json
  | object entries => Entries.get? entries key
  | _ => none

def string? : Json → Option String
  | string s => some s
  | _ => none

def isObject : Json → Bool
  | object _ => true
  | _ => false

def isString : Json → Bool
  | string _ => true
  | _ => false

def ofNat (n : Nat) : Json := number (.integer n)

/-- A text that may be absent; absence is written as null. -/
def ofText? : Option String → Json
  | some s => string s
  | none => null

def ofOption : Option Json → Json
  | some v => v
  | none => null

end Json
end ClusterGraph
