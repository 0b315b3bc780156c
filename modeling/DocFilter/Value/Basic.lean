import DocFilter.Entries
import DocFilter.Number.Basic

set_option autoImplicit false

/-
Values of the document store. A mapping is a list of entries; that the keys ascend, at every depth,
is the predicate `Value.Canonical`. `Proofs/CanonicalValues` shows that it holds of whatever is read
from JSON5 text, and that encoding, merging and compiling keep it.
-/
namespace DocFilter

inductive Value where
  | null
  | bool (truth : Bool)
  | number (value : Number)
  | string (text : String)
  | array (items : List Value)
  | mapping (entries : List (String × Value))
  deriving Inhabited

namespace Value

mutual

/-- The keys of every mapping inside the value ascend. -/
def Canonical : Value → Prop
  | .array items => CanonicalItems items
  | .mapping entries => Entries.Ascending entries ∧ CanonicalEntries entries
  | _ => True
termination_by structural v => v

def CanonicalItems : List Value → Prop
  | [] => True
  | item :: rest => item.Canonical ∧ CanonicalItems rest
termination_by structural items => items

def CanonicalEntries : List (String × Value) → Prop
  | [] => True
  | (_, value) :: rest => value.Canonical ∧ CanonicalEntries rest
termination_by structural entries => entries

end

mutual

def same : Value → Value → Bool
  | .null, .null => true
  | .bool a, .bool b => a == b
  | .number a, .number b => decide (a = b)
  | .string a, .string b => a == b
  | .array a, .array b => sameItems a b
  | .mapping a, .mapping b => sameEntries a b
  | _, _ => false
termination_by structural v => v

def sameItems : List Value → List Value → Bool
  | [], [] => true
  | a :: as, b :: bs => a.same b && sameItems as bs
  | _, _ => false
termination_by structural items => items

def sameEntries : List (String × Value) → List (String × Value) → Bool
  | [], [] => true
  | (j, a) :: as, (k, b) :: bs => j == k && a.same b && sameEntries as bs
  | _, _ => false
termination_by structural entries => entries

end

mutual

theorem same_iff : (a b : Value) → (a.same b = true ↔ a = b)
  | .null, b => by cases b <;> simp [same]
  | .bool _, b => by cases b <;> simp [same]
  | .number _, b => by cases b <;> simp [same]
  | .string _, b => by cases b <;> simp [same]
  | .array items, b => by
      cases b with
      | array others => simp [same, sameItems_iff items others]
      | _ => simp [same]
  | .mapping entries, b => by
      cases b with
      | mapping others => simp [same, sameEntries_iff entries others]
      | _ => simp [same]

theorem sameItems_iff : (a b : List Value) → (sameItems a b = true ↔ a = b)
  | [], b => by cases b <;> simp [sameItems]
  | item :: rest, b => by
      cases b with
      | nil => simp [sameItems]
      | cons other tail => simp [sameItems, same_iff item other, sameItems_iff rest tail]

theorem sameEntries_iff : (a b : List (String × Value)) → (sameEntries a b = true ↔ a = b)
  | [], b => by cases b <;> simp [sameEntries]
  | (key, value) :: rest, b => by
      cases b with
      | nil => simp [sameEntries]
      | cons other tail =>
          obtain ⟨k, v⟩ := other
          simp [sameEntries, same_iff value v, sameEntries_iff rest tail, and_assoc]

end

instance : DecidableEq Value := fun a b => decidable_of_iff _ (same_iff a b)

def isMapping : Value → Bool
  | .mapping _ => true
  | _ => false

/-- The entries of a mapping, none for any other value. -/
def entries : Value → List (String × Value)
  | .mapping entries => entries
  | _ => []

/-- Null, false, zero and everything empty count as false. -/
def isTruthy : Value → Bool
  | .null => false
  | .bool truth => truth
  | .number value => !value.isZero
  | .string text => !text.isEmpty
  | .array items => !items.isEmpty
  | .mapping entries => !entries.isEmpty

end Value

end DocFilter
