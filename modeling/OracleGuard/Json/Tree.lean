import OracleGuard.Json.SortedMap

/-!
JSON values. The members of an object are sorted by their names, without
repetition; the names are strings of any linear order.

* `Tree`: values, and the lists of values and of members inside them, as one family.
* `Value`: a tree whose objects are sorted, so that equal values are equal trees.
-/

namespace Json

def INT_MIN : Int := -0x8000000000000000

/-- Unsigned and negative machine integers; any other number is a float. -/
inductive Number where
  | posInt (n : UInt64)
  | negInt (n : Int) (hneg : n < 0) (hmin : INT_MIN ≤ n)
  | float (bits : UInt64)
  deriving DecidableEq, Repr

def Number.IsFloat : Number → Prop
  | .float _ => True
  | _ => False

inductive Kind where
  | value | items | members
  deriving DecidableEq, Repr

inductive Tree (S : Type) : Kind → Type
  | null : Tree S .value
  | bool (b : Bool) : Tree S .value
  | number (n : Number) : Tree S .value
  | string (s : S) : Tree S .value
  | array (items : Tree S .items) : Tree S .value
  | object (members : Tree S .members) : Tree S .value
  | nil : Tree S .items
  | cons (value : Tree S .value) (rest : Tree S .items) : Tree S .items
  | empty : Tree S .members
  | entry (key : S) (value : Tree S .value) (rest : Tree S .members) : Tree S .members
  deriving DecidableEq, Repr

namespace Tree

variable {S : Type}

def ofItems : List (Tree S .value) → Tree S .items
  | [] => nil
  | value :: rest => cons value (ofItems rest)

def ofMembers : List (S × Tree S .value) → Tree S .members
  | [] => empty
  | (key, value) :: rest => entry key value (ofMembers rest)

def items : {k : Kind} → Tree S k → List (Tree S .value)
  | _, cons value rest => value :: rest.items
  | _, _ => []

def members : {k : Kind} → Tree S k → List (S × Tree S .value)
  | _, entry key value rest => (key, value) :: rest.members
  | _, _ => []

def depth : {k : Kind} → Tree S k → Nat
  | _, array items => items.depth + 1
  | _, object members => members.depth + 1
  | _, cons value rest => max value.depth rest.depth
  | _, entry _ value rest => max value.depth rest.depth
  | _, _ => 0

/-- The members of every object are in strict order. -/
def Sorted [LinearOrder S] : {k : Kind} → Tree S k → Prop
  | _, array items => items.Sorted
  | _, object members => members.Sorted
  | _, cons value rest => value.Sorted ∧ rest.Sorted
  | _, entry key value rest => value.Sorted ∧ rest.Sorted ∧ ∀ p ∈ rest.members, key < p.1
  | _, _ => True

@[simp] theorem items_ofItems (l : List (Tree S .value)) : (ofItems l).items = l := by
  induction l with
  | nil => rfl
  | cons value l ih => rw [ofItems, items, ih]

@[simp] theorem members_ofMembers (l : List (S × Tree S .value)) :
    (ofMembers l).members = l := by
  induction l with
  | nil => rfl
  | cons p l ih => rw [ofMembers, members, ih]

theorem ofItems_items : (t : Tree S .items) → ofItems t.items = t
  | nil => rfl
  | cons value rest => congrArg (cons value) (ofItems_items rest)

theorem ofMembers_members : (t : Tree S .members) → ofMembers t.members = t
  | empty => rfl
  | entry key value rest => congrArg (entry key value) (ofMembers_members rest)

theorem depth_ofItems_le {l : List (Tree S .value)} {n : Nat} (h : ∀ t ∈ l, t.depth ≤ n) :
    (ofItems l).depth ≤ n := by
  induction l with
  | nil => exact Nat.zero_le n
  | cons value l ih =>
    rw [List.forall_mem_cons] at h
    exact Nat.max_le.mpr ⟨h.1, ih h.2⟩

theorem depth_ofMembers_le {l : List (S × Tree S .value)} {n : Nat}
    (h : ∀ p ∈ l, p.2.depth ≤ n) : (ofMembers l).depth ≤ n := by
  induction l with
  | nil => exact Nat.zero_le n
  | cons p l ih =>
    rw [List.forall_mem_cons] at h
    exact Nat.max_le.mpr ⟨h.1, ih h.2⟩

variable [LinearOrder S]

theorem sorted_ofItems {l : List (Tree S .value)} (h : ∀ t ∈ l, t.Sorted) :
    (ofItems l).Sorted := by
  induction l with
  | nil => trivial
  | cons value l ih =>
    rw [List.forall_mem_cons] at h
    exact ⟨h.1, ih h.2⟩

theorem sorted_ofMembers {l : List (S × Tree S .value)} (hl : SortedMap.Sorted l)
    (h : ∀ p ∈ l, p.2.Sorted) : (ofMembers l).Sorted := by
  induction l with
  | nil => trivial
  | cons p l ih =>
    rw [List.forall_mem_cons] at h
    obtain ⟨hlt, hl⟩ := List.pairwise_cons.mp hl
    exact ⟨h.1, ih hl h.2, by rwa [members_ofMembers]⟩

theorem sorted_members : (t : Tree S .members) → t.Sorted → SortedMap.Sorted t.members
  | empty, _ => List.Pairwise.nil
  | entry _ _ rest, h => List.Pairwise.cons h.2.2 (sorted_members rest h.2.1)

end Tree

@[ext] structure Value (S : Type) [LinearOrder S] where
  tree : Tree S .value
  sorted : tree.Sorted

end Json
