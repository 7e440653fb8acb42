import Mathlib.Data.List.Induction
import Mathlib.Data.List.Nodup
import Mathlib.Order.Lattice

/-!
Maps as lists of entries in the strict order of their keys, so that two maps with
the same entries are the same list.

* `mem_insert`: an insertion replaces the entry of its key.
* `mem_build_iff`: entries that never give one key two values are all kept.
* `build_perm`: so their order does not matter.
-/

namespace SortedMap

variable {K V : Type}

/-- No key has two values. -/
def Functional (l : List (K × V)) : Prop := ∀ p ∈ l, ∀ q ∈ l, p.1 = q.1 → p = q

theorem Functional.perm {l l' : List (K × V)} (h : Functional l) (hperm : l.Perm l') :
    Functional l' := fun p hp q hq =>
  h p (hperm.mem_iff.mpr hp) q (hperm.mem_iff.mpr hq)

variable [LinearOrder K]

def Sorted (l : List (K × V)) : Prop := l.Pairwise fun p q => p.1 < q.1

def insert (key : K) (value : V) : List (K × V) → List (K × V)
  | [] => [(key, value)]
  | (k, v) :: rest =>
    if key < k then (key, value) :: (k, v) :: rest
    else if key = k then (key, value) :: rest
    else (k, v) :: insert key value rest

/-- The entries inserted one after the other. -/
def build (l : List (K × V)) : List (K × V) := l.foldl (fun m p => insert p.1 p.2 m) []

theorem Sorted.functional {l : List (K × V)} (h : Sorted l) : Functional l := by
  induction l with
  | nil => exact fun p hp => absurd hp List.not_mem_nil
  | cons e l ih =>
    obtain ⟨hlt, hl⟩ := List.pairwise_cons.mp h
    intro p hp q hq hkey
    rcases List.mem_cons.mp hp with rfl | hp'
    · rcases List.mem_cons.mp hq with rfl | hq'
      · rfl
      · exact absurd hkey (hlt q hq').ne
    · rcases List.mem_cons.mp hq with rfl | hq'
      · exact absurd hkey (hlt p hp').ne'
      · exact ih hl p hp' q hq' hkey

/-- Maps with the same entries are equal. -/
theorem Sorted.ext {l l' : List (K × V)} (h : Sorted l) (h' : Sorted l')
    (hmem : ∀ p, p ∈ l ↔ p ∈ l') : l = l' := by
  have hnodup : l.Nodup := List.Pairwise.imp (fun hlt heq => hlt.ne (congrArg Prod.fst heq)) h
  have hnodup' : l'.Nodup := List.Pairwise.imp (fun hlt heq => hlt.ne (congrArg Prod.fst heq)) h'
  have hperm : l.Perm l' := (List.perm_ext_iff_of_nodup hnodup hnodup').mpr hmem
  exact hperm.eq_of_pairwise (fun _ _ _ _ hlt hgt => absurd hgt hlt.asymm) h h'

theorem mem_insert {l : List (K × V)} (h : Sorted l) (key : K) (value : V) (p : K × V) :
    p ∈ insert key value l ↔ p = (key, value) ∨ p ∈ l ∧ p.1 ≠ key := by
  induction l with
  | nil => simp [insert]
  | cons e l ih =>
    obtain ⟨k, v⟩ := e
    obtain ⟨hlt, hl⟩ := List.pairwise_cons.mp h
    rw [insert]
    split
    next hbefore =>
      have hne : ∀ q ∈ (k, v) :: l, q.1 ≠ key := by
        intro q hq
        rcases List.mem_cons.mp hq with rfl | hq
        · exact hbefore.ne'
        · exact (hbefore.trans (hlt q hq)).ne'
      rw [List.mem_cons]
      exact or_congr_right ⟨fun hp => ⟨hp, hne p hp⟩, And.left⟩
    next hbefore =>
      split
      next hkey =>
        subst hkey
        have hne : ∀ q ∈ l, q.1 ≠ key := fun q hq => (hlt q hq).ne'
        rw [List.mem_cons, List.mem_cons]
        grind
      next hkey =>
        rw [List.mem_cons, ih hl, List.mem_cons]
        grind

theorem sorted_insert {l : List (K × V)} (h : Sorted l) (key : K) (value : V) :
    Sorted (insert key value l) := by
  induction l with
  | nil => exact List.pairwise_singleton _ _
  | cons e l ih =>
    obtain ⟨k, v⟩ := e
    obtain ⟨hlt, hl⟩ := List.pairwise_cons.mp h
    rw [insert]
    split
    next hbefore =>
      refine List.pairwise_cons.mpr ⟨?_, h⟩
      intro q hq
      rcases List.mem_cons.mp hq with rfl | hq
      · exact hbefore
      · exact hbefore.trans (hlt q hq)
    next hbefore =>
      split
      next hkey =>
        subst hkey
        exact List.pairwise_cons.mpr ⟨hlt, hl⟩
      next hkey =>
        refine List.pairwise_cons.mpr ⟨?_, ih hl⟩
        intro q hq
        rcases (mem_insert hl key value q).mp hq with rfl | ⟨hq, -⟩
        · exact lt_of_le_of_ne (not_lt.mp hbefore) (Ne.symm hkey)
        · exact hlt q hq

theorem build_append (l : List (K × V)) (p : K × V) :
    build (l ++ [p]) = insert p.1 p.2 (build l) := by
  rw [build, build, List.foldl_append]
  rfl

theorem sorted_build (l : List (K × V)) : Sorted (build l) := by
  induction l using List.reverseRecOn with
  | nil => exact List.Pairwise.nil
  | append_singleton l p ih =>
    rw [build_append]
    exact sorted_insert ih p.1 p.2

/-- The last value of a key is kept. -/
theorem mem_build_append (l : List (K × V)) (p q : K × V) :
    q ∈ build (l ++ [p]) ↔ q = p ∨ q ∈ build l ∧ q.1 ≠ p.1 := by
  rw [build_append, mem_insert (sorted_build l)]

theorem mem_of_mem_build {l : List (K × V)} {q : K × V} (h : q ∈ build l) : q ∈ l := by
  induction l using List.reverseRecOn with
  | nil => cases h
  | append_singleton l p ih =>
    rcases (mem_build_append l p q).mp h with rfl | ⟨hq, -⟩
    · exact List.mem_append_right l (List.mem_singleton_self q)
    · exact List.mem_append_left _ (ih hq)

/-- An entry is kept if its key does not come again. -/
theorem mem_build_cons (l : List (K × V)) (p q : K × V) :
    q ∈ build (p :: l) ↔ q ∈ build l ∨ q = p ∧ ∀ r ∈ l, r.1 ≠ p.1 := by
  induction l using List.reverseRecOn with
  | nil => simp [build, insert]
  | append_singleton l r ih =>
    rw [← List.cons_append, mem_build_append, ih, mem_build_append, List.forall_mem_append,
      List.forall_mem_singleton]
    constructor
    · rintro (hq | ⟨hq | ⟨rfl, hl⟩, hkey⟩)
      · exact .inl (.inl hq)
      · exact .inl (.inr ⟨hq, hkey⟩)
      · exact .inr ⟨rfl, hl, hkey.symm⟩
    · rintro ((hq | ⟨hq, hkey⟩) | ⟨rfl, hl, hkey⟩)
      · exact .inl hq
      · exact .inr ⟨.inl hq, hkey⟩
      · exact .inr ⟨.inr ⟨rfl, hl⟩, hkey.symm⟩

theorem mem_build_iff {l : List (K × V)} (h : Functional l) (q : K × V) :
    q ∈ build l ↔ q ∈ l := by
  induction l using List.reverseRecOn with
  | nil => rfl
  | append_singleton l p ih =>
    have hl : Functional l := fun a ha b hb =>
      h a (List.mem_append_left _ ha) b (List.mem_append_left _ hb)
    have hp : ∀ a ∈ l, a.1 = p.1 → a = p := fun a ha =>
      h a (List.mem_append_left _ ha) p (List.mem_append_right l (List.mem_singleton_self p))
    rw [mem_build_append, ih hl, List.mem_append, List.mem_singleton]
    constructor
    · rintro (rfl | ⟨hq, -⟩)
      · exact .inr rfl
      · exact .inl hq
    · rintro (hq | rfl)
      · by_cases hkey : q.1 = p.1
        · exact .inl (hp q hq hkey)
        · exact .inr ⟨hq, hkey⟩
      · exact .inl rfl

/-- A sorted map is what it is built of. -/
theorem build_of_sorted {l : List (K × V)} (h : Sorted l) : build l = l :=
  (sorted_build l).ext h (mem_build_iff h.functional)

/-- **The order of the entries does not matter** where no key has two values. -/
theorem build_perm {l l' : List (K × V)} (h : Functional l) (hperm : l.Perm l') :
    build l = build l' := by
  apply (sorted_build l).ext (sorted_build l')
  intro p
  rw [mem_build_iff h, mem_build_iff (h.perm hperm), hperm.mem_iff]

end SortedMap
