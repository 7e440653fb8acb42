import Mathlib.Data.List.Infix

/-!
Sets of words in which no word is a proper prefix of another one.

* `PrefixFree.not_take` and `PrefixFree.not_append`: a word of the set is no longer
  one when it is cut short, or when something follows it.
* `PrefixFree.of_length`: it is enough that a word tells its own length.
-/

namespace Wire

variable {α : Type}

def PrefixFree (accepts : List α → Prop) : Prop :=
  ∀ ⦃w w'⦄, accepts w → accepts w' → w <+: w' → w = w'

namespace PrefixFree

variable {accepts : List α → Prop}

theorem not_append (h : PrefixFree accepts) {w rest : List α} (hw : accepts w)
    (hrest : rest ≠ []) : ¬ accepts (w ++ rest) := by
  intro hlong
  have heq := h hw hlong (List.prefix_append w rest)
  exact hrest (List.self_eq_append_right.mp heq)

theorem not_take (h : PrefixFree accepts) {w : List α} (hw : accepts w) {n : Nat}
    (hn : n < w.length) : ¬ accepts (w.take n) := by
  intro hshort
  have heq := h hshort hw (List.take_prefix n w)
  have hlength := congrArg List.length heq
  rw [List.length_take_of_le hn.le] at hlength
  omega

/-- The length of a word is told by its first `n` elements. -/
theorem of_length {n : Nat} {length : List α → Nat}
    (hlength : ∀ w, accepts w → n ≤ w.length ∧ w.length = length (w.take n)) :
    PrefixFree accepts := by
  intro w w' hw hw' hprefix
  obtain ⟨hn, hlen⟩ := hlength w hw
  obtain ⟨-, hlen'⟩ := hlength w' hw'
  have hhead : w.take n = w'.take n := by
    obtain ⟨rest, rfl⟩ := hprefix
    rw [List.take_append_of_le_length hn]
  exact hprefix.eq_of_length (by rw [hlen, hlen', hhead])

end PrefixFree

end Wire
