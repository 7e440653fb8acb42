import Mathlib.Data.List.DropRight

/-!
Trimming a list at both ends.

* `Trim.trim_eq_iff`: what is left of a list without its ends, where none of it would
  have been dropped.
* `Trim.trimEnd_append`: more of what is dropped at the end is dropped as well.
-/

namespace Trim

variable {α : Type} {p : α → Bool}

def trimEnd (p : α → Bool) (l : List α) : List α := l.rdropWhile p

def trim (p : α → Bool) (l : List α) : List α := trimEnd p (l.dropWhile p)

theorem dropWhile_append {dropped kept : List α} (hdropped : ∀ a ∈ dropped, p a = true)
    (hkept : ∀ a ∈ kept.head?, p a = false) : (dropped ++ kept).dropWhile p = kept := by
  rw [List.dropWhile_append_of_pos hdropped]
  cases kept with
  | nil => rfl
  | cons a kept => exact List.dropWhile_cons_of_neg (by simp [hkept a rfl])

theorem trimEnd_append {l dropped : List α} (hdropped : ∀ a ∈ dropped, p a = true) :
    trimEnd p (l ++ dropped) = trimEnd p l := by
  induction dropped using List.reverseRecOn with
  | nil => rw [List.append_nil]
  | append_singleton dropped a ih =>
    rw [← List.append_assoc, trimEnd, List.rdropWhile_concat_pos _ _ _ (hdropped a (by simp))]
    exact ih fun b hb => hdropped b (by simp [hb])

theorem exists_trimEnd (p : α → Bool) (l : List α) :
    ∃ dropped, (∀ a ∈ dropped, p a = true) ∧ l = trimEnd p l ++ dropped :=
  ⟨l.rtakeWhile p, fun _ => List.mem_rtakeWhile_imp, (List.rdropWhile_append_rtakeWhile ..).symm⟩

/-- **Trimming.** -/
theorem trim_eq_iff {l kept : List α} (hne : kept ≠ []) (hkept : ∀ a ∈ kept, p a = false) :
    trim p l = kept ↔ ∃ before after, (∀ a ∈ before, p a = true) ∧ (∀ a ∈ after, p a = true) ∧
      l = before ++ (kept ++ after) := by
  constructor
  · rintro rfl
    obtain ⟨after, hafter, hl⟩ := exists_trimEnd p (l.dropWhile p)
    refine ⟨l.takeWhile p, after, fun a => List.mem_takeWhile_imp, hafter, ?_⟩
    rw [trim, ← hl, List.takeWhile_append_dropWhile]
  · rintro ⟨before, after, hbefore, hafter, rfl⟩
    have hhead : ∀ a ∈ (kept ++ after).head?, p a = false := by
      intro a ha
      rw [List.head?_append_of_ne_nil _ hne] at ha
      exact hkept a (List.mem_of_head? ha)
    rw [trim, dropWhile_append hbefore hhead, trimEnd_append hafter, trimEnd,
      List.rdropWhile_eq_self_iff]
    intro hkept'
    simp [hkept _ (List.getLast_mem hkept')]

end Trim
