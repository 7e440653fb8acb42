import Mathlib.Data.List.Forall2
import Mathlib.Data.List.Nodup

/-!
Sequences of steps that may fail. A traversal succeeds exactly when every element
does, and its results correspond to its inputs one by one.

* `bind_eq_ok`: a sequence of two steps succeeds exactly when both do, as in any
  `Failing` monad.
* `mapM_eq_ok`: a traversal is its elements, in order.
* `exists_source`: a result of a traversal comes from some input.
* `Avoids`: a computation that fails in certain ways only.
-/

namespace Fallible

variable {α β ε : Type}

theorem bind_eq_ok {x : Except ε α} {f : α → Except ε β} {b : β} :
    (x >>= f) = .ok b ↔ ∃ a, x = .ok a ∧ f a = .ok b := by
  cases x with
  | error err => simp [bind, Except.bind]
  | ok a => simp [bind, Except.bind]

/-- Monads whose computations return one value or fail. -/
class Failing (m : Type → Type) [Monad m] : Prop where
  pure_inj {α : Type} {a b : α} : (pure a : m α) = pure b → a = b
  bind_eq_pure {α β : Type} {x : m α} {f : α → m β} {b : β} :
    (x >>= f) = pure b ↔ ∃ a, x = pure a ∧ f a = pure b

instance : Failing Option where
  pure_inj := Option.some.inj
  bind_eq_pure := Option.bind_eq_some_iff

instance : Failing (Except ε) where
  pure_inj := Except.ok.inj
  bind_eq_pure := bind_eq_ok

/-- Where it does not matter what the first step returns. -/
theorem exists_bind_iff {x : Except ε α} {f : α → Except ε β} {p : Prop}
    (hf : ∀ a, (∃ b, f a = .ok b) ↔ p) :
    (∃ b, (x >>= f) = .ok b) ↔ (∃ a, x = .ok a) ∧ p := by
  constructor
  · rintro ⟨b, hb⟩
    obtain ⟨a, ha, hfa⟩ := bind_eq_ok.mp hb
    exact ⟨⟨a, ha⟩, (hf a).mp ⟨b, hfa⟩⟩
  · rintro ⟨⟨a, ha⟩, hp⟩
    obtain ⟨b, hfa⟩ := (hf a).mpr hp
    exact ⟨b, bind_eq_ok.mpr ⟨a, ha, hfa⟩⟩

theorem map_eq_ok {x : Except ε α} {f : α → β} {b : β} :
    x.map f = .ok b ↔ ∃ a, x = .ok a ∧ f a = b := by
  cases x with
  | error err => simp [Except.map]
  | ok a => simp [Except.map]

@[simp] theorem mapError_eq_ok {ε' : Type} {x : Except ε α} {f : ε → ε'} {a : α} :
    x.mapError f = .ok a ↔ x = .ok a := by
  cases x <;> simp [Except.mapError]

/-- A check in front of a step. -/
theorem guard_eq_ok {p : Prop} [Decidable p] {err : ε} {x : Except ε α} {a : α} :
    (if p then .error err else x) = .ok a ↔ ¬ p ∧ x = .ok a := by
  by_cases hp : p
  · simp [hp]
  · simp [hp]

theorem mapM_eq_ok {f : α → Except ε β} {l : List α} {l' : List β} :
    l.mapM f = .ok l' ↔ List.Forall₂ (fun a b => f a = .ok b) l l' := by
  induction l generalizing l' with
  | nil =>
    rw [List.mapM_nil, List.forall₂_nil_left_iff]
    constructor
    · rintro ⟨⟩
      rfl
    · rintro rfl
      rfl
  | cons a l ih =>
    rw [List.mapM_cons, bind_eq_ok, List.forall₂_cons_left_iff]
    constructor
    · rintro ⟨b, hb, hrest⟩
      obtain ⟨bs, hbs, hcons⟩ := bind_eq_ok.mp hrest
      cases hcons
      exact ⟨b, bs, hb, ih.mp hbs, rfl⟩
    · rintro ⟨b, bs, hb, hbs, rfl⟩
      exact ⟨b, hb, bind_eq_ok.mpr ⟨bs, ih.mpr hbs, rfl⟩⟩

theorem exists_source {R : α → β → Prop} {l : List α} {l' : List β} (h : List.Forall₂ R l l')
    {b : β} (hb : b ∈ l') : ∃ a ∈ l, R a b := by
  induction h with
  | nil => cases hb
  | cons hab _ ih =>
    rcases List.mem_cons.mp hb with rfl | hb
    · exact ⟨_, List.mem_cons_self, hab⟩
    · obtain ⟨a, ha, hR⟩ := ih hb
      exact ⟨a, List.mem_cons_of_mem _ ha, hR⟩

/-- A relation that the first elements of the pairs decide. -/
theorem forall₂_iff_forall {R P : α → β → Prop} {Q : α → Prop} {l : List α} {l' : List β}
    (h : List.Forall₂ R l l') (hP : ∀ a b, R a b → (P a b ↔ Q a)) :
    List.Forall₂ P l l' ↔ ∀ a ∈ l, Q a := by
  induction h with
  | nil => simp
  | cons hab _ ih => rw [List.forall₂_cons, ih, hP _ _ hab, List.forall_mem_cons]

theorem exists_forall₂ {R : α → β → Prop} {l : List α} (h : ∀ a ∈ l, ∃ b, R a b) :
    ∃ l' : List β, List.Forall₂ R l l' := by
  induction l with
  | nil => exact ⟨[], .nil⟩
  | cons a l ih =>
    obtain ⟨b, hb⟩ := h a List.mem_cons_self
    obtain ⟨l', hl'⟩ := ih fun c hc => h c (List.mem_cons_of_mem a hc)
    exact ⟨b :: l', .cons hb hl'⟩

theorem exists_mapM_ok {f : α → Except ε β} {l : List α} :
    (∃ l', l.mapM f = .ok l') ↔ ∀ a ∈ l, ∃ b, f a = .ok b := by
  constructor
  · rintro ⟨l', h⟩ a ha
    obtain ⟨b, -, hb⟩ := exists_source (mapM_eq_ok.mp h).flip ha
    exact ⟨b, hb⟩
  · intro h
    obtain ⟨l', hl'⟩ := exists_forall₂ h
    exact ⟨l', mapM_eq_ok.mpr hl'⟩

theorem exists_error {x : Except ε α} (h : ¬ ∃ a, x = .ok a) : ∃ err, x = .error err := by
  cases x with
  | error err => exact ⟨err, rfl⟩
  | ok a => exact absurd ⟨a, rfl⟩ h

/-- A failure is none of the bad ones. -/
def Avoids (bad : ε → Prop) (x : Except ε α) : Prop := ∀ ⦃err⦄, x = .error err → ¬ bad err

namespace Avoids

variable {bad : ε → Prop}

theorem ok (a : α) : Avoids bad (.ok a) := by
  intro err h
  cases h

theorem error {err : ε} (h : ¬ bad err) : Avoids bad (.error err : Except ε α) := by
  intro err' heq
  cases heq
  exact h

theorem bind {x : Except ε α} {f : α → Except ε β} (hx : Avoids bad x)
    (hf : ∀ a, x = .ok a → Avoids bad (f a)) : Avoids bad (x >>= f) := by
  cases x with
  | error err => exact error (hx rfl)
  | ok a => exact hf a rfl

/-- A failure that comes from the first step only. -/
theorem bind_eq_error {err : ε} {x : Except ε α} {f : α → Except ε β}
    (hf : ∀ a, Avoids (· = err) (f a)) : (x >>= f) = .error err ↔ x = .error err := by
  cases x with
  | error err' => simp [Bind.bind, Except.bind]
  | ok a =>
    constructor
    · exact fun h => absurd rfl (hf a h)
    · rintro ⟨⟩

end Avoids

/-- An element is the only one with its key. -/
theorem filter_key_eq_singleton {κ : Type} [DecidableEq κ] {key : β → κ} {l : List β}
    (hkeys : (l.map key).Nodup) {b : β} (hb : b ∈ l) :
    (l.filter fun c => key c = key b) = [b] := by
  induction l with
  | nil => cases hb
  | cons c l ih =>
    rw [List.map_cons, List.nodup_cons] at hkeys
    rcases List.mem_cons.mp hb with rfl | hb
    · have hnone : ∀ d ∈ l, ¬ key d = key b := fun d hd heq =>
        hkeys.1 (heq ▸ List.mem_map_of_mem hd)
      simpa [List.filter_eq_nil_iff] using hnone
    · have hne : ¬ key c = key b := fun heq => hkeys.1 (heq ▸ List.mem_map_of_mem hb)
      rw [List.filter_cons_of_neg (by simpa using hne)]
      exact ih hkeys.2 hb

/-- Where no two results share a key, one input alone leads to a given key. -/
theorem filter_source_eq_singleton {κ : Type} [DecidableEq κ] {R : α → β → Prop} {l : List α}
    {l' : List β} (h : List.Forall₂ R l l') {key : β → κ} (hkeys : (l'.map key).Nodup)
    {p : α → Bool} {b : β} (hp : ∀ a c, R a c → (p a = true ↔ key c = key b)) (hb : b ∈ l') :
    ∃ a, l.filter p = [a] ∧ R a b := by
  have hfilter : List.Forall₂ R (l.filter p) (l'.filter fun c => key c = key b) :=
    List.rel_filter (fun a c hac => by simpa using hp a c hac) h
  rw [filter_key_eq_singleton hkeys hb] at hfilter
  obtain ⟨a, l, hab, hnil, hl⟩ := List.forall₂_cons_right_iff.mp hfilter
  cases hnil
  exact ⟨a, hl, hab⟩

end Fallible
