import Mathlib.Init

/-!
Calls that return or raise, on a state in which a log can be seen.

* `Keeps.bind`: calls that keep the log, one behind the other.
* `Keeps.bind_sends`: in front of a call that sends one entry, which may have arrived
  when the call raises.
-/

namespace Raising

variable {σ ε τ α β : Type}

abbrev Call (σ ε α : Type) := ExceptT ε (StateM σ) α

/-- Whatever happens, the log stays as it is. -/
def Keeps (log : σ → List τ) (call : Call σ ε α) (returned : α → Prop) : Prop :=
  ∀ s, match call.run.run s with
    | (.ok a, s') => log s' = log s ∧ returned a
    | (.error _, s') => log s' = log s

/-- A call that returns has sent one entry; of one that raises it is not known. -/
def Sends (log : σ → List τ) (call : Call σ ε α) (returned : α → τ → Prop) (raised : τ → Prop) :
    Prop :=
  ∀ s, match call.run.run s with
    | (.ok a, s') => ∃ entry, log s' = log s ++ [entry] ∧ returned a entry
    | (.error _, s') => log s' = log s ∨ ∃ entry, log s' = log s ++ [entry] ∧ raised entry

variable {log : σ → List τ} {call : Call σ ε α} {next : α → Call σ ε β}

/-- The first call raises, or the second one goes on from where it returns. -/
theorem run_bind_cases (call : Call σ ε α) (next : α → Call σ ε β) (s : σ) :
    (∃ err s', call.run.run s = (.error err, s') ∧
      (call >>= next).run.run s = (.error err, s')) ∨
    ∃ a s', call.run.run s = (.ok a, s') ∧
      (call >>= next).run.run s = (next a).run.run s' := by
  simp only [ExceptT.run_bind, StateT.run_bind]
  cases call.run.run s with
  | mk result s' =>
    cases result with
    | error err => exact .inl ⟨err, s', rfl, rfl⟩
    | ok a => exact .inr ⟨a, s', rfl, rfl⟩

theorem Keeps.ofExcept (log : σ → List τ) (x : Except ε α) :
    Keeps log (liftM x : Call σ ε α) fun a => x = .ok a := by
  intro s
  cases x with
  | ok a => exact ⟨rfl, rfl⟩
  | error err => exact rfl

theorem Keeps.bind {returned : α → Prop} {returned' : β → Prop}
    (hcall : Keeps log call returned)
    (hnext : ∀ a, returned a → Keeps log (next a) returned') :
    Keeps log (call >>= next) returned' := by
  intro s
  have hfirst := hcall s
  rcases run_bind_cases call next s with ⟨err, s', hrun, hbind⟩ | ⟨a, s', hrun, hbind⟩
  · rw [hrun] at hfirst
    rw [hbind]
    exact hfirst
  · rw [hrun] at hfirst
    have hsecond := hnext a hfirst.2 s'
    rw [hfirst.1] at hsecond
    rw [hbind]
    exact hsecond

theorem Keeps.bind_sends {returned : α → Prop} {returned' : β → τ → Prop} {raised : τ → Prop}
    (hcall : Keeps log call returned)
    (hnext : ∀ a, returned a → Sends log (next a) returned' raised) :
    Sends log (call >>= next) returned' raised := by
  intro s
  have hfirst := hcall s
  rcases run_bind_cases call next s with ⟨err, s', hrun, hbind⟩ | ⟨a, s', hrun, hbind⟩
  · rw [hrun] at hfirst
    rw [hbind]
    exact .inl hfirst
  · rw [hrun] at hfirst
    have hsecond := hnext a hfirst.2 s'
    rw [hfirst.1] at hsecond
    rw [hbind]
    exact hsecond

/-- What is computed afterwards cannot raise any more. -/
theorem Sends.bind_pure {f : α → β} {returned : α → τ → Prop} {returned' : β → τ → Prop}
    {raised raised' : τ → Prop} (hcall : Sends log call returned raised)
    (hreturned : ∀ a entry, returned a entry → returned' (f a) entry)
    (hraised : ∀ entry, raised entry → raised' entry) :
    Sends log (call >>= fun a => pure (f a)) returned' raised' := by
  intro s
  have hfirst := hcall s
  rcases run_bind_cases call (fun a => pure (f a)) s with
    ⟨err, s', hrun, hbind⟩ | ⟨a, s', hrun, hbind⟩
  · rw [hrun] at hfirst
    rw [hbind]
    rcases hfirst with hlog | ⟨entry, hlog, hentry⟩
    · exact .inl hlog
    · exact .inr ⟨entry, hlog, hraised entry hentry⟩
  · rw [hrun] at hfirst
    obtain ⟨entry, hlog, hentry⟩ := hfirst
    rw [hbind]
    exact ⟨entry, hlog, hreturned a entry hentry⟩

end Raising
