import OracleGuard.Fallible

/-!
Command lines of flags that take one value each.

* `scan_eq_ok`: a line that is accepted is a list of settings, each of them accepted.
* `scan_eq_error`: a line that is not accepted has one place where the loop stops.
* `scan_accepted`: where each setting is put on top of what is filled in, so is the line.
-/

namespace Flags

open Fallible

variable {σ ε α : Type}

/-- What a flag does: it reads the next word into an update, or it ends the run. -/
inductive Flag (σ ε : Type) where
  | value (missing : ε) (read : String → Except ε (σ → σ))
  | stop (err : ε)

namespace Flag

/-- The flag at the end of the line. -/
def alone : Flag σ ε → ε
  | value missing _ => missing
  | stop err => err

def update : Flag σ ε → String → Except ε (σ → σ)
  | value _ read, word => read word
  | stop err, _ => .error err

end Flag

variable (flag : String → Flag σ ε)

/-- The loop over the words. -/
def scan : List String → σ → Except ε σ
  | [], s => .ok s
  | [name], _ => .error (flag name).alone
  | name :: word :: rest, s => do
    let update ← (flag name).update word
    scan rest (update s)

/-- The words of a list of settings. -/
def words : List (String × String) → List String
  | [] => []
  | (name, word) :: settings => name :: word :: words settings

/-- The last word that a flag is set to. -/
def last (settings : List (String × String)) (name : String) : Option String :=
  settings.reverse.lookup name

/-- A setting and its update. -/
def Updates (setting : String × String) (update : σ → σ) : Prop :=
  (flag setting.1).update setting.2 = .ok update

variable {flag}

theorem scan_eq_ok {args : List String} {s t : σ} :
    scan flag args s = .ok t ↔ ∃ settings updates, args = words settings ∧
      List.Forall₂ (Updates flag) settings updates ∧
      updates.foldl (fun s update => update s) s = t := by
  constructor
  · intro h
    induction args, s using scan.induct with
    | case1 s =>
      cases h
      exact ⟨[], [], rfl, .nil, rfl⟩
    | case2 name s => cases h
    | case3 name word rest s ih =>
      rw [scan, bind_eq_ok] at h
      obtain ⟨update, hupdate, h⟩ := h
      obtain ⟨settings, updates, rfl, hall, hfold⟩ := ih update h
      exact ⟨(name, word) :: settings, update :: updates, rfl, .cons hupdate hall, hfold⟩
  · rintro ⟨settings, updates, rfl, hall, hfold⟩
    induction hall generalizing s with
    | nil =>
      cases hfold
      rfl
    | @cons setting update settings updates hupdate hall ih =>
      rw [words, scan, bind_eq_ok]
      exact ⟨update, hupdate, ih hfold⟩

/-- Where the loop stops. -/
theorem scan_eq_error {args : List String} {s : σ} {err : ε} :
    scan flag args s = .error err ↔ ∃ settings updates name rest,
      args = words settings ++ name :: rest ∧ List.Forall₂ (Updates flag) settings updates ∧
        match rest with
        | [] => (flag name).alone = err
        | word :: _ => (flag name).update word = .error err := by
  constructor
  · intro h
    induction args, s using scan.induct with
    | case1 s => cases h
    | case2 name s =>
      cases h
      exact ⟨[], [], name, [], rfl, .nil, rfl⟩
    | case3 name word rest s ih =>
      rw [scan] at h
      cases hupdate : (flag name).update word with
      | error err' =>
        rw [hupdate] at h
        cases h
        exact ⟨[], [], name, word :: rest, rfl, .nil, hupdate⟩
      | ok update =>
        rw [hupdate] at h
        obtain ⟨settings, updates, last, tail, rfl, hall, hstop⟩ := ih update h
        exact ⟨(name, word) :: settings, update :: updates, last, tail, rfl,
          .cons hupdate hall, hstop⟩
  · rintro ⟨settings, updates, name, rest, rfl, hall, hstop⟩
    induction hall generalizing s with
    | nil =>
      cases rest with
      | nil => exact congrArg Except.error hstop
      | cons word rest =>
        rw [words, List.nil_append, scan, hstop]
        rfl
    | @cons setting update settings updates hupdate hall ih =>
      rw [words, List.cons_append, List.cons_append, scan, hupdate]
      exact ih

/-- Settings that are accepted one by one are accepted in a row. -/
theorem exists_updates {Accepted : String × String → Prop}
    (haccepted : ∀ setting, (∃ update, Updates flag setting update) ↔ Accepted setting)
    {settings : List (String × String)} :
    (∃ updates, List.Forall₂ (Updates flag) settings updates) ↔
      ∀ setting ∈ settings, Accepted setting := by
  constructor
  · rintro ⟨updates, hall⟩ setting hmem
    obtain ⟨update, -, hupdate⟩ := exists_source hall.flip hmem
    exact (haccepted setting).mp ⟨update, hupdate⟩
  · intro hall
    exact exists_forall₂ fun setting hmem => (haccepted setting).mpr (hall setting hmem)

@[simp] theorem last_nil (name : String) : last [] name = none := rfl

/-- A later setting hides the earlier ones of its flag. -/
@[simp] theorem last_snoc (settings : List (String × String)) (setting : String × String)
    (name : String) : last (settings ++ [setting]) name =
      if setting.1 = name then some setting.2 else last settings name := by
  unfold last
  rw [List.reverse_append, List.reverse_singleton, List.singleton_append, List.lookup_cons]
  by_cases hname : setting.1 = name
  · simp [hname]
  · have hother : (name == setting.1) = false := by simpa using Ne.symm hname
    rw [hother, if_neg hname]

theorem mem_of_last {settings : List (String × String)} {name word : String}
    (h : last settings name = some word) : (name, word) ∈ settings := by
  obtain ⟨later, earlier, hsplit, -⟩ := List.lookup_eq_some_iff.mp h
  rw [← List.mem_reverse, hsplit]
  simp

section Filled

variable {s : σ} {filled : List (String × String) → σ} (hnil : filled [] = s)
  (hsnoc : ∀ {settings setting update}, Updates flag setting update →
    filled (settings ++ [setting]) = update (filled settings))
include hnil hsnoc

/-- The updates in reverse, the last one first. -/
theorem foldr_updates {settings : List (String × String)} {updates : List (σ → σ)}
    (hall : List.Forall₂ (Updates flag) settings updates) :
    updates.foldr (fun update s => update s) s = filled settings.reverse := by
  induction hall with
  | nil => exact hnil.symm
  | cons hupdate hall ih => rw [List.foldr_cons, ih, List.reverse_cons, hsnoc hupdate]

theorem foldl_updates {settings : List (String × String)} {updates : List (σ → σ)}
    (hall : List.Forall₂ (Updates flag) settings updates) :
    updates.foldl (fun s update => update s) s = filled settings := by
  have hreverse := foldr_updates hnil hsnoc (List.forall₂_reverse_iff.mpr hall)
  rwa [List.foldr_reverse, List.reverse_reverse] at hreverse

/-- **The lines that are accepted, and what they fill in.** -/
theorem scan_accepted {Accepted : String × String → Prop}
    (haccepted : ∀ setting, (∃ update, Updates flag setting update) ↔ Accepted setting)
    {args : List String} {t : σ} :
    scan flag args s = .ok t ↔ ∃ settings, args = words settings ∧
      (∀ setting ∈ settings, Accepted setting) ∧ filled settings = t := by
  rw [scan_eq_ok]
  constructor
  · rintro ⟨settings, updates, hargs, hall, hfold⟩
    exact ⟨settings, hargs, (exists_updates haccepted).mp ⟨updates, hall⟩,
      (foldl_updates hnil hsnoc hall).symm.trans hfold⟩
  · rintro ⟨settings, hargs, hall, ht⟩
    obtain ⟨updates, hupdates⟩ := (exists_updates haccepted).mpr hall
    exact ⟨settings, updates, hargs, hupdates, (foldl_updates hnil hsnoc hupdates).trans ht⟩

end Filled

end Flags
