import OracleGuard.Json.Decimal
import OracleGuard.Json.Rearrange

/-!
The floats of a document and those of its value.

* `NumberToken.isFloat_of_pointed`: a point or an exponent makes a float.
* `Doc.keepsFloat_iff`: the value holds a float where a member that is not repeated
  behind it does.
-/

namespace Json

open Wire

/-- The value holds a float, at any depth. -/
def Tree.HasFloat {S : Type} : {k : Kind} → Tree S k → Prop
  | _, .number n => n.IsFloat
  | _, .array items => items.HasFloat
  | _, .object members => members.HasFloat
  | _, .cons value rest => value.HasFloat ∨ rest.HasFloat
  | _, .entry _ value rest => value.HasFloat ∨ rest.HasFloat
  | _, _ => False

theorem Tree.hasFloat_ofItems {S : Type} (l : List (Tree S .value)) :
    (ofItems l).HasFloat ↔ ∃ value ∈ l, value.HasFloat := by
  induction l with
  | nil => simp [ofItems, HasFloat]
  | cons value l ih => simp [ofItems, HasFloat, ih]

theorem Tree.hasFloat_ofMembers {S : Type} (l : List (S × Tree S .value)) :
    (ofMembers l).HasFloat ↔ ∃ p ∈ l, p.2.HasFloat := by
  induction l with
  | nil => simp [ofMembers, HasFloat]
  | cons p l ih => simp only [ofMembers, HasFloat, ih, List.mem_cons, exists_eq_or_imp]

section Floats

variable {S : Type} {lex : Lexicon S}

/-- Written with a decimal point or an exponent. -/
def NumberToken.Pointed (token : NumberToken lex) : Prop :=
  ∃ b ∈ token.text, b = POINT ∨ isExponent b = true

/-- A point or an exponent in some number, at any depth. -/
def Doc.HasPointed : {k : Kind} → Doc lex k → Prop
  | _, number token => token.Pointed
  | _, array _ items => items.HasPointed
  | _, object _ members => members.HasPointed
  | _, cons _ value _ rest => value.HasPointed ∨ rest.HasPointed
  | _, entry _ _ _ _ value _ rest => value.HasPointed ∨ rest.HasPointed
  | _, _ => False

/-- A float that no repeated name hides: a member counts where no later member of its
object has its name. -/
def Doc.KeepsFloat : {k : Kind} → Doc lex k → Prop
  | _, number token => token.value.IsFloat
  | _, array _ items => items.KeepsFloat
  | _, object _ members => members.KeepsFloat
  | _, cons _ value _ rest => value.KeepsFloat ∨ rest.KeepsFloat
  | _, entry _ key _ _ value _ rest =>
    (value.KeepsFloat ∧ ∀ e ∈ rest.entries, e.key.value ≠ key.value) ∨ rest.KeepsFloat
  | _, _ => False

/-- **A point or an exponent makes a float.** -/
theorem NumberToken.isFloat_of_pointed {token : NumberToken lex} (h : token.Pointed) :
    token.value.IsFloat := by
  obtain ⟨b, hb, hpoint⟩ := h
  have hother : isDigit b = false ∧ b ≠ MINUS := by
    rcases hpoint with rfl | hexponent
    · decide
    · rw [isExponent, Bool.or_eq_true, decide_eq_true_eq, decide_eq_true_eq] at hexponent
      rcases hexponent with rfl | rfl <;> decide
  refine (integerText_of_numberOf token.number).resolve_right fun htext => ?_
  have hdigit := isDigit_or_minus_of_mem_integerText htext hb
  simp [hother] at hdigit

/-- Without repeated names nothing is hidden. -/
theorem Doc.Distinct.keepsFloat {k : Kind} {d : Doc lex k} (hd : d.Distinct)
    (h : d.HasPointed) : d.KeepsFloat := by
  induction d with
  | null | bool _ | string _ | nil | empty => exact h
  | number token => exact NumberToken.isFloat_of_pointed h
  | array _ items ih => exact ih hd h
  | object _ members ih => exact ih hd h
  | cons _ value _ rest ih ih' => exact h.imp (ih hd.1) (ih' hd.2)
  | entry _ key _ _ value _ rest ih ih' =>
    exact h.imp (fun hvalue => ⟨ih hd.1 hvalue, hd.2.2⟩) (ih' hd.2.1)

variable [LinearOrder S]

/-- The floats among the members that are kept. -/
def Meaning.HasFloat : {k : Kind} → Meaning S k → Prop
  | .value, value => Tree.HasFloat value
  | .items, items => ∃ value ∈ items, Tree.HasFloat value
  | .members, members => ∃ p ∈ SortedMap.build members, Tree.HasFloat p.2

/-- **What a document keeps is what its value holds.** -/
theorem Doc.keepsFloat_iff {k : Kind} (d : Doc lex k) :
    d.KeepsFloat ↔ Meaning.HasFloat d.denote := by
  induction d with
  | null | bool _ | number _ | string _ => exact Iff.rfl
  | array _ items ih => exact ih.trans (Tree.hasFloat_ofItems _).symm
  | object _ members ih => exact ih.trans (Tree.hasFloat_ofMembers _).symm
  | nil => simp [KeepsFloat, Meaning.HasFloat, denote]
  | cons _ value _ rest ih ih' =>
    rw [KeepsFloat, ih, ih']
    simp [Meaning.HasFloat, denote]
  | empty => simp [KeepsFloat, Meaning.HasFloat, denote, SortedMap.build]
  | entry _ key _ _ value _ rest ih ih' =>
    have hrest : (∀ e ∈ rest.entries, e.key.value ≠ key.value) ↔
        ∀ r ∈ rest.denote, r.1 ≠ key.value := by
      rw [denote_members, List.forall_mem_map]
      exact Iff.rfl
    rw [KeepsFloat, ih, ih', hrest]
    simp only [Meaning.HasFloat, denote, SortedMap.mem_build_cons]
    constructor
    · rintro (⟨hvalue, hlast⟩ | ⟨p, hp, hfloat⟩)
      · exact ⟨_, .inr ⟨rfl, hlast⟩, hvalue⟩
      · exact ⟨p, .inl hp, hfloat⟩
    · rintro ⟨p, hp | ⟨rfl, hlast⟩, hfloat⟩
      · exact .inr ⟨p, hp, hfloat⟩
      · exact .inl ⟨hfloat, hlast⟩

end Floats

end Json
