import Mathlib.Data.List.TakeWhile
import Mathlib.Data.Nat.Digits.Lemmas
import OracleGuard.Json.Grammar

/-!
Integers in decimal, as they are printed.

* `numberOf_integerText`: a printed integer is the token of that integer.
* `integerText_of_numberOf`: and an integer has no other token.
-/

namespace Json

open Wire

def digitByte (d : Nat) : UInt8 := UInt8.ofNat (0x30 + d)

def decimal (n : Nat) : Bytes :=
  if n = 0 then [ZERO] else (Nat.digits 10 n).reverse.map digitByte

/-- No text for a float. -/
def Number.integerText : Number → Option Bytes
  | .posInt n => some (decimal n.toNat)
  | .negInt n _ _ => some (MINUS :: decimal n.natAbs)
  | .float _ => none

theorem isDigit_digitByte {d : Nat} (hd : d < 10) : isDigit (digitByte d) = true := by
  have hall : ∀ d : Fin 10, isDigit (digitByte d) = true := by decide
  exact hall ⟨d, hd⟩

theorem toNat_digitByte {d : Nat} (hd : d < 10) : (digitByte d).toNat - ZERO.toNat = d := by
  have hall : ∀ d : Fin 10, (digitByte d).toNat - ZERO.toNat = d := by decide
  exact hall ⟨d, hd⟩

theorem digitByte_ne_zero {d : Nat} (hd : d < 10) (hzero : d ≠ 0) : digitByte d ≠ ZERO := by
  have hall : ∀ d : Fin 10, d.val ≠ 0 → digitByte d ≠ ZERO := by decide
  exact hall ⟨d, hd⟩ hzero

theorem isDigit_of_mem_decimal {n : Nat} {c : UInt8} (hc : c ∈ decimal n) : isDigit c = true := by
  unfold decimal at hc
  split at hc
  · rw [List.mem_singleton.mp hc]
    decide
  · obtain ⟨d, hd, rfl⟩ := List.mem_map.mp hc
    exact isDigit_digitByte (Nat.digits_lt_base (by decide) (List.mem_reverse.mp hd))

theorem digitsValue_decimal (n : Nat) : digitsValue (decimal n) = n := by
  unfold decimal
  split
  next hzero => rw [hzero]; rfl
  next hzero =>
    have hdigits : ∀ d ∈ Nat.digits 10 n, d < 10 := fun d hd => Nat.digits_lt_base (by decide) hd
    have hstep : ∀ d ∈ Nat.digits 10 n, ∀ m : Nat,
        10 * m + ((digitByte d).toNat - ZERO.toNat) = d + 10 * m := by
      intro d hd m
      rw [toNat_digitByte (hdigits d hd), Nat.add_comm]
    calc digitsValue ((Nat.digits 10 n).reverse.map digitByte)
        = (Nat.digits 10 n).foldr (fun d m => 10 * m + ((digitByte d).toNat - ZERO.toNat)) 0 := by
          rw [digitsValue, List.foldl_map, List.foldl_reverse]
      _ = (Nat.digits 10 n).foldr (fun d m => d + 10 * m) 0 :=
          List.foldr_ext _ _ 0 hstep
      _ = Nat.ofDigits 10 (Nat.digits 10 n) := (Nat.ofDigits_eq_foldr 10 _).symm
      _ = n := Nat.ofDigits_digits 10 n

theorem isInteger_decimal (n : Nat) : isInteger (decimal n) = true := by
  have hall : ∀ c ∈ decimal n, isDigit c = true := fun _ hc => isDigit_of_mem_decimal hc
  unfold decimal at hall ⊢
  split
  next hzero => rfl
  next hzero =>
    rw [if_neg hzero] at hall
    have hne : Nat.digits 10 n ≠ [] := Nat.digits_ne_nil_iff_ne_zero.mpr hzero
    -- the first digit is the last one that is computed
    have hlast : digitByte ((Nat.digits 10 n).getLast hne) ≠ ZERO :=
      digitByte_ne_zero (Nat.digits_lt_base (by decide) (List.getLast_mem hne))
        (Nat.getLast_digit_ne_zero 10 hzero)
    have hhead : ((Nat.digits 10 n).reverse.map digitByte).head? ≠ some ZERO := by
      rw [List.head?_map, List.head?_reverse, List.getLast?_eq_some_getLast hne, Option.map_some]
      exact fun heq => hlast (Option.some_inj.mp heq)
    have hdigits : isDigits ((Nat.digits 10 n).reverse.map digitByte) = true := by
      rw [isDigits, List.all_eq_true.mpr hall]
      simp [hne]
    rw [isInteger, hdigits, decide_eq_true hhead]
    simp

/-- The number that a digit stands for. -/
theorem exists_digitByte {c : UInt8} (hc : isDigit c = true) :
    ∃ d < 10, c = digitByte d ∧ c.toNat - ZERO.toNat = d := by
  simp only [isDigit, Bool.and_eq_true, decide_eq_true_eq, UInt8.le_iff_toNat_le] at hc
  have hlow : 48 ≤ c.toNat := hc.1
  have hhigh : c.toNat ≤ 57 := hc.2
  have hc : c = digitByte (c.toNat - 48) := by
    apply UInt8.toNat_inj.mp
    rw [digitByte, UInt8.toNat_ofNat', Nat.mod_eq_of_lt (by omega)]
    omega
  exact ⟨c.toNat - 48, by omega, hc, rfl⟩

/-- Digits without leading zeros are those of their value. -/
theorem decimal_digitsValue {digits : Bytes} (h : isInteger digits = true) :
    decimal (digitsValue digits) = digits := by
  rw [isInteger, Bool.and_eq_true, isDigits, Bool.and_eq_true, List.all_eq_true] at h
  obtain ⟨⟨hne, hall⟩, hzero⟩ := h
  have hne : digits ≠ [] := by
    rintro rfl
    cases hne
  rw [Bool.or_eq_true, decide_eq_true_eq, decide_eq_true_eq] at hzero
  rcases hzero with rfl | hhead
  · rfl
  · let values := (digits.map fun c => c.toNat - ZERO.toNat).reverse
    have hvalue : digitsValue digits = Nat.ofDigits 10 values := by
      rw [digitsValue, Nat.ofDigits_eq_foldr, List.foldr_reverse, List.foldl_map]
      congr 1
      funext n c
      exact Nat.add_comm _ _
    have hlt : ∀ d ∈ values, d < 10 := by
      intro d hd
      obtain ⟨c, hc, rfl⟩ := List.mem_map.mp (List.mem_reverse.mp hd)
      obtain ⟨d, hd, -, rfl⟩ := exists_digitByte (hall c hc)
      exact hd
    have hlast : ∀ h : values ≠ [], values.getLast h ≠ 0 := by
      intro hvalues hlast
      obtain ⟨c, rest, rfl⟩ := List.exists_cons_of_ne_nil hne
      have hc : c.toNat - ZERO.toNat = 0 := by simpa [values] using hlast
      obtain ⟨d, -, rfl, hd⟩ := exists_digitByte (hall c List.mem_cons_self)
      rw [hd] at hc
      subst hc
      exact hhead rfl
    have hdigits : Nat.digits 10 (digitsValue digits) = values := by
      rw [hvalue, Nat.digits_ofDigits 10 (by decide) values hlt hlast]
    have hpos : digitsValue digits ≠ 0 := by
      intro heq
      rw [heq, Nat.digits_zero] at hdigits
      exact hne (by simpa [values] using hdigits.symm)
    rw [decimal, if_neg hpos, hdigits, List.reverse_reverse, List.map_map]
    refine (List.map_congr_left fun c hc => ?_).trans (List.map_id _)
    obtain ⟨d, -, hc, hd⟩ := exists_digitByte (hall c hc)
    show digitByte (c.toNat - ZERO.toNat) = c
    rw [hd, ← hc]

theorem unsignedOf_decimal (float : Option UInt64) (negative : Bool) {n : Nat} {number : Number}
    (h : integerOf negative n = some number) :
    unsignedOf float negative (decimal n) = some number := by
  have htake : (decimal n).takeWhile isDigit = decimal n :=
    List.takeWhile_eq_self_iff.mpr fun _ hc => isDigit_of_mem_decimal hc
  have hdrop : (decimal n).dropWhile isDigit = [] :=
    List.dropWhile_eq_nil_iff.mpr fun _ hc => isDigit_of_mem_decimal hc
  simp only [unsignedOf, htake, hdrop, isInteger_decimal, fractionEnds, Bool.and_self, if_true,
    digitsValue_decimal, h]

theorem decimal_ne_minus (n : Nat) : ∀ c ∈ decimal n, c ≠ MINUS := by
  rintro c hc rfl
  have hdigit := isDigit_of_mem_decimal hc
  revert hdigit
  decide

theorem isDigit_or_minus_of_mem_integerText {n : Number} {text : Bytes}
    (h : n.integerText = some text) {c : UInt8} (hc : c ∈ text) :
    isDigit c = true ∨ c = MINUS := by
  cases n with
  | posInt n =>
    cases h
    exact .inl (isDigit_of_mem_decimal hc)
  | negInt n _ _ =>
    cases h
    rcases List.mem_cons.mp hc with rfl | hc
    · exact .inr rfl
    · exact .inl (isDigit_of_mem_decimal hc)
  | float _ => cases h

theorem isNumberByte_of_isDigit {c : UInt8} (hc : isDigit c = true) : isNumberByte c = true := by
  simp [isNumberByte, hc]

/-- **A printed integer is its own token.** -/
theorem numberOf_integerText (float : Bytes → Option UInt64) {n : Number} {text : Bytes}
    (h : n.integerText = some text) :
    numberOf float text = some n ∧ ∀ b ∈ text, isNumberByte b := by
  cases n with
  | float _ => cases h
  | posInt n =>
    cases h
    have hinteger : integerOf false n.toNat = some (.posInt n) := by
      simp [integerOf, n.toNat_lt]
    refine ⟨?_, fun c hc => isNumberByte_of_isDigit (isDigit_of_mem_decimal hc)⟩
    have hread := unsignedOf_decimal (float (decimal n.toNat)) false hinteger
    cases htext : decimal n.toNat with
    | nil =>
      have hinteger := isInteger_decimal n.toNat
      rw [htext] at hinteger
      cases hinteger
    | cons c rest =>
      have hminus : c ≠ MINUS := decimal_ne_minus n.toNat c (htext ▸ List.mem_cons_self)
      rw [numberOf, if_neg hminus, ← htext]
      exact hread
  | negInt n hneg hmin =>
    cases h
    have hnat : -(n.natAbs : Int) = n := by omega
    have hinteger : integerOf true n.natAbs = some (.negInt n hneg hmin) := by
      have hbound : 0 < n.natAbs ∧ n.natAbs ≤ 2 ^ 63 := by
        unfold INT_MIN at hmin
        omega
      rw [integerOf, if_pos rfl, dif_pos hbound]
      congr 2
    refine ⟨?_, List.forall_mem_cons.mpr ⟨rfl, fun c hc =>
      isNumberByte_of_isDigit (isDigit_of_mem_decimal hc)⟩⟩
    rw [numberOf, if_pos rfl]
    exact unsignedOf_decimal _ true hinteger

theorem unsignedOf_eq_some {float : Option UInt64} {negative : Bool} {token : Bytes} {n : Number}
    (h : unsignedOf float negative token = some n) :
    n.IsFloat ∨ isInteger token = true ∧ integerOf negative (digitsValue token) = some n := by
  have htoken : token.takeWhile isDigit ++ token.dropWhile isDigit = token :=
    List.takeWhile_append_dropWhile
  simp only [unsignedOf] at h
  split at h
  next hvalid =>
    split at h
    next n' hrest hinteger =>
      rw [hrest, List.append_nil] at htoken
      rw [htoken] at hvalid hinteger
      exact .inr ⟨(Bool.and_eq_true _ _ ▸ hvalid).1, hinteger.trans h⟩
    next =>
      obtain ⟨bits, -, rfl⟩ := Option.map_eq_some_iff.mp h
      exact .inl trivial
  · cases h

theorem integerText_of_integerOf {negative : Bool} {m : Nat} {n : Number}
    (h : integerOf negative m = some n) :
    n.integerText = some (if negative then MINUS :: decimal m else decimal m) := by
  cases negative with
  | false =>
    obtain ⟨hm, heq⟩ : m < 2 ^ 64 ∧ Number.posInt (UInt64.ofNat m) = n := by
      simpa [integerOf] using h
    rw [← heq, Number.integerText, UInt64.toNat_ofNat', Nat.mod_eq_of_lt hm]
    rfl
  | true =>
    rw [integerOf, if_pos rfl] at h
    split at h
    next hm =>
      cases h
      show some (MINUS :: decimal (-(m : Int)).natAbs) = _
      rw [Int.natAbs_neg, Int.natAbs_natCast]
      rfl
    · cases h

/-- **A token is that of a float, or the text of its integer.** -/
theorem integerText_of_numberOf {float : Bytes → Option UInt64} {token : Bytes} {n : Number}
    (h : numberOf float token = some n) : n.IsFloat ∨ n.integerText = some token := by
  cases token with
  | nil => cases h
  | cons b rest =>
    rw [numberOf] at h
    split at h
    next hminus =>
      refine (unsignedOf_eq_some h).imp_right fun ⟨hdigits, hinteger⟩ => ?_
      rw [integerText_of_integerOf hinteger, if_pos rfl, decimal_digitsValue hdigits, hminus]
    next =>
      refine (unsignedOf_eq_some h).imp_right fun ⟨hdigits, hinteger⟩ => ?_
      rw [integerText_of_integerOf hinteger, decimal_digitsValue hdigits]
      rfl

theorem NumberToken.written {S : Type} (lex : Lexicon S) {n : Number} {text : Bytes}
    (h : n.integerText = some text) :
    ∃ token : NumberToken lex, token.text = text ∧ token.value = n :=
  ⟨⟨text, n, (numberOf_integerText lex.float h).1, (numberOf_integerText lex.float h).2⟩, rfl, rfl⟩

end Json
