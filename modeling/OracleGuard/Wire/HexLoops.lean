import OracleGuard.Fallible
import OracleGuard.Wire.Hex

/-!
Loops over the bytes of hexadecimal text, in any monad of failing computations.

* `decodeChunks_utf8`: a loop that reads two digits at a time returns the bytes whose
  text it was given, whatever function reads one digit.
* `pushDigits_eq`: a loop that pushes two digits a byte writes their text.
-/

namespace Hex

open Fallible Wire

variable {m : Type → Type} [Monad m]

/-! ## Reading -/

/-- The lowercase digits are read as their values, and nothing else is read. -/
def ReadsNibbles (nibble : UInt8 → m UInt8) : Prop :=
  ∀ b v, nibble b = pure v ↔ ∃ n < 16, b = digitByte n ∧ v = UInt8.ofNat n

/-- The loop over the digits two by two; an odd digit at the end is not read. -/
def decodeChunks (nibble : UInt8 → m UInt8) : Bytes → m Bytes
  | hi :: lo :: rest => do
    let hi ← nibble hi
    let lo ← nibble lo
    let rest ← decodeChunks nibble rest
    return ((hi <<< 4) ||| lo) :: rest
  | _ => pure []

theorem digitByte_ranges : ∀ n < 16,
    (0x30 ≤ digitByte n ∧ digitByte n ≤ 0x39) ∧ digitByte n - 0x30 = UInt8.ofNat n ∨
      ¬ (0x30 ≤ digitByte n ∧ digitByte n ≤ 0x39) ∧
        (0x61 ≤ digitByte n ∧ digitByte n ≤ 0x66) ∧
        digitByte n - 0x61 + 10 = UInt8.ofNat n := by
  decide

theorem exists_digitByte_of_number {b : UInt8} (h : 48 ≤ b.toNat ∧ b.toNat ≤ 57) :
    ∃ n < 16, b = digitByte n ∧ b - 0x30 = UInt8.ofNat n := by
  refine ⟨b.toNat - 48, by omega, ?_, ?_⟩
  · rw [digitByte, if_pos (by omega), Nat.add_sub_cancel' h.1, UInt8.ofNat_toNat]
  · apply UInt8.toNat_inj.mp
    simp only [UInt8.toNat_sub, UInt8.toNat_ofNat', UInt8.reduceToNat]
    omega

theorem exists_digitByte_of_letter {b : UInt8} (h : 97 ≤ b.toNat ∧ b.toNat ≤ 102) :
    ∃ n < 16, b = digitByte n ∧ b - 0x61 + 10 = UInt8.ofNat n := by
  refine ⟨b.toNat - 87, by omega, ?_, ?_⟩
  · rw [digitByte, if_neg (by omega), Nat.add_sub_cancel' (by omega), UInt8.ofNat_toNat]
  · apply UInt8.toNat_inj.mp
    simp only [UInt8.toNat_add, UInt8.toNat_sub, UInt8.toNat_ofNat', UInt8.reduceToNat]
    omega

theorem join_nibbles : ∀ m < 16, ∀ n < 16,
    (UInt8.ofNat m <<< 4) ||| UInt8.ofNat n = UInt8.ofNat (16 * m + n) := by decide

section Failing

variable [Failing m]

/-- The two ranges of digits, one after the other. -/
theorem readsNibbles_ranges {fail : m UInt8} (hfail : ∀ v, fail ≠ pure v) :
    ReadsNibbles fun b : UInt8 =>
      if 0x30 ≤ b ∧ b ≤ 0x39 then pure (b - 0x30)
      else if 0x61 ≤ b ∧ b ≤ 0x66 then pure (b - 0x61 + 10)
      else fail := by
  intro b v
  constructor
  · intro h
    simp only [UInt8.le_iff_toNat_le, UInt8.reduceToNat] at h
    split_ifs at h with hdigit hletter
    · rw [← Failing.pure_inj h]
      exact exists_digitByte_of_number hdigit
    · rw [← Failing.pure_inj h]
      exact exists_digitByte_of_letter hletter
    · exact absurd h (hfail v)
  · rintro ⟨n, hn, rfl, rfl⟩
    dsimp only
    rcases digitByte_ranges n hn with ⟨hdigit, hvalue⟩ | ⟨hdigit, hletter, hvalue⟩
    · rw [if_pos hdigit, hvalue]
    · rw [if_neg hdigit, if_pos hletter, hvalue]

variable {nibble : UInt8 → m UInt8} (hnibble : ReadsNibbles nibble)
include hnibble

theorem decodeChunks_digitBytes (bs : Bytes) : decodeChunks nibble (digitBytes bs) = pure bs := by
  induction bs with
  | nil => rfl
  | cons b bs ih =>
    have hb := halves b
    have hhi := (hnibble _ _).mpr ⟨_, hb.1, rfl, rfl⟩
    have hlo := (hnibble _ _).mpr ⟨_, hb.2, rfl, rfl⟩
    have hjoin := join_nibbles _ hb.1 _ hb.2
    rw [ofNat_halves] at hjoin
    rw [digitBytes_cons, decodeChunks]
    exact Failing.bind_eq_pure.mpr ⟨_, hhi, Failing.bind_eq_pure.mpr ⟨_, hlo,
      Failing.bind_eq_pure.mpr ⟨bs, ih, by rw [hjoin]⟩⟩⟩

theorem digitBytes_of_decodeChunks : ∀ {digits bs : Bytes}, digits.length % 2 = 0 →
    decodeChunks nibble digits = pure bs → digits = digitBytes bs
  | [], bs, _, h => by
    rw [← Failing.pure_inj h]
    rfl
  | [_], _, heven, _ => by cases heven
  | hi :: lo :: rest, bs, heven, h => by
    rw [decodeChunks] at h
    obtain ⟨m, hhi, h⟩ := Failing.bind_eq_pure.mp h
    obtain ⟨n, hlo, h⟩ := Failing.bind_eq_pure.mp h
    obtain ⟨tail, hrest, h⟩ := Failing.bind_eq_pure.mp h
    obtain ⟨m, hm, rfl, rfl⟩ := (hnibble _ _).mp hhi
    obtain ⟨n, hn, rfl, rfl⟩ := (hnibble _ _).mp hlo
    have heven : rest.length % 2 = 0 := by
      simp only [List.length_cons] at heven
      omega
    obtain ⟨hhigh, hlow⟩ := halves_ofNat hm hn
    rw [← Failing.pure_inj h, join_nibbles m hm n hn, digitBytes_of_decodeChunks heven hrest,
      digitBytes_cons, hhigh, hlow]

/-- The bytes of a string, read two by two, are those whose text it is. -/
theorem decodeChunks_utf8 {s : String} {bs : Bytes} (heven : (utf8 s).length % 2 = 0) :
    decodeChunks nibble (utf8 s) = pure bs ↔ s = text bs := by
  constructor
  · intro h
    apply utf8_inj
    rw [utf8_text]
    exact digitBytes_of_decodeChunks hnibble heven h
  · rintro rfl
    rw [utf8_text]
    exact decodeChunks_digitBytes hnibble bs

end Failing

/-- Digits that are put in another way before they are read. -/
theorem decodeChunks_map {m' : Type → Type} [Monad m'] [Failing m] [Failing m']
    {nibble : UInt8 → m UInt8} {nibble' : UInt8 → m' UInt8} {f : UInt8 → UInt8}
    (hf : ∀ b v, nibble b = pure v ↔ nibble' (f b) = pure v) : ∀ {digits bs : Bytes},
    decodeChunks nibble digits = pure bs ↔ decodeChunks nibble' (digits.map f) = pure bs
  | [], bs => by
    constructor <;> exact fun h => congrArg pure (Failing.pure_inj h)
  | [_], bs => by
    constructor <;> exact fun h => congrArg pure (Failing.pure_inj h)
  | hi :: lo :: rest, bs => by
    simp only [List.map_cons, decodeChunks, Failing.bind_eq_pure, hf, decodeChunks_map hf]
    constructor <;> exact fun ⟨h, hhi, l, hlo, tail, hrest, hbs⟩ =>
      ⟨h, hhi, l, hlo, tail, hrest, congrArg pure (Failing.pure_inj hbs)⟩

/-! ## Writing -/

/-- Every nibble has its digit. -/
def WritesNibbles (nibble : UInt8 → Option Char) : Prop :=
  ∀ n < 16, nibble (UInt8.ofNat n) = some (digit n)

instance (nibble : UInt8 → Option Char) : Decidable (WritesNibbles nibble) :=
  inferInstanceAs (Decidable (∀ n < 16, _))

/-- The body of the loop, which gives up where `nibble` does. -/
def pushPair (nibble : UInt8 → Option Char) (out : String) (b : UInt8) : Option String := do
  let hi ← nibble (b >>> 4)
  let lo ← nibble (b &&& 0x0F)
  return (out.push hi).push lo

def pushDigits (nibble : UInt8 → Option Char) (bytes : Bytes) : Option String :=
  bytes.foldlM (pushPair nibble) ""

theorem high_nibble (b : UInt8) : b >>> 4 = UInt8.ofNat (b.toNat / 16) := by
  have hb := b.toNat_lt
  apply UInt8.toNat_inj.mp
  rw [UInt8.toNat_ofNat', Nat.mod_eq_of_lt (by omega), UInt8.toNat_shiftRight]
  exact Nat.shiftRight_eq_div_pow b.toNat 4

theorem low_nibble (b : UInt8) : b &&& 0x0F = UInt8.ofNat (b.toNat % 16) := by
  apply UInt8.toNat_inj.mp
  rw [UInt8.toNat_ofNat', Nat.mod_eq_of_lt (by omega), UInt8.toNat_and]
  exact Nat.and_two_pow_sub_one_eq_mod b.toNat 4

section Writes

variable {nibble : UInt8 → Option Char} (hnibble : WritesNibbles nibble)
include hnibble

theorem pushPair_eq (out : String) (b : UInt8) : pushPair nibble out b =
    some ((out.push (digit (b.toNat / 16))).push (digit (b.toNat % 16))) := by
  have hb := halves b
  rw [pushPair, high_nibble, low_nibble, hnibble _ hb.1, hnibble _ hb.2]
  rfl

/-- The text written so far stays in front. -/
theorem foldlM_pushPair (bytes : Bytes) (out : String) :
    bytes.foldlM (pushPair nibble) out = some (out ++ text bytes) := by
  induction bytes generalizing out with
  | nil => simp [text, chars]
  | cons b bs ih =>
    rw [List.foldlM_cons, pushPair_eq hnibble]
    show bs.foldlM (pushPair nibble) _ = _
    rw [ih, Option.some_inj]
    apply String.toList_inj.mp
    simp

theorem pushDigits_eq (bytes : Bytes) : pushDigits nibble bytes = some (text bytes) := by
  rw [pushDigits, foldlM_pushPair hnibble, String.empty_append]

end Writes

end Hex
