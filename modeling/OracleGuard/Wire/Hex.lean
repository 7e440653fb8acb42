import Mathlib.Data.Char
import OracleGuard.Wire.Utf8

/-!
Lowercase hexadecimal text: two digits a byte, the high half first.

* `ofText_text` and `text_ofText`: byte strings and texts of an even number of
  digits are the same thing.
* `utf8_text`: the UTF-8 bytes of a text, by which it is known.
-/

namespace Hex

open Wire

/-- The digit of a number below 16. -/
def digit (n : Nat) : Char := if n < 10 then Char.ofNat (48 + n) else Char.ofNat (87 + n)

def chars (bs : Bytes) : List Char :=
  bs.flatMap fun b => [digit (b.toNat / 16), digit (b.toNat % 16)]

def text (bs : Bytes) : String := String.ofList (chars bs)

def IsDigit (c : Char) : Prop := ('0' ≤ c ∧ c ≤ '9') ∨ ('a' ≤ c ∧ c ≤ 'f')

instance (c : Char) : Decidable (IsDigit c) := inferInstanceAs (Decidable (_ ∨ _))

def value (c : Char) : Nat := if c ≤ '9' then c.toNat - 48 else c.toNat - 87

/-- The digits two by two; an odd one at the end is left out. -/
def ofChars : List Char → Bytes
  | hi :: lo :: rest => UInt8.ofNat (16 * value hi + value lo) :: ofChars rest
  | _ => []

def ofText (s : String) : Bytes := ofChars s.toList

/-! ## Digits -/

theorem digit_isDigit : ∀ n < 16, IsDigit (digit n) := by decide

theorem value_digit : ∀ n < 16, value (digit n) = n := by decide

theorem IsDigit.exists_digit {c : Char} (h : IsDigit c) : ∃ n < 16, c = digit n := by
  rcases h with ⟨hlow, hhigh⟩ | ⟨hlow, hhigh⟩
  · have hlow : 48 ≤ c.toNat := UInt32.le_iff_toNat_le.mp (Char.le_def.mp hlow)
    have hhigh : c.toNat ≤ 57 := UInt32.le_iff_toNat_le.mp (Char.le_def.mp hhigh)
    refine ⟨c.toNat - 48, by omega, ?_⟩
    rw [digit, if_pos (by omega), Nat.add_sub_cancel' hlow, Char.ofNat_toNat]
  · have hlow : 97 ≤ c.toNat := UInt32.le_iff_toNat_le.mp (Char.le_def.mp hlow)
    have hhigh : c.toNat ≤ 102 := UInt32.le_iff_toNat_le.mp (Char.le_def.mp hhigh)
    refine ⟨c.toNat - 87, by omega, ?_⟩
    rw [digit, if_neg (by omega), Nat.add_sub_cancel' (by omega), Char.ofNat_toNat]

theorem halves (b : UInt8) : b.toNat / 16 < 16 ∧ b.toNat % 16 < 16 := by
  have hb := b.toNat_lt
  omega

theorem ofNat_halves (b : UInt8) : UInt8.ofNat (16 * (b.toNat / 16) + b.toNat % 16) = b := by
  rw [Nat.div_add_mod, UInt8.ofNat_toNat]

theorem halves_ofNat {m n : Nat} (hm : m < 16) (hn : n < 16) :
    (UInt8.ofNat (16 * m + n)).toNat / 16 = m ∧ (UInt8.ofNat (16 * m + n)).toNat % 16 = n := by
  rw [UInt8.toNat_ofNat', Nat.mod_eq_of_lt (by omega)]
  omega

/-! ## Texts -/

@[simp] theorem chars_cons (b : UInt8) (bs : Bytes) :
    chars (b :: bs) = digit (b.toNat / 16) :: digit (b.toNat % 16) :: chars bs := rfl

theorem length_chars (bs : Bytes) : (chars bs).length = 2 * bs.length := by
  induction bs with
  | nil => rfl
  | cons b bs ih =>
    simp only [chars_cons, List.length_cons, ih]
    omega

theorem isDigit_of_mem_chars {bs : Bytes} {c : Char} (h : c ∈ chars bs) : IsDigit c := by
  obtain ⟨b, -, hpair⟩ := List.mem_flatMap.mp h
  have hb := halves b
  rw [List.mem_cons, List.mem_singleton] at hpair
  rcases hpair with rfl | rfl
  · exact digit_isDigit _ hb.1
  · exact digit_isDigit _ hb.2

theorem ofChars_chars (bs : Bytes) : ofChars (chars bs) = bs := by
  induction bs with
  | nil => rfl
  | cons b bs ih =>
    have hb := halves b
    rw [chars_cons, ofChars, value_digit _ hb.1, value_digit _ hb.2, ofNat_halves, ih]

theorem chars_ofChars : ∀ {cs : List Char}, cs.length % 2 = 0 → (∀ c ∈ cs, IsDigit c) →
    chars (ofChars cs) = cs
  | [], _, _ => rfl
  | [_], heven, _ => by cases heven
  | hi :: lo :: rest, heven, hdigits => by
    have heven : rest.length % 2 = 0 := by
      simp only [List.length_cons] at heven
      omega
    have ih := chars_ofChars heven fun c hc => hdigits c (by simp [hc])
    obtain ⟨m, hm, rfl⟩ := (hdigits hi (by simp)).exists_digit
    obtain ⟨n, hn, rfl⟩ := (hdigits lo (by simp)).exists_digit
    obtain ⟨hhigh, hlow⟩ := halves_ofNat hm hn
    rw [ofChars, value_digit m hm, value_digit n hn, chars_cons, hhigh, hlow, ih]

@[simp] theorem toList_text (bs : Bytes) : (text bs).toList = chars bs := String.toList_ofList

theorem length_text (bs : Bytes) : (text bs).length = 2 * bs.length := by
  rw [← String.length_toList, toList_text, length_chars]

@[simp] theorem ofText_text (bs : Bytes) : ofText (text bs) = bs := by
  rw [ofText, toList_text, ofChars_chars]

theorem text_ofText {s : String} (heven : s.length % 2 = 0)
    (hdigits : ∀ c ∈ s.toList, IsDigit c) : text (ofText s) = s := by
  rw [← String.length_toList] at heven
  rw [text, ofText, chars_ofChars heven hdigits, String.ofList_toList]

/-- The texts of `n` bytes. -/
theorem exists_text {s : String} {n : Nat} :
    (∃ bs : Bytes, bs.length = n ∧ s = text bs) ↔
      s.length = 2 * n ∧ ∀ c ∈ s.toList, IsDigit c := by
  constructor
  · rintro ⟨bs, rfl, rfl⟩
    refine ⟨length_text bs, fun c hc => ?_⟩
    rw [toList_text] at hc
    exact isDigit_of_mem_chars hc
  · rintro ⟨hlength, hdigits⟩
    have htext := text_ofText (by omega) hdigits
    refine ⟨ofText s, ?_, htext.symm⟩
    have hcount := length_text (ofText s)
    rw [htext] at hcount
    omega

/-! ## Bytes of texts -/

def digitByte (n : Nat) : UInt8 := if n < 10 then UInt8.ofNat (48 + n) else UInt8.ofNat (87 + n)

def digitBytes (bs : Bytes) : Bytes :=
  bs.flatMap fun b => [digitByte (b.toNat / 16), digitByte (b.toNat % 16)]

@[simp] theorem digitBytes_cons (b : UInt8) (bs : Bytes) :
    digitBytes (b :: bs) =
      digitByte (b.toNat / 16) :: digitByte (b.toNat % 16) :: digitBytes bs := rfl

theorem length_digitBytes (bs : Bytes) : (digitBytes bs).length = 2 * bs.length := by
  induction bs with
  | nil => rfl
  | cons b bs ih =>
    simp only [digitBytes_cons, List.length_cons, ih]
    omega

theorem utf8_digit : ∀ n < 16, String.utf8EncodeChar (digit n) = [digitByte n] := by decide

theorem utf8_text (bs : Bytes) : utf8 (text bs) = digitBytes bs := by
  rw [text, utf8_ofList]
  induction bs with
  | nil => rfl
  | cons b bs ih =>
    have hb := halves b
    rw [chars_cons, List.flatMap_cons, List.flatMap_cons, ih, utf8_digit _ hb.1,
      utf8_digit _ hb.2]
    rfl

end Hex
