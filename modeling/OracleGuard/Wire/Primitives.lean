import OracleGuard.Wire.Codec

/-!
Raw bytes and LEB128 numbers. A number of at most `k + 1` bytes carries seven
bits a byte, lowest first, with the high bit set on every byte but the last;
the reader rejects a final byte above `last` only when it is byte `k + 1`.

* `takeVarint_putVarint`: what is written is read back, before any suffix.
* `takeVarint_shortest`: a number read either is in its shortest form, and then
  the input starts with what the writer writes, or it is spelled longer.
-/

namespace Wire

/-! ## Raw bytes -/

def byte : Codec UInt8 where
  encode b := some [b]
  decode
    | [] => none
    | b :: rest => some (b, rest)

/-- A fixed number of raw bytes. -/
def bytes (n : Nat) : Codec (Vector UInt8 n) where
  encode v := some v.toList
  decode input :=
    if h : n ≤ input.length then
      some (⟨(input.take n).toArray, by simp [h]⟩, input.drop n)
    else none

theorem byte_selfDelimiting : byte.SelfDelimiting where
  lawful := fun b _ => ⟨[b], rfl, rfl⟩
  incremental := by
    intro input b r s h
    cases input with
    | nil => cases h
    | cons x xs =>
      cases h
      rfl

theorem bytes_decode (n : Nat) (input : Bytes) (v : Vector UInt8 n) (r : Bytes) :
    (bytes n).decode input = some (v, r) ↔ input = v.toList ++ r := by
  simp only [bytes]
  constructor
  · intro h
    split at h
    · cases h
      simp [Vector.toList]
    · cases h
  · rintro rfl
    have hlen : v.toList.length = n := Vector.length_toList
    rw [dif_pos (by simp)]
    congr 2
    · apply Vector.toList_inj.mp
      simp [Vector.toList]
    · exact List.drop_left' hlen

theorem bytes_selfDelimiting (n : Nat) : (bytes n).SelfDelimiting where
  lawful := fun v _ => ⟨v.toList, rfl, (bytes_decode n _ v _).mpr rfl⟩
  incremental := by
    intro input v r s h
    rw [bytes_decode] at h ⊢
    rw [h, List.append_assoc]

/-! ## LEB128 numbers -/

/-- Write `v` in at most the given number of bytes. -/
def putVarint : Nat → Nat → Bytes
  | 0, _ => []
  | k + 1, v =>
    if v < 128 then [UInt8.ofNat v]
    else UInt8.ofNat (v % 128 + 128) :: putVarint k (v / 128)

/-- Read a number of at most the given number of bytes. Only the last byte that
the width allows is checked for overflow. -/
def takeVarint (last : Nat) : Nat → Bytes → Option (Nat × Bytes)
  | 0, _ => none
  | _ + 1, [] => none
  | k + 1, b :: rest =>
    if b.toNat < 128 then
      if k = 0 ∧ last < b.toNat then none else some (b.toNat, rest)
    else (takeVarint last k rest).map fun (v, rest) => (b.toNat - 128 + 128 * v, rest)

/-- Read a number only if it is in its shortest form: no byte is followed by
continuation bytes that add nothing. -/
def shortVarint : Bytes → Option (Nat × Bytes)
  | [] => none
  | b :: rest =>
    if b.toNat < 128 then some (b.toNat, rest)
    else
      match shortVarint rest with
      | none => none
      | some (v, rest) => if v = 0 then none else some (b.toNat - 128 + 128 * v, rest)

theorem toNat_ofNat_byte {v : Nat} (h : v < 256) : (UInt8.ofNat v).toNat = v := by
  rw [UInt8.toNat_ofNat']
  exact Nat.mod_eq_of_lt h

theorem takeVarint_putVarint {last k v : Nat} (hlast : last < 128)
    (hv : v < (last + 1) * 128 ^ k) (s : Bytes) :
    takeVarint last (k + 1) (putVarint (k + 1) v ++ s) = some (v, s) := by
  induction k generalizing v with
  | zero =>
    have hv' : v < 128 := by omega
    have hb := toNat_ofNat_byte (show v < 256 by omega)
    rw [putVarint, if_pos hv', List.singleton_append, takeVarint, hb, if_pos hv',
      if_neg (by omega)]
  | succ k ih =>
    by_cases hv' : v < 128
    · have hb := toNat_ofNat_byte (show v < 256 by omega)
      rw [putVarint, if_pos hv', List.singleton_append, takeVarint, hb, if_pos hv',
        if_neg (by omega)]
    · have hb := toNat_ofNat_byte (show v % 128 + 128 < 256 by omega)
      have hd : v / 128 < (last + 1) * 128 ^ k := by
        rw [Nat.div_lt_iff_lt_mul (by decide), Nat.mul_assoc, ← Nat.pow_succ]
        exact hv
      rw [putVarint, if_neg hv', List.cons_append, takeVarint, hb, if_neg (by omega), ih hd]
      simp only [Option.map_some, Option.some.injEq, Prod.mk.injEq, and_true]
      omega

/-- One step of the reader. -/
theorem takeVarint_eq_some {last k : Nat} {b r : Bytes} {v : Nat} :
    takeVarint last (k + 1) b = some (v, r) ↔
      ∃ x xs, b = x :: xs ∧
        (x.toNat < 128 ∧ (k = 0 → x.toNat ≤ last) ∧ v = x.toNat ∧ r = xs ∨
          128 ≤ x.toNat ∧ ∃ w, takeVarint last k xs = some (w, r) ∧
            v = x.toNat - 128 + 128 * w) := by
  cases b with
  | nil => simp [takeVarint]
  | cons x xs =>
    have hsplit : ∀ {P : UInt8 → Bytes → Prop}, (∃ y ys, x :: xs = y :: ys ∧ P y ys) ↔ P x xs := by
      intro P
      constructor
      · rintro ⟨_, _, ⟨⟩, h⟩
        exact h
      · exact fun h => ⟨x, xs, rfl, h⟩
    rw [hsplit, takeVarint]
    by_cases hx : x.toNat < 128
    · rw [if_pos hx]
      by_cases hlast : k = 0 ∧ last < x.toNat
      · rw [if_pos hlast]
        grind
      · rw [if_neg hlast]
        grind
    · rw [if_neg hx]
      simp only [Option.map_eq_some_iff, Prod.mk.injEq, Prod.exists]
      grind

theorem takeVarint_append {last k : Nat} {b : Bytes} {v : Nat} {r : Bytes}
    (h : takeVarint last k b = some (v, r)) (s : Bytes) :
    takeVarint last k (b ++ s) = some (v, r ++ s) := by
  induction k generalizing b v with
  | zero => cases h
  | succ k ih =>
    obtain ⟨x, xs, rfl, hcase⟩ := takeVarint_eq_some.mp h
    refine takeVarint_eq_some.mpr ⟨x, xs ++ s, rfl, ?_⟩
    rcases hcase with ⟨hlow, hlast, hv, rfl⟩ | ⟨hhigh, w, hw, hv⟩
    · exact .inl ⟨hlow, hlast, hv, rfl⟩
    · exact .inr ⟨hhigh, w, ih hw, hv⟩

/-- What is read fits the width. -/
theorem takeVarint_lt {last k : Nat} {b : Bytes} {v : Nat} {r : Bytes}
    (h : takeVarint last (k + 1) b = some (v, r)) : v < (last + 1) * 128 ^ k := by
  induction k generalizing b v with
  | zero =>
    obtain ⟨x, xs, rfl, ⟨-, hlast, rfl, -⟩ | ⟨-, w, hw, -⟩⟩ := takeVarint_eq_some.mp h
    · have := hlast rfl
      omega
    · cases hw
  | succ k ih =>
    have hpos : 1 ≤ (last + 1) * 128 ^ k := Nat.mul_pos (by omega) (Nat.pow_pos (by decide))
    rw [Nat.pow_succ, ← Nat.mul_assoc]
    obtain ⟨x, xs, rfl, ⟨hlow, -, rfl, -⟩ | ⟨-, w, hw, rfl⟩⟩ := takeVarint_eq_some.mp h
    · omega
    · have hx := x.toNat_lt
      have := ih hw
      omega

/-- The induction is on the bytes read. Where a longer spelling starts, the
continuation bytes carry the value 0, so the writer stops before them. -/
theorem takeVarint_shortest {last k : Nat} {b : Bytes} {v : Nat} {r : Bytes}
    (h : takeVarint last k b = some (v, r)) :
    (shortVarint b = some (v, r) ∧ putVarint k v ++ r = b) ∨
      (shortVarint b = none ∧ (putVarint k v ++ r).length < b.length) := by
  induction k generalizing b v with
  | zero => cases h
  | succ k ih =>
    obtain ⟨x, xs, rfl, hcase⟩ := takeVarint_eq_some.mp h
    have hx := x.toNat_lt
    rcases hcase with ⟨hlow, -, rfl, rfl⟩ | ⟨hhigh, w, hw, rfl⟩
    · left
      rw [shortVarint, if_pos hlow, putVarint, if_pos hlow, UInt8.ofNat_toNat]
      exact ⟨rfl, rfl⟩
    · rw [shortVarint, if_neg (by omega)]
      by_cases hzero : w = 0
      · -- A padded number: the writer writes the low seven bits only.
        right
        subst hzero
        rw [putVarint, if_pos (by omega)]
        rcases ih hw with ⟨hs, hb⟩ | ⟨hs, hlen⟩
        · have hne : putVarint k 0 ≠ [] := by
            cases k with
            | zero => cases hw
            | succ k => simp [putVarint]
          have := List.length_pos_iff.mpr hne
          refine ⟨by simp [hs], ?_⟩
          rw [← hb]
          simp only [List.length_append, List.length_cons, List.length_nil]
          omega
        · refine ⟨by simp [hs], ?_⟩
          simp only [List.length_append, List.length_cons, List.length_nil] at hlen ⊢
          omega
      · have hdiv : (x.toNat - 128 + 128 * w) / 128 = w := by omega
        have hmod : (x.toNat - 128 + 128 * w) % 128 + 128 = x.toNat := by omega
        rw [putVarint, if_neg (by omega), hdiv, hmod, UInt8.ofNat_toNat]
        rcases ih hw with ⟨hs, hb⟩ | ⟨hs, hlen⟩
        · left
          simp [hs, hzero, hb]
        · right
          simpa [hs] using hlen

/-- Numbers of at most `k + 1` bytes whose last byte is at most `last`. -/
def varint (k last : Nat) : Codec (Fin ((last + 1) * 128 ^ k)) where
  encode v := some (putVarint (k + 1) v)
  decode input :=
    match h : takeVarint last (k + 1) input with
    | some (v, rest) => some (⟨v, takeVarint_lt h⟩, rest)
    | none => none

theorem varint_decode (k last : Nat) (b : Bytes) (v : Fin ((last + 1) * 128 ^ k)) (r : Bytes) :
    (varint k last).decode b = some (v, r) ↔ takeVarint last (k + 1) b = some (v.val, r) := by
  simp only [varint]
  split
  next w m hw => simp [hw, Fin.ext_iff]
  next hnone => simp [hnone]

theorem varint_selfDelimiting {k last : Nat} (hlast : last < 128) :
    (varint k last).SelfDelimiting where
  lawful := fun v s =>
    ⟨_, rfl, (varint_decode k last _ v s).mpr (takeVarint_putVarint hlast v.isLt s)⟩
  incremental := by
    intro b v r s h
    rw [varint_decode] at h ⊢
    exact takeVarint_append h s

/-! ## Machine words

16, 32 and 64 bits take at most 3, 5 and 10 bytes, with 2, 4 and 1 bits left
for the last one. -/

def u16 : Codec UInt16 :=
  (varint 2 3).iso ⟨UInt16.ofFin, UInt16.toFin, fun _ => rfl, fun _ => rfl⟩

def u32 : Codec UInt32 :=
  (varint 4 15).iso ⟨UInt32.ofFin, UInt32.toFin, fun _ => rfl, fun _ => rfl⟩

def u64 : Codec UInt64 :=
  (varint 9 1).iso ⟨UInt64.ofFin, UInt64.toFin, fun _ => rfl, fun _ => rfl⟩

theorem u16_selfDelimiting : u16.SelfDelimiting :=
  Codec.iso_selfDelimiting (varint_selfDelimiting (by decide)) _

theorem u32_selfDelimiting : u32.SelfDelimiting :=
  Codec.iso_selfDelimiting (varint_selfDelimiting (by decide)) _

theorem u64_selfDelimiting : u64.SelfDelimiting :=
  Codec.iso_selfDelimiting (varint_selfDelimiting (by decide)) _

/-! ## Lengths -/

theorem length_putVarint_le (k v : Nat) : (putVarint k v).length ≤ k := by
  induction k generalizing v with
  | zero => exact Nat.le_refl 0
  | succ k ih =>
    rw [putVarint]
    split
    · simp
    · have := ih (v / 128)
      rw [List.length_cons]
      omega

theorem byte_atMost : byte.AtMost 1 := by
  rintro b _ ⟨⟩
  exact Nat.le_refl 1

theorem bytes_atMost (n : Nat) : (bytes n).AtMost n := by
  rintro v _ ⟨⟩
  exact Nat.le_of_eq Vector.length_toList

theorem varint_atMost (k last : Nat) : (varint k last).AtMost (k + 1) := by
  rintro v _ ⟨⟩
  exact length_putVarint_le (k + 1) v

theorem u32_atMost : u32.AtMost 5 := (varint_atMost 4 15).iso _

theorem u64_atMost : u64.AtMost 10 := (varint_atMost 9 1).iso _

end Wire
