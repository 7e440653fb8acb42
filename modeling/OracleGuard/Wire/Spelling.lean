import OracleGuard.Wire.Primitives

/-!
The spellings of a number in LEB128, of which only the shortest one is written.

* `takeVarint_eq_spelling`: a small number is read off the front of some bytes
  exactly when they start with a spelling of it that is not too long.
-/

namespace Wire

/-- Seven bits a byte, lowest first; every byte but the last has its high bit set. -/
inductive Spells : Bytes → Nat → Prop
  | last {b : UInt8} (hb : b.toNat < 128) : Spells [b] b.toNat
  | more {b : UInt8} {bs : Bytes} {n : Nat} (hb : 128 ≤ b.toNat) (hbs : Spells bs n) :
      Spells (b :: bs) (b.toNat - 128 + 128 * n)

theorem Spells.ne_nil {bs : Bytes} {n : Nat} (h : Spells bs n) : bs ≠ [] := by
  cases h with
  | last _ => exact List.cons_ne_nil _ _
  | more _ _ => exact List.cons_ne_nil _ _

/-- The bound on the last byte is met by every number below `128 ^ k`. -/
theorem takeVarint_eq_spelling {last k v : Nat} {b r : Bytes} (hv : v < 128 ^ k) :
    takeVarint last (k + 1) b = some (v, r) ↔
      ∃ p, b = p ++ r ∧ Spells p v ∧ p.length ≤ k + 1 := by
  induction k generalizing b v with
  | zero =>
    rw [takeVarint_eq_some]
    constructor
    · rintro ⟨x, xs, rfl, ⟨hlow, -, rfl, rfl⟩ | ⟨-, w, hw, -⟩⟩
      · exact ⟨[x], rfl, .last hlow, Nat.le_refl 1⟩
      · cases hw
    · rintro ⟨p, rfl, hp, hlength⟩
      cases hp with
      | @last x hx => exact ⟨x, r, rfl, .inl ⟨hx, fun _ => by omega, rfl, rfl⟩⟩
      | more _ hbs =>
        have hpos := List.length_pos_iff.mpr hbs.ne_nil
        rw [List.length_cons] at hlength
        omega
  | succ k ih =>
    rw [takeVarint_eq_some]
    constructor
    · rintro ⟨x, xs, rfl, ⟨hlow, -, rfl, rfl⟩ | ⟨hhigh, w, hw, rfl⟩⟩
      · exact ⟨[x], rfl, .last hlow, Nat.succ_le_succ (Nat.zero_le _)⟩
      · have hw' : w < 128 ^ k := by
          rw [Nat.pow_succ] at hv
          omega
        obtain ⟨p, rfl, hp, hlength⟩ := (ih hw').mp hw
        exact ⟨x :: p, rfl, .more hhigh hp, Nat.succ_le_succ hlength⟩
    · rintro ⟨p, rfl, hp, hlength⟩
      cases hp with
      | @last x hx =>
        exact ⟨x, r, rfl, .inl ⟨hx, fun h => absurd h (Nat.succ_ne_zero k), rfl, rfl⟩⟩
      | @more x bs n hx hbs =>
        have hn : n < 128 ^ k := by
          rw [Nat.pow_succ] at hv
          omega
        refine ⟨x, bs ++ r, rfl, .inr ⟨hx, n, (ih hn).mpr ⟨bs, rfl, hbs, ?_⟩, rfl⟩⟩
        exact Nat.le_of_succ_le_succ hlength

/-- An index below a small bound is any spelling of it in at most five bytes. -/
theorem u32_index_decode {n : Nat} (hn : n ≤ 128 ^ 4) {b r : Bytes} {i : Fin n} :
    (u32.index n).decode b = some (i, r) ↔
      ∃ p, b = p ++ r ∧ Spells p i ∧ p.length ≤ 5 := by
  rw [← @takeVarint_eq_spelling 15 4 i b r (i.isLt.trans_le hn), Codec.index_decode]
  constructor
  · rintro ⟨t, ht, hi⟩
    rw [u32, Codec.iso_decode, varint_decode] at ht
    rw [← hi]
    exact ht
  · intro h
    refine ⟨UInt32.ofFin ⟨i, takeVarint_lt h⟩, ?_, rfl⟩
    rw [u32, Codec.iso_decode, varint_decode]
    exact h

end Wire
