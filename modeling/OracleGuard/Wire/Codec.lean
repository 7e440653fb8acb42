import Mathlib.Algebra.Order.Ring.Nat
import Mathlib.Logic.Equiv.Defs

/-!
Prefix codecs and their laws. A codec writes a value as bytes, or refuses it,
and reads one value off the front of its input, handing back the unread bytes.

* `SelfDelimiting`: every value is written and read back in front of any
  suffix, and a read never looks past the bytes it consumed. Products, tagged
  sums, bounded indices and changes of representation keep it.
* `SelfDelimiting.truncated`: no proper prefix of an encoding can be read.
* `fromBytes`: the strict reader, which refuses unread bytes.
* `AtMost`: a bound on the length of every encoding, kept by the same
  combinators.
-/

namespace Wire

abbrev Bytes := List UInt8

structure Codec (α : Type) where
  encode : α → Option Bytes
  decode : Bytes → Option (α × Bytes)

namespace Codec

variable {α β ι ε δ : Type}

/-! ## Combinators -/

/-- A tag, then the payload that the tag selects. -/
def tagged {payload : ι → Type} (c : Codec ι) (d : (i : ι) → Codec (payload i)) :
    Codec ((i : ι) × payload i) where
  encode x := do
    let tag ← c.encode x.1
    let body ← (d x.1).encode x.2
    return tag ++ body
  decode input := do
    let (i, rest) ← c.decode input
    let (body, rest) ← (d i).decode rest
    return (⟨i, body⟩, rest)

/-- A number that must stay below `n`. -/
def index (c : Codec UInt32) (n : Nat) : Codec (Fin n) where
  encode i := c.encode (UInt32.ofNat i)
  decode input := do
    let (i, rest) ← c.decode input
    if h : i.toNat < n then return (⟨i.toNat, h⟩, rest) else none

/-- The same bytes for another representation of the values. -/
def iso (c : Codec α) (e : α ≃ β) : Codec β where
  encode b := c.encode (e.symm b)
  decode input := (c.decode input).map fun (a, rest) => (e a, rest)

/-- Two values in order: the second codec does not depend on the first value. -/
def pair (c : Codec α) (d : Codec β) : Codec (α × β) :=
  (c.tagged fun _ => d).iso (Equiv.sigmaEquivProd α β)

/-! ## The laws -/

/-- Every value is written, and read back in front of any suffix. -/
def Lawful (c : Codec α) : Prop :=
  ∀ a s, ∃ b, c.encode a = some b ∧ c.decode (b ++ s) = some (a, s)

/-- A read depends on the bytes it consumed only. -/
def Incremental (c : Codec α) : Prop :=
  ∀ b a r s, c.decode b = some (a, r) → c.decode (b ++ s) = some (a, r ++ s)

structure SelfDelimiting (c : Codec α) : Prop where
  lawful : c.Lawful
  incremental : c.Incremental

theorem tagged_encode {payload : ι → Type} (c : Codec ι) (d : (i : ι) → Codec (payload i))
    (x : (i : ι) × payload i) (b : Bytes) :
    (c.tagged d).encode x = some b ↔
      ∃ p q, c.encode x.1 = some p ∧ (d x.1).encode x.2 = some q ∧ b = p ++ q := by
  simp only [tagged, bind, Option.bind_eq_some_iff, pure, Option.some.injEq]
  constructor
  · rintro ⟨p, hp, q, hq, rfl⟩
    exact ⟨p, q, hp, hq, rfl⟩
  · rintro ⟨p, q, hp, hq, rfl⟩
    exact ⟨p, hp, q, hq, rfl⟩

theorem tagged_decode {payload : ι → Type} (c : Codec ι) (d : (i : ι) → Codec (payload i))
    (b : Bytes) (x : (i : ι) × payload i) (r : Bytes) :
    (c.tagged d).decode b = some (x, r) ↔
      ∃ m, c.decode b = some (x.1, m) ∧ (d x.1).decode m = some (x.2, r) := by
  simp only [tagged, bind, Option.bind_eq_some_iff, pure, Option.some.injEq, Prod.mk.injEq,
    Prod.exists]
  constructor
  · rintro ⟨i, m, hc, y, r', hd, rfl, rfl⟩
    exact ⟨m, hc, hd⟩
  · rintro ⟨m, hc, hd⟩
    exact ⟨x.1, m, hc, x.2, r, hd, rfl, rfl⟩

theorem index_decode (c : Codec UInt32) (n : Nat) (b : Bytes) (i : Fin n) (r : Bytes) :
    (c.index n).decode b = some (i, r) ↔ ∃ t, c.decode b = some (t, r) ∧ t.toNat = i := by
  simp only [index, bind, Option.bind_eq_some_iff, Prod.exists]
  constructor
  · rintro ⟨t, m, hc, ht⟩
    split at ht
    · cases ht
      exact ⟨t, hc, rfl⟩
    · cases ht
  · rintro ⟨t, hc, ht⟩
    refine ⟨t, r, hc, ?_⟩
    rw [dif_pos (by omega)]
    simp [ht]

theorem iso_decode (c : Codec α) (e : α ≃ β) (b : Bytes) (x : β) (r : Bytes) :
    (c.iso e).decode b = some (x, r) ↔ c.decode b = some (e.symm x, r) := by
  simp only [iso, Option.map_eq_some_iff, Prod.mk.injEq, Prod.exists]
  constructor
  · rintro ⟨a, m, hc, rfl, rfl⟩
    simpa using hc
  · intro hc
    exact ⟨e.symm x, r, hc, by simp, rfl⟩

theorem tagged_selfDelimiting {payload : ι → Type} {c : Codec ι}
    {d : (i : ι) → Codec (payload i)} (hc : c.SelfDelimiting)
    (hd : ∀ i, (d i).SelfDelimiting) : (c.tagged d).SelfDelimiting where
  lawful := by
    intro x s
    obtain ⟨q, hq, hdq⟩ := (hd x.1).lawful x.2 s
    obtain ⟨p, hp, hcp⟩ := hc.lawful x.1 (q ++ s)
    refine ⟨p ++ q, (tagged_encode c d x _).mpr ⟨p, q, hp, hq, rfl⟩, ?_⟩
    rw [List.append_assoc]
    exact (tagged_decode c d _ x s).mpr ⟨q ++ s, hcp, hdq⟩
  incremental := by
    intro b x r s h
    obtain ⟨m, hcm, hdm⟩ := (tagged_decode c d b x r).mp h
    exact (tagged_decode c d _ x _).mpr
      ⟨m ++ s, hc.incremental _ _ _ s hcm, (hd x.1).incremental _ _ _ s hdm⟩

theorem index_selfDelimiting {c : Codec UInt32} {n : Nat} (hc : c.SelfDelimiting)
    (hn : n ≤ 2 ^ 32) : (c.index n).SelfDelimiting where
  lawful := by
    intro i s
    obtain ⟨b, hb, hcb⟩ := hc.lawful (UInt32.ofNat i) s
    have hi : (UInt32.ofNat i).toNat = i := by
      rw [UInt32.toNat_ofNat']
      exact Nat.mod_eq_of_lt (by omega)
    exact ⟨b, hb, (index_decode c n _ i s).mpr ⟨_, hcb, hi⟩⟩
  incremental := by
    intro b i r s h
    obtain ⟨t, ht, hi⟩ := (index_decode c n b i r).mp h
    exact (index_decode c n _ i _).mpr ⟨t, hc.incremental _ _ _ s ht, hi⟩

theorem iso_selfDelimiting {c : Codec α} (hc : c.SelfDelimiting) (e : α ≃ β) :
    (c.iso e).SelfDelimiting where
  lawful := by
    intro x s
    obtain ⟨b, hb, hcb⟩ := hc.lawful (e.symm x) s
    exact ⟨b, hb, (iso_decode c e _ x s).mpr hcb⟩
  incremental := by
    intro b x r s h
    exact (iso_decode c e _ x _).mpr (hc.incremental _ _ _ s ((iso_decode c e b x r).mp h))

theorem pair_selfDelimiting {c : Codec α} {d : Codec β} (hc : c.SelfDelimiting)
    (hd : d.SelfDelimiting) : (c.pair d).SelfDelimiting :=
  iso_selfDelimiting (tagged_selfDelimiting hc fun _ => hd) _

/-! ## What follows from the laws -/

theorem Lawful.decode_append {c : Codec α} (hc : c.Lawful) {a : α} {b : Bytes}
    (hb : c.encode a = some b) (s : Bytes) : c.decode (b ++ s) = some (a, s) := by
  obtain ⟨b', hb', hd⟩ := hc a s
  rw [hb] at hb'
  cases hb'
  exact hd

/-- Values with the same bytes are equal. -/
theorem Lawful.encode_injective {c : Codec α} (hc : c.Lawful) {a a' : α}
    (h : c.encode a = c.encode a') : a = a' := by
  obtain ⟨b, hb, hd⟩ := hc a []
  have hd' := hc.decode_append (h ▸ hb) []
  rw [hd] at hd'
  cases hd'
  rfl

/-- A proper prefix of an encoding cannot be read: what it would leave unread
would also be left unread in the whole encoding, which leaves nothing. -/
theorem SelfDelimiting.truncated {c : Codec α} (hc : c.SelfDelimiting) {a : α} {p q : Bytes}
    (hb : c.encode a = some (p ++ q)) (hq : q ≠ []) : c.decode p = none := by
  cases hp : c.decode p with
  | none => rfl
  | some x =>
    obtain ⟨a', r⟩ := x
    have hlong := hc.incremental p a' r q hp
    have hwhole := hc.lawful.decode_append hb []
    rw [List.append_nil, hlong] at hwhole
    simp only [Option.some.injEq, Prod.mk.injEq, List.append_eq_nil_iff] at hwhole
    exact absurd hwhole.2.2 hq

/-! ## Lengths -/

/-- No encoding is longer than `n` bytes. -/
def AtMost (c : Codec α) (n : Nat) : Prop :=
  ∀ a b, c.encode a = some b → b.length ≤ n

theorem AtMost.mono {c : Codec α} {m n : Nat} (hc : c.AtMost m) (hmn : m ≤ n) : c.AtMost n :=
  fun a b hb => (hc a b hb).trans hmn

theorem AtMost.tagged {payload : ι → Type} {c : Codec ι} {d : (i : ι) → Codec (payload i)}
    {m n : Nat} (hc : c.AtMost m) (hd : ∀ i, (d i).AtMost n) : (c.tagged d).AtMost (m + n) := by
  intro x b hb
  obtain ⟨p, q, hp, hq, rfl⟩ := (tagged_encode c d x b).mp hb
  have hlp := hc _ _ hp
  have hlq := hd _ _ _ hq
  rw [List.length_append]
  omega

theorem AtMost.index {c : Codec UInt32} {m : Nat} (hc : c.AtMost m) (n : Nat) :
    (c.index n).AtMost m :=
  fun i b hb => hc (UInt32.ofNat i) b hb

theorem AtMost.iso {c : Codec α} {n : Nat} (hc : c.AtMost n) (e : α ≃ β) : (c.iso e).AtMost n :=
  fun x b hb => hc (e.symm x) b hb

theorem AtMost.pair {c : Codec α} {d : Codec β} {m n : Nat} (hc : c.AtMost m) (hd : d.AtMost n) :
    (c.pair d).AtMost (m + n) :=
  (hc.tagged fun _ => hd).iso _

/-! ## Whole messages -/

/-- Write a value as a message, with `failure` for a refused one. -/
def toVec (c : Codec α) (failure : ε) (a : α) : Except ε Bytes :=
  match c.encode a with
  | some b => .ok b
  | none => .error failure

/-- Read a whole message: unread bytes are an error of their own. -/
def fromBytes (c : Codec α) (malformed trailing : ε) (input : Bytes) : Except ε α :=
  match c.decode input with
  | none => .error malformed
  | some (a, remainder) => if !remainder.isEmpty then .error trailing else .ok a

theorem toVec_eq_ok (c : Codec α) (failure : ε) (a : α) (b : Bytes) :
    c.toVec failure a = .ok b ↔ c.encode a = some b := by
  unfold toVec
  cases c.encode a <;> simp

theorem fromBytes_eq_ok (c : Codec α) (malformed trailing : ε) (b : Bytes) (a : α) :
    c.fromBytes malformed trailing b = .ok a ↔ c.decode b = some (a, []) := by
  unfold fromBytes
  cases c.decode b with
  | none => simp
  | some x =>
    obtain ⟨a', r⟩ := x
    cases r <;> simp

/-- Round trip and strict framing: every value has an encoding, which is read
back; with a suffix it has trailing bytes, and a proper prefix is malformed. -/
def Framed (encode : α → Except ε Bytes) (decode : Bytes → Except δ α) (malformed trailing : δ) :
    Prop :=
  ∀ a, ∃ b, encode a = .ok b ∧
    decode b = .ok a ∧
    (∀ s, s ≠ [] → decode (b ++ s) = .error trailing) ∧
    (∀ p q, b = p ++ q → q ≠ [] → decode p = .error malformed)

theorem SelfDelimiting.framed {c : Codec α} (hc : c.SelfDelimiting) (failure : ε)
    (malformed trailing : δ) :
    Framed (c.toVec failure) (c.fromBytes malformed trailing) malformed trailing := by
  intro a
  obtain ⟨b, hb, hd⟩ := hc.lawful a []
  rw [List.append_nil] at hd
  refine ⟨b, (toVec_eq_ok c failure a b).mpr hb,
    (fromBytes_eq_ok c malformed trailing b a).mpr hd, ?_, ?_⟩
  · intro s hs
    have hd' := hc.lawful.decode_append hb s
    cases s with
    | nil => exact absurd rfl hs
    | cons x xs => simp [fromBytes, hd']
  · intro p q hpq hq
    rw [hpq] at hb
    simp [fromBytes, hc.truncated hb hq]

end Codec

end Wire
