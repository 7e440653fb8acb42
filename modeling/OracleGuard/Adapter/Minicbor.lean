import OracleGuard.Cbor.WellFormed

/-!
The decoder of `minicbor` 0.25.1 as a parameter: `Minicbor.Documented` says which
bytes each method reads, and what the type of an item is peeked from.

* `readNumber_eq_some` and `readCount_eq_some`: the methods read heads, of any
  width.
-/

namespace OracleGuard

open Cbor Wire

/-- The types that the parser tells apart. -/
inductive CborType where
  | u8 | u16 | u32 | u64 | break | other
  deriving DecidableEq, Repr

/-- The decoder: each method reads off the front of the input, or looks at it. -/
structure Minicbor where
  tag : Bytes → Option (UInt64 × Bytes)
  array : Bytes → Option (Option UInt64 × Bytes)
  map : Bytes → Option (Option UInt64 × Bytes)
  u64 : Bytes → Option (UInt64 × Bytes)
  datatype : Bytes → Option CborType
  skip : Bytes → Option Bytes

namespace Minicbor

def number (arg : Arg) : UInt64 := UInt64.ofNatLT arg.value arg.value_lt

def readNumber (major : Major) (b : Bytes) : Option (UInt64 × Bytes) :=
  (readHead major b).map fun (arg, rest) => (number arg, rest)

def countOf : Opening → Option UInt64
  | .definite count => some (number count)
  | .indefinite => none

def readCount (major : Major) (b : Bytes) : Option (Option UInt64 × Bytes) :=
  (Opening.read major b).map fun (opening, rest) => (countOf opening, rest)

/-- The type that an initial byte announces. -/
def typeOf (b : UInt8) : CborType :=
  if b ≤ 0x18 then .u8
  else if b = 0x19 then .u16
  else if b = 0x1a then .u32
  else if b = 0x1b then .u64
  else if b = BREAK then .break
  else .other

structure Documented (cbor : Minicbor) : Prop where
  tag_head : ∀ b, cbor.tag b = readNumber .tag b
  array_head : ∀ b, cbor.array b = readCount .array b
  map_head : ∀ b, cbor.map b = readCount .map b
  u64_head : ∀ b, cbor.u64 b = readNumber .unsigned b
  datatype_end : cbor.datatype [] = none
  datatype_peek : ∀ b rest ty, ty ≠ .other →
    (cbor.datatype (b :: rest) = some ty ↔ typeOf b = ty)
  skip_break : ∀ rest, cbor.skip (BREAK :: rest) = some rest

/-- A decoder that is exactly its documentation, and skips single bytes only. -/
def reference : Minicbor where
  tag := readNumber .tag
  array := readCount .array
  map := readCount .map
  u64 := readNumber .unsigned
  datatype b := b.head?.map typeOf
  skip b := b.tail?

theorem reference_documented : reference.Documented where
  tag_head _ := rfl
  array_head _ := rfl
  map_head _ := rfl
  u64_head _ := rfl
  datatype_end := rfl
  datatype_peek _ _ _ _ := Option.some_inj
  skip_break _ := rfl


/-! ## What the methods read -/

theorem typeOf_eq_break {b : UInt8} : typeOf b = .break ↔ b = BREAK := by
  constructor
  · intro h
    unfold typeOf at h
    split_ifs at h with _ _ _ _ hbreak
    exact hbreak
  · rintro rfl
    rfl

theorem typeOf_unsigned {b : UInt8} (h : b.toNat < 28) :
    typeOf b = .u8 ∨ typeOf b = .u16 ∨ typeOf b = .u32 ∨
      typeOf b = .u64 := by
  have hcases : b ≤ 0x18 ∨ b = 0x19 ∨ b = 0x1a ∨ b = 0x1b := by
    simp only [UInt8.le_iff_toNat_le, ← UInt8.toNat_inj, UInt8.reduceToNat]
    omega
  rcases hcases with hle | rfl | rfl | rfl
  · exact .inl (if_pos hle)
  · exact .inr (.inl rfl)
  · exact .inr (.inr (.inl rfl))
  · exact .inr (.inr (.inr rfl))

theorem readCount_eq_some {major : Major} {b rest : Bytes} {n : Option UInt64} :
    readCount major b = some (n, rest) ↔
      ∃ opening, countOf opening = n ∧ b = opening.head major ++ rest := by
  rw [readCount, Option.map_eq_some_iff]
  constructor
  · rintro ⟨⟨opening, rest⟩, hread, ⟨⟩⟩
    exact ⟨opening, rfl, Opening.read_eq_some.mp hread⟩
  · rintro ⟨opening, rfl, h⟩
    exact ⟨(opening, rest), Opening.read_eq_some.mpr h, rfl⟩

theorem readNumber_eq_some {major : Major} {b rest : Bytes} {n : UInt64} :
    readNumber major b = some (n, rest) ↔
      ∃ arg, number arg = n ∧ b = head major arg ++ rest := by
  rw [readNumber, Option.map_eq_some_iff]
  constructor
  · rintro ⟨⟨arg, rest⟩, hread, ⟨⟩⟩
    exact ⟨arg, rfl, readHead_eq_some.mp hread⟩
  · rintro ⟨arg, rfl, h⟩
    exact ⟨(arg, rest), readHead_eq_some.mpr h, rfl⟩

end Minicbor

end OracleGuard
