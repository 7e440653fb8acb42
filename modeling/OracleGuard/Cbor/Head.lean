import OracleGuard.Wire.Words

/-!
The heads of CBOR data items: a major type and an argument of one to nine bytes.
The same number has several heads, one for each width it fits in.

* `readHead_eq_some`: reading a head off the front of some bytes is the inverse of
  writing it in front of them.
* `head_append_inj`: so no head can be mistaken for another one.
* `exists_arg`: a number has a head of every width it fits in.
* `Opening`: the head of an array or a map, with its length or without.
-/

namespace Cbor

open Wire

inductive Major where
  | unsigned | negative | bytes | text | array | map | tag | simple
  deriving DecidableEq, Repr

def Major.code : Major → Nat
  | unsigned => 0
  | negative => 1
  | bytes => 2
  | text => 3
  | array => 4
  | map => 5
  | tag => 6
  | simple => 7

theorem Major.code_lt (major : Major) : major.code < 8 := by
  cases major <;> decide

theorem Major.code_inj {major major' : Major} (h : major.code = major'.code) :
    major = major' := by
  cases major <;> cases major' <;> first | rfl | cases h

/-- How many bytes follow the initial byte. -/
def tailLength (info : Fin 28) : Nat := if info.val < 24 then 0 else 2 ^ (info.val - 24)

/-- The argument of a head, as it is written. -/
structure Arg where
  info : Fin 28
  tail : Bytes
  length_tail : tail.length = tailLength info
  deriving DecidableEq, Repr

/-- Most significant byte first. -/
def Arg.value (arg : Arg) : Nat :=
  if arg.info.val < 24 then arg.info.val else leValue arg.tail.reverse

def initialByte (major : Major) (info : Nat) : UInt8 := UInt8.ofNat (32 * major.code + info)

def head (major : Major) (arg : Arg) : Bytes := initialByte major arg.info :: arg.tail

def readArg (info : Nat) (input : Bytes) : Option (Arg × Bytes) :=
  if hinfo : info < 28 then
    if htail : tailLength ⟨info, hinfo⟩ ≤ input.length then
      some (⟨⟨info, hinfo⟩, input.take (tailLength ⟨info, hinfo⟩), List.length_take_of_le htail⟩,
        input.drop (tailLength ⟨info, hinfo⟩))
    else none
  else none

def readHead (major : Major) : Bytes → Option (Arg × Bytes)
  | [] => none
  | b :: rest => if b.toNat / 32 = major.code then readArg (b.toNat % 32) rest else none

theorem tailLength_le (info : Fin 28) : tailLength info ≤ 8 := by
  revert info
  decide

theorem Arg.value_lt (arg : Arg) : arg.value < 2 ^ 64 := by
  unfold value
  split
  · omega
  · have hlt := leValue_lt arg.tail.reverse
    have hlength := tailLength_le arg.info
    rw [List.length_reverse, arg.length_tail] at hlt
    calc leValue arg.tail.reverse
        < 256 ^ tailLength arg.info := hlt
      _ ≤ 256 ^ 8 := Nat.pow_le_pow_right (by decide) hlength
      _ = 2 ^ 64 := by decide

theorem toNat_initialByte (major : Major) {info : Nat} (hinfo : info < 32) :
    (initialByte major info).toNat = 32 * major.code + info := by
  have hcode := major.code_lt
  rw [initialByte, UInt8.toNat_ofNat']
  omega

theorem initialByte_inj {major major' : Major} {info info' : Nat} (hinfo : info < 32)
    (hinfo' : info' < 32) (h : initialByte major info = initialByte major' info') :
    major = major' ∧ info = info' := by
  have hnat := congrArg UInt8.toNat h
  rw [toNat_initialByte major hinfo, toNat_initialByte major' hinfo'] at hnat
  have hcode : major.code = major'.code := by omega
  exact ⟨Major.code_inj hcode, by omega⟩

theorem initialByte_eq {major : Major} {b : UInt8} (h : b.toNat / 32 = major.code) :
    initialByte major (b.toNat % 32) = b := by
  have hlt := b.toNat_lt
  apply UInt8.toNat_inj.mp
  rw [toNat_initialByte major (Nat.mod_lt _ (by decide))]
  omega

theorem head_append_inj {major major' : Major} {arg arg' : Arg} {rest rest' : Bytes}
    (h : head major arg ++ rest = head major' arg' ++ rest') :
    major = major' ∧ arg = arg' ∧ rest = rest' := by
  obtain ⟨hbyte, htail⟩ := List.cons.inj h
  obtain ⟨hmajor, hinfo⟩ := initialByte_inj (by omega) (by omega) hbyte
  have hinfo := Fin.ext hinfo
  have hlength : arg.tail.length = arg'.tail.length := by
    rw [arg.length_tail, arg'.length_tail, hinfo]
  obtain ⟨htail, hrest⟩ := List.append_inj htail hlength
  refine ⟨hmajor, ?_, hrest⟩
  cases arg
  cases arg'
  cases hinfo
  cases htail
  rfl

theorem readArg_eq_some {info : Nat} {input rest : Bytes} {arg : Arg} :
    readArg info input = some (arg, rest) ↔ arg.info = info ∧ input = arg.tail ++ rest := by
  constructor
  · intro h
    unfold readArg at h
    split at h
    · split at h
      · cases h
        exact ⟨rfl, (List.take_append_drop _ input).symm⟩
      · cases h
    · cases h
  · rintro ⟨rfl, rfl⟩
    simp [readArg, ← arg.length_tail]

/-- **Reading inverts writing.** -/
theorem readHead_eq_some {major : Major} {b rest : Bytes} {arg : Arg} :
    readHead major b = some (arg, rest) ↔ b = head major arg ++ rest := by
  constructor
  · intro h
    cases b with
    | nil => cases h
    | cons b input =>
      rw [readHead] at h
      split at h
      next hmajor =>
        obtain ⟨hinfo, rfl⟩ := readArg_eq_some.mp h
        rw [head, hinfo, initialByte_eq hmajor]
        rfl
      · cases h
  · rintro rfl
    have hbyte := toNat_initialByte major (show arg.info.val < 32 by omega)
    have hmajor : (32 * major.code + arg.info.val) / 32 = major.code := by omega
    have hinfo : (32 * major.code + arg.info.val) % 32 = arg.info.val := by omega
    rw [head, List.cons_append, readHead, hbyte, if_pos hmajor, hinfo]
    exact readArg_eq_some.mpr ⟨rfl, rfl⟩

/-- What fits in an argument of a given width. -/
def Fits (info : Fin 28) (n : Nat) : Prop :=
  if info.val < 24 then n = info.val else n < 256 ^ tailLength info

theorem exists_arg {info : Fin 28} {n : Nat} (h : Fits info n) :
    ∃ arg : Arg, arg.info = info ∧ arg.value = n := by
  by_cases hinfo : info.val < 24
  · rw [Fits, if_pos hinfo] at h
    refine ⟨⟨info, [], by rw [tailLength, if_pos hinfo]; rfl⟩, rfl, ?_⟩
    rw [Arg.value, if_pos hinfo, h]
  · rw [Fits, if_neg hinfo] at h
    refine ⟨⟨info, (leBytes (tailLength info) n).reverse, by simp⟩, rfl, ?_⟩
    rw [Arg.value, if_neg hinfo, List.reverse_reverse, leValue_leBytes h]

/-! ## Arrays and maps -/

/-- An array or a map announces its length, or is closed by a break. -/
inductive Opening where
  | definite (count : Arg)
  | indefinite
  deriving DecidableEq, Repr

def BREAK : UInt8 := 0xff

namespace Opening

def head (major : Major) : Opening → Bytes
  | definite count => Cbor.head major count
  | indefinite => [initialByte major 31]

def closing : Opening → Bytes
  | definite _ => []
  | indefinite => [BREAK]

def enclose (major : Major) (opening : Opening) (content : Bytes) : Bytes :=
  opening.head major ++ (content ++ opening.closing)

def read (major : Major) : Bytes → Option (Opening × Bytes)
  | [] => none
  | b :: rest =>
    if b = initialByte major 31 then some (indefinite, rest)
    else (readHead major (b :: rest)).map fun (count, rest) => (definite count, rest)

theorem head_definite (major : Major) (count : Arg) :
    (definite count).head major = Cbor.head major count := rfl

theorem head_append_inj {major major' : Major} {opening opening' : Opening} {rest rest' : Bytes}
    (h : opening.head major ++ rest = opening'.head major' ++ rest') :
    major = major' ∧ opening = opening' ∧ rest = rest' := by
  cases opening with
  | definite count =>
    cases opening' with
    | definite count' =>
      obtain ⟨hmajor, rfl, hrest⟩ := Cbor.head_append_inj h
      exact ⟨hmajor, rfl, hrest⟩
    | indefinite =>
      have hinfo := (initialByte_inj (by omega) (by decide) (List.cons.inj h).1).2
      omega
  | indefinite =>
    cases opening' with
    | definite count' =>
      have hinfo := (initialByte_inj (by decide) (by omega) (List.cons.inj h).1).2
      omega
    | indefinite =>
      obtain ⟨hbyte, hrest⟩ := List.cons.inj h
      exact ⟨(initialByte_inj (by decide) (by decide) hbyte).1, rfl, hrest⟩

theorem read_eq_some {major : Major} {b rest : Bytes} {opening : Opening} :
    read major b = some (opening, rest) ↔ b = opening.head major ++ rest := by
  cases b with
  | nil =>
    cases opening <;> simp [read, head, Cbor.head]
  | cons b input =>
    by_cases hb : b = initialByte major 31
    · rw [read, if_pos hb, hb]
      constructor
      · rintro ⟨⟩
        rfl
      · intro h
        have hhead : indefinite.head major ++ input = opening.head major ++ rest := h
        obtain ⟨-, rfl, rfl⟩ := head_append_inj hhead
        rfl
    · rw [read, if_neg hb, Option.map_eq_some_iff]
      constructor
      · rintro ⟨⟨count, rest⟩, hread, ⟨⟩⟩
        exact readHead_eq_some.mp hread
      · intro h
        cases opening with
        | definite count => exact ⟨(count, rest), readHead_eq_some.mpr h, rfl⟩
        | indefinite => exact absurd (List.cons.inj h).1 hb

end Opening

end Cbor
