import OracleGuard.Json.Parser
import OracleGuard.Wire.Utf8

/-!
String literals: quotes around the bytes of a string, where the quote, the
backslash and the control characters are escaped. A reader also takes the escapes
that the writer never uses, surrogate pairs among them.

* `Prefixed`: a reader depends on the bytes it consumes only; readers made of such
  readers do as well.
* `jsonLexicon_lawful`: a lexicon of such literals keeps its promises.
-/

namespace Json

open Wire

/-! ## Readers -/

abbrev Reader (α : Type) := StateT Bytes Option α

def Reader.Prefixed {α : Type} (r : Reader α) : Prop :=
  ∀ (b : Bytes) (a : α) (rest : Bytes), r b = some (a, rest) →
    ∃ text, b = text ++ rest ∧ ∀ rest', r (text ++ rest') = some (a, rest')

def readByte : Reader UInt8
  | [] => none
  | c :: rest => some (c, rest)

/-- A partial result. -/
def ofOption {α : Type} (a : Option α) : Reader α := fun b => a.map fun a => (a, b)

namespace Reader.Prefixed

variable {α β : Type}

theorem readByte : Reader.Prefixed readByte := by
  intro b a rest h
  cases b with
  | nil => cases h
  | cons d b =>
    cases h
    exact ⟨[a], rfl, fun _ => rfl⟩

theorem ofOption (a : Option α) : Reader.Prefixed (ofOption a) := by
  intro b a' rest h
  obtain ⟨a, rfl, heq⟩ := Option.map_eq_some_iff.mp h
  cases heq
  exact ⟨[], rfl, fun _ => rfl⟩

theorem pure (a : α) : Reader.Prefixed (pure a : Reader α) := ofOption (some a)

theorem bind {r : Reader α} {f : α → Reader β} (hr : r.Prefixed) (hf : ∀ a, (f a).Prefixed) :
    (r >>= f).Prefixed := by
  intro b c rest h
  obtain ⟨⟨a, rest₁⟩, ha, hc⟩ := Option.bind_eq_some_iff.mp h
  obtain ⟨text, rfl, hread⟩ := hr _ _ _ ha
  obtain ⟨text', rfl, hread'⟩ := hf a _ _ _ hc
  refine ⟨text ++ text', (List.append_assoc _ _ _).symm, fun rest' => ?_⟩
  rw [List.append_assoc]
  exact Option.bind_eq_some_iff.mpr ⟨(a, text' ++ rest'), hread _, hread' _⟩

end Reader.Prefixed

/-! ## Escapes -/

def BACKSLASH : UInt8 := 0x5c

/-- The letter of a short escape, and the byte it stands for. -/
def SHORT_ESCAPES : List (UInt8 × UInt8) :=
  [(QUOTE, QUOTE), (BACKSLASH, BACKSLASH), (0x2f, 0x2f), (0x62, 0x08), (0x66, 0x0c), (0x6e, 0x0a),
    (0x72, 0x0d), (0x74, 0x09)]

/-- Lowercase. -/
def hexDigit (n : Nat) : UInt8 := if n < 10 then UInt8.ofNat (0x30 + n) else UInt8.ofNat (0x57 + n)

def hexValue (c : UInt8) : Option Nat :=
  if isDigit c then some (c.toNat - 0x30)
  else if 0x61 ≤ c && c ≤ 0x66 then some (c.toNat - 0x57)
  else if 0x41 ≤ c && c ≤ 0x46 then some (c.toNat - 0x37)
  else none

def escapeByte (c : UInt8) : Bytes :=
  if c = QUOTE then [BACKSLASH, QUOTE]
  else if c = BACKSLASH then [BACKSLASH, BACKSLASH]
  else if c = 0x08 then [BACKSLASH, 0x62]
  else if c = 0x0c then [BACKSLASH, 0x66]
  else if c = 0x0a then [BACKSLASH, 0x6e]
  else if c = 0x0d then [BACKSLASH, 0x72]
  else if c = 0x09 then [BACKSLASH, 0x74]
  else if c < 0x20 then
    [BACKSLASH, 0x75, 0x30, 0x30, hexDigit (c.toNat / 16), hexDigit (c.toNat % 16)]
  else [c]

def readHex : Reader Nat := do
  let c ← readByte
  ofOption (hexValue c)

def readUnit : Reader Nat := do
  let a ← readHex
  let b ← readHex
  let c ← readHex
  let d ← readHex
  return ((a * 16 + b) * 16 + c) * 16 + d

/-- The code point of two surrogates. -/
def surrogatePair (high low : Nat) : Option Nat :=
  if 0xd800 ≤ high && high < 0xdc00 && 0xdc00 ≤ low && low < 0xe000 then
    some (0x10000 + (high - 0xd800) * 0x400 + (low - 0xdc00))
  else none

/-- A unit that is no surrogate, or a pair of surrogates in two escapes. -/
def readUnicode : Reader Bytes := do
  let unit ← readUnit
  if unit < 0xd800 || 0xe000 ≤ unit then return String.utf8EncodeChar (Char.ofNat unit)
  else do
    let c ← readByte
    let d ← readByte
    let low ← readUnit
    let point ← ofOption (if c = BACKSLASH && d = 0x75 then surrogatePair unit low else none)
    return String.utf8EncodeChar (Char.ofNat point)

/-- The bytes of one character, or nothing at the closing quote. -/
def readChar : Reader (Option Bytes) := do
  let c ← readByte
  if c = QUOTE then return none
  else if c = BACKSLASH then do
    let e ← readByte
    if e = 0x75 then do
      let bytes ← readUnicode
      return some bytes
    else do
      let byte ← ofOption (SHORT_ESCAPES.lookup e)
      return some [byte]
  else ofOption (if c < 0x20 then none else some (some [c]))

def readChars : Nat → Reader Bytes
  | 0 => ofOption none
  | n + 1 => do
    match ← readChar with
    | none => return []
    | some bytes => do
      let rest ← readChars n
      return bytes ++ rest

/-- Enough fuel for every literal in those bytes. -/
def readString : Bytes → Option (String × Bytes)
  | [] => none
  | c :: b =>
    if c = QUOTE then do
      let (bytes, rest) ← readChars b.length b
      let s ← ofUtf8 bytes
      return (s, rest)
    else none

def writeString (s : String) : Bytes := QUOTE :: ((utf8 s).flatMap escapeByte ++ [QUOTE])

def stringCodec : Codec String where
  encode s := some (writeString s)
  decode := readString

/-! ## A read depends on the literal alone -/

theorem readHex_prefixed : readHex.Prefixed :=
  .bind .readByte fun _ => .ofOption _

theorem readUnit_prefixed : readUnit.Prefixed :=
  .bind readHex_prefixed fun _ => .bind readHex_prefixed fun _ => .bind readHex_prefixed fun _ =>
    .bind readHex_prefixed fun _ => .pure _

theorem readUnicode_prefixed : readUnicode.Prefixed := by
  refine .bind readUnit_prefixed fun unit => ?_
  split
  · exact .pure _
  · exact .bind .readByte fun _ => .bind .readByte fun _ => .bind readUnit_prefixed fun _ =>
      .bind (.ofOption _) fun _ => .pure _

theorem readChar_prefixed : readChar.Prefixed := by
  refine .bind .readByte fun c => ?_
  split
  · exact .pure _
  split
  · refine .bind .readByte fun e => ?_
    split
    · exact .bind readUnicode_prefixed fun _ => .pure _
    · exact .bind (.ofOption _) fun _ => .pure _
  · exact .ofOption _

/-- Fuel for every byte of the text is enough. -/
theorem readChars_prefixed {n : Nat} {b bytes rest : Bytes}
    (h : readChars n b = some (bytes, rest)) :
    ∃ text, b = text ++ rest ∧
      ∀ m rest', text.length ≤ m → readChars m (text ++ rest') = some (bytes, rest') := by
  induction n generalizing b bytes with
  | zero => cases h
  | succ n ih =>
    obtain ⟨⟨char, rest₁⟩, hchar, hrest⟩ := Option.bind_eq_some_iff.mp h
    obtain ⟨text, rfl, hread⟩ := readChar_prefixed _ _ _ hchar
    have hpos : 0 < text.length := by
      cases text with
      | nil => cases hread []
      | cons => exact Nat.succ_pos _
    -- one byte of fuel pays for the character
    cases char with
    | none =>
      cases hrest
      refine ⟨text, rfl, fun m rest' hm => ?_⟩
      cases m with
      | zero => omega
      | succ m => exact Option.bind_eq_some_iff.mpr ⟨_, hread rest', rfl⟩
    | some char =>
      obtain ⟨⟨bytes, rest₂⟩, hbytes, heq⟩ := Option.bind_eq_some_iff.mp hrest
      cases heq
      obtain ⟨text', rfl, hread'⟩ := ih hbytes
      refine ⟨text ++ text', (List.append_assoc _ _ _).symm, fun m rest' hm => ?_⟩
      rw [List.length_append] at hm
      cases m with
      | zero => omega
      | succ m =>
        rw [List.append_assoc]
        refine Option.bind_eq_some_iff.mpr ⟨_, hread _, ?_⟩
        exact Option.bind_eq_some_iff.mpr ⟨_, hread' m rest' (by omega), rfl⟩

theorem readString_prefixed {b : Bytes} {s : String} {rest : Bytes}
    (h : readString b = some (s, rest)) :
    ∃ text, b = text ++ rest ∧ ∀ rest', readString (text ++ rest') = some (s, rest') := by
  cases b with
  | nil => cases h
  | cons c b =>
    rw [readString] at h
    split at h
    next hquote =>
      obtain ⟨⟨bytes, rest₁⟩, hbytes, h⟩ := Option.bind_eq_some_iff.mp h
      obtain ⟨s, hs, heq⟩ := Option.bind_eq_some_iff.mp h
      cases heq
      obtain ⟨text, rfl, hread⟩ := readChars_prefixed hbytes
      refine ⟨c :: text, rfl, fun rest' => ?_⟩
      have hbytes' := hread (text ++ rest').length rest' (by rw [List.length_append]; omega)
      rw [List.cons_append, readString, if_pos hquote, hbytes']
      show (ofUtf8 bytes >>= _) = _
      rw [hs]
      rfl
    · cases h

theorem readString_quoted {b : Bytes} {p : String × Bytes} (h : readString b = some p) :
    b.head? = some QUOTE := by
  cases b with
  | nil => cases h
  | cons c b =>
    rw [readString] at h
    split at h
    next hquote => rw [hquote, List.head?_cons]
    · cases h

/-! ## What is written is read back -/

theorem hexValue_hexDigit {n : Nat} (hn : n < 16) : hexValue (hexDigit n) = some n := by
  have hall : ∀ k : Fin 16, hexValue (hexDigit k) = some k.val := by decide
  exact hall ⟨n, hn⟩

theorem readHex_hexDigit {n : Nat} (hn : n < 16) (rest : Bytes) :
    readHex (hexDigit n :: rest) = some (n, rest) := by
  show (hexValue (hexDigit n)).map _ = _
  rw [hexValue_hexDigit hn]
  rfl

theorem readUnit_digits {i j k l : Nat} (hi : i < 16) (hj : j < 16) (hk : k < 16) (hl : l < 16)
    (rest : Bytes) :
    readUnit (hexDigit i :: hexDigit j :: hexDigit k :: hexDigit l :: rest) =
      some (((i * 16 + j) * 16 + k) * 16 + l, rest) := by
  refine Option.bind_eq_some_iff.mpr ⟨_, readHex_hexDigit hi _, ?_⟩
  refine Option.bind_eq_some_iff.mpr ⟨_, readHex_hexDigit hj _, ?_⟩
  refine Option.bind_eq_some_iff.mpr ⟨_, readHex_hexDigit hk _, ?_⟩
  exact Option.bind_eq_some_iff.mpr ⟨_, readHex_hexDigit hl _, rfl⟩

theorem utf8EncodeChar_control {c : UInt8} (hc : c < 0x20) :
    String.utf8EncodeChar (Char.ofNat c.toNat) = [c] := by
  have hall : ∀ k : Fin 32, String.utf8EncodeChar (Char.ofNat k) = [UInt8.ofNat k] := by decide
  have hc' := hall ⟨c.toNat, UInt8.lt_iff_toNat_lt.mp hc⟩
  rwa [UInt8.ofNat_toNat] at hc'

theorem readUnicode_control {c : UInt8} (hc : c < 0x20) (rest : Bytes) :
    readUnicode (0x30 :: 0x30 :: hexDigit (c.toNat / 16) :: hexDigit (c.toNat % 16) :: rest) =
      some ([c], rest) := by
  have hlt : c.toNat < 32 := UInt8.lt_iff_toNat_lt.mp hc
  have hunit := readUnit_digits (show 0 < 16 by decide) (show 0 < 16 by decide)
    (show c.toNat / 16 < 16 by omega) (show c.toNat % 16 < 16 by omega) rest
  have hvalue : ((0 * 16 + 0) * 16 + c.toNat / 16) * 16 + c.toNat % 16 = c.toNat := by omega
  rw [hvalue] at hunit
  refine Option.bind_eq_some_iff.mpr ⟨_, hunit, ?_⟩
  have hbmp : (decide (c.toNat < 0xd800) || decide (0xe000 ≤ c.toNat)) = true := by
    rw [Bool.or_eq_true]
    exact .inl (decide_eq_true (by omega))
  simp only [hbmp, if_true, utf8EncodeChar_control hc]
  rfl

theorem readChar_escapeByte (c : UInt8) (rest : Bytes) :
    readChar (escapeByte c ++ rest) = some (some [c], rest) := by
  unfold escapeByte
  split
  next h => rw [h]; rfl
  split
  next h => rw [h]; rfl
  split
  next h => rw [h]; rfl
  split
  next h => rw [h]; rfl
  split
  next h => rw [h]; rfl
  split
  next h => rw [h]; rfl
  split
  next h => rw [h]; rfl
  split
  next hcontrol =>
    exact Option.bind_eq_some_iff.mpr ⟨_, readUnicode_control hcontrol rest, rfl⟩
  next hquote hbackslash _ _ _ _ _ hcontrol =>
    show (if c = QUOTE then _ else _ : Reader (Option Bytes)) rest = _
    rw [if_neg hquote, if_neg hbackslash, if_neg hcontrol]
    rfl

theorem readChars_escaped {bytes : Bytes} {n : Nat} (hn : bytes.length < n) (rest : Bytes) :
    readChars n (bytes.flatMap escapeByte ++ QUOTE :: rest) = some (bytes, rest) := by
  induction bytes generalizing n with
  | nil =>
    cases n with
    | zero => cases hn
    | succ n => rfl
  | cons c bytes ih =>
    cases n with
    | zero => cases hn
    | succ n =>
      rw [List.flatMap_cons, List.append_assoc]
      refine Option.bind_eq_some_iff.mpr ⟨_, readChar_escapeByte c _, ?_⟩
      exact Option.bind_eq_some_iff.mpr ⟨_, ih (Nat.lt_of_succ_lt_succ hn), rfl⟩

theorem length_escapeByte_pos (c : UInt8) : 0 < (escapeByte c).length := by
  cases h : escapeByte c with
  | nil =>
    have hread := readChar_escapeByte c []
    rw [h] at hread
    cases hread
  | cons => exact Nat.succ_pos _

theorem length_le_escaped (bytes : Bytes) :
    bytes.length ≤ (bytes.flatMap escapeByte).length := by
  induction bytes with
  | nil => exact Nat.le_refl 0
  | cons c bytes ih =>
    have hpos := length_escapeByte_pos c
    rw [List.flatMap_cons, List.length_append, List.length_cons]
    omega

theorem readString_writeString (s : String) (rest : Bytes) :
    readString (writeString s ++ rest) = some (s, rest) := by
  have hlength := length_le_escaped (utf8 s)
  have hfuel : (utf8 s).length <
      ((utf8 s).flatMap escapeByte ++ QUOTE :: rest).length := by
    rw [List.length_append, List.length_cons]
    omega
  have hbytes := readChars_escaped hfuel rest
  have htext : writeString s ++ rest =
      QUOTE :: ((utf8 s).flatMap escapeByte ++ QUOTE :: rest) := by
    simp [writeString]
  rw [htext, readString, if_pos rfl, hbytes]
  show (ofUtf8 (utf8 s) >>= _) = _
  rw [ofUtf8_utf8]
  rfl

def jsonLexicon (float : Bytes → Option UInt64) : Lexicon String where
  string := stringCodec
  float := float

theorem jsonLexicon_lawful (float : Bytes → Option UInt64) : (jsonLexicon float).Lawful where
  lawful s rest := ⟨writeString s, rfl, readString_writeString s rest⟩
  prefixed h := readString_prefixed h
  quoted h := readString_quoted h

end Json
