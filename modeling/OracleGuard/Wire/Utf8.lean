import OracleGuard.Wire.Codec

/-!
The bytes of strings, and what is read back from bytes: a string, or a text in which
what is not UTF-8 is replaced.

* `utf8_inj` and `ofUtf8_eq_some`: strings and their bytes are the same thing.
* `lossy_utf8`: nothing is replaced in the bytes of a string.
* `lossy_append`: the text of bytes in front of an ASCII string is that of the bytes,
  in front of the string.
-/

namespace Wire

def utf8 (s : String) : Bytes := s.toUTF8.data.toList

def ofUtf8 (bytes : Bytes) : Option String := String.fromUTF8? ⟨bytes.toArray⟩

theorem utf8_inj {s t : String} (h : utf8 s = utf8 t) : s = t := by
  apply String.toByteArray_inj.mp
  rw [← String.toUTF8_eq_toByteArray, ← String.toUTF8_eq_toByteArray]
  exact ByteArray.ext (Array.toList_inj.mp h)

theorem utf8_ofList (cs : List Char) :
    utf8 (String.ofList cs) = cs.flatMap String.utf8EncodeChar := by
  rw [utf8, String.toUTF8_eq_toByteArray, String.toByteArray_ofList, List.utf8Encode,
    List.data_toByteArray]

theorem utf8_eq_flatMap (s : String) : utf8 s = s.toList.flatMap String.utf8EncodeChar := by
  rw [← utf8_ofList, String.ofList_toList]

theorem utf8_append (s t : String) : utf8 (s ++ t) = utf8 s ++ utf8 t := by
  rw [utf8_eq_flatMap, String.toList_append, List.flatMap_append, ← utf8_eq_flatMap,
    ← utf8_eq_flatMap]

theorem ofUtf8_utf8 (s : String) : ofUtf8 (utf8 s) = some s := by
  have hbytes : (⟨(utf8 s).toArray⟩ : ByteArray) = s.toByteArray := by
    rw [utf8, String.toUTF8_eq_toByteArray, Array.toArray_toList]
  rw [ofUtf8, hbytes, String.fromUTF8?, dif_pos s.isValidUTF8]
  rfl

theorem ofUtf8_eq_some {bytes : Bytes} {s : String} : ofUtf8 bytes = some s ↔ bytes = utf8 s := by
  constructor
  · intro h
    rw [ofUtf8, String.fromUTF8?] at h
    split at h
    · cases h
      rfl
    · cases h
  · rintro rfl
    exact ofUtf8_utf8 s

/-! ## Replacement -/

/-- The character at the front. -/
def charAt (bytes : Bytes) : Option Char := bytes.toByteArray.utf8DecodeChar? 0

def charWidth (lead : UInt8) : Nat :=
  if lead < 0x80 then 1
  else if 0xC2 ≤ lead ∧ lead ≤ 0xDF then 2
  else if 0xE0 ≤ lead ∧ lead ≤ 0xEF then 3
  else if 0xF0 ≤ lead ∧ lead ≤ 0xF4 then 4
  else 0

def isContinuation (b : UInt8) : Bool := 0x80 ≤ b ∧ b ≤ 0xBF

/-- What may stand second: less than any continuation behind four of the first bytes. -/
def maySecond (lead b : UInt8) : Bool :=
  if lead = 0xE0 then 0xA0 ≤ b ∧ b ≤ 0xBF
  else if lead = 0xED then 0x80 ≤ b ∧ b ≤ 0x9F
  else if lead = 0xF0 then 0x90 ≤ b ∧ b ≤ 0xBF
  else if lead = 0xF4 then 0x80 ≤ b ∧ b ≤ 0x8F
  else isContinuation b

/-- The number of bytes behind the first one that continue its sequence. -/
def sequenceTail (lead : UInt8) : Bytes → Nat
  | [] => 0
  | b :: rest =>
    if 2 ≤ charWidth lead ∧ maySecond lead b then
      1 + ((rest.take (charWidth lead - 2)).takeWhile isContinuation).length
    else 0

/-- A sequence that breaks off is replaced as a whole. The count is of the bytes that
belong to the character before. -/
def lossyChars : Nat → Bytes → List Char
  | _, [] => []
  | skip + 1, _ :: rest => lossyChars skip rest
  | 0, lead :: rest =>
    match charAt (lead :: rest) with
    | some c => c :: lossyChars (c.utf8Size - 1) rest
    | none => '\uFFFD' :: lossyChars (sequenceTail lead rest) rest

/-- `String::from_utf8_lossy` -/
def lossy (bytes : Bytes) : String := String.ofList (lossyChars 0 bytes)

theorem charAt_encode_append (c : Char) (rest : Bytes) :
    charAt (String.utf8EncodeChar c ++ rest) = some c := by
  rw [charAt, List.toByteArray_append]
  exact ByteArray.utf8DecodeChar?_utf8EncodeChar_append

theorem charAt_eq_some {bytes : Bytes} {c : Char} :
    charAt bytes = some c ↔ ∃ rest, bytes = String.utf8EncodeChar c ++ rest := by
  constructor
  · intro h
    obtain ⟨rest, hrest⟩ := ByteArray.exists_of_utf8DecodeChar?_eq_some h
    refine ⟨rest.data.toList, ?_⟩
    have hdata := congrArg (fun b : ByteArray => b.data.toList) hrest
    simpa using hdata
  · rintro ⟨rest, rfl⟩
    exact charAt_encode_append c rest

theorem lossyChars_skip (skip : Nat) (bytes : Bytes) :
    lossyChars skip bytes = lossyChars 0 (bytes.drop skip) := by
  induction bytes generalizing skip with
  | nil => simp [lossyChars]
  | cons b rest ih =>
    cases skip with
    | zero => rfl
    | succ skip => exact ih skip

theorem lossyChars_encode_append (c : Char) (rest : Bytes) :
    lossyChars 0 (String.utf8EncodeChar c ++ rest) = c :: lossyChars 0 rest := by
  have hchar := charAt_encode_append c rest
  have hlength : (String.utf8EncodeChar c).length = c.utf8Size := String.length_utf8EncodeChar c
  cases hencode : String.utf8EncodeChar c with
  | nil =>
    have hpos := c.utf8Size_pos
    rw [← hlength, hencode] at hpos
    cases hpos
  | cons lead tail =>
    rw [hencode, List.cons_append] at hchar
    rw [hencode, List.length_cons] at hlength
    rw [List.cons_append, lossyChars, hchar]
    show c :: lossyChars (c.utf8Size - 1) (tail ++ rest) = _
    rw [lossyChars_skip, ← hlength, Nat.add_sub_cancel, List.drop_left]

theorem lossyChars_flatMap (cs : List Char) :
    lossyChars 0 (cs.flatMap String.utf8EncodeChar) = cs := by
  induction cs with
  | nil => rfl
  | cons c cs ih => rw [List.flatMap_cons, lossyChars_encode_append, ih]

/-- **Nothing is replaced in a string.** -/
theorem lossy_utf8 (s : String) : lossy (utf8 s) = s := by
  rw [lossy, utf8_eq_flatMap, lossyChars_flatMap, String.ofList_toList]

-- a sequence that breaks off, and a surrogate, none of whose bytes continues another
example : lossyChars 0 [0x48, 0xF0, 0x90, 0x80, 0x57] = ['H', '\uFFFD', 'W'] := by
  decide +kernel

example : lossyChars 0 [0xED, 0xA0, 0x80] = ['\uFFFD', '\uFFFD', '\uFFFD'] := by
  decide +kernel

/-! ## In front of ASCII -/

/-- No byte of another sequence stands first. -/
def StartsAscii (bytes : Bytes) : Prop := ∀ b ∈ bytes.head?, b < 0x80

theorem isUTF8FirstByte_of_ascii : ∀ b : UInt8, b < 0x80 → b.IsUTF8FirstByte := by
  have hall : ∀ n < 128, (UInt8.ofNat n).IsUTF8FirstByte := by decide
  intro b hb
  have hbyte := hall b.toNat (UInt8.lt_iff_toNat_lt.mp hb)
  rwa [UInt8.ofNat_toNat] at hbyte

theorem not_isContinuation_of_ascii {b : UInt8} (hb : b < 0x80) : isContinuation b = false := by
  simp only [isContinuation, decide_eq_false_iff_not, not_and]
  exact fun h => absurd hb (UInt8.not_lt.mpr h)

theorem not_maySecond_of_ascii {b : UInt8} (hb : b < 0x80) (lead : UInt8) :
    maySecond lead b = false := by
  rw [UInt8.lt_iff_toNat_lt] at hb
  unfold maySecond isContinuation
  split_ifs <;> simp [UInt8.le_iff_toNat_le] at * <;> omega

theorem takeWhile_isContinuation_append (bytes : Bytes) {rest : Bytes} (hrest : StartsAscii rest) :
    (bytes ++ rest).takeWhile isContinuation = bytes.takeWhile isContinuation := by
  induction bytes with
  | nil =>
    cases rest with
    | nil => rfl
    | cons b rest => simp [not_isContinuation_of_ascii (hrest b rfl)]
  | cons b bytes ih => simp [List.takeWhile_cons, ih]

theorem StartsAscii.take {rest : Bytes} (hrest : StartsAscii rest) (n : Nat) :
    StartsAscii (rest.take n) := by
  cases n with
  | zero => simp [StartsAscii]
  | succ n => rwa [StartsAscii, List.head?_take, if_neg n.succ_ne_zero]

theorem sequenceTail_append (lead : UInt8) (bytes : Bytes) {rest : Bytes}
    (hrest : StartsAscii rest) : sequenceTail lead (bytes ++ rest) = sequenceTail lead bytes := by
  cases bytes with
  | nil =>
    cases rest with
    | nil => rfl
    | cons b rest => simp [sequenceTail, not_maySecond_of_ascii (hrest b rfl)]
  | cons b bytes =>
    rw [List.cons_append, sequenceTail, sequenceTail, List.take_append,
      takeWhile_isContinuation_append _ (hrest.take _)]

theorem sequenceTail_le (lead : UInt8) (bytes : Bytes) :
    sequenceTail lead bytes ≤ bytes.length := by
  cases bytes with
  | nil => exact le_rfl
  | cons b bytes =>
    rw [sequenceTail]
    have hlength := (List.takeWhile_sublist (l := bytes.take (charWidth lead - 2))
      isContinuation).length_le
    rw [List.length_take] at hlength
    split
    · simp
      omega
    · exact Nat.zero_le _

/-- A character is within the bytes in front. -/
theorem encode_append_of_append {c : Char} {bytes rest after : Bytes} (hne : bytes ≠ [])
    (hrest : StartsAscii rest) (h : bytes ++ rest = String.utf8EncodeChar c ++ after) :
    ∃ between, bytes = String.utf8EncodeChar c ++ between ∧ after = between ++ rest := by
  rcases List.append_eq_append_iff.mp h with ⟨tail, henc, hafter⟩ | ⟨between, hbytes, hafter⟩
  · cases tail with
    | nil => exact ⟨[], by simp [henc], by simpa using hafter.symm⟩
    | cons b tail =>
      -- the character would hold a first byte at another place than its first
      have hb : b < 0x80 := hrest b (by simp [hafter])
      have hi : bytes.length < (String.utf8EncodeChar c).length := by simp [henc]
      have hfirst : (String.utf8EncodeChar c)[bytes.length].IsUTF8FirstByte := by
        simpa [henc] using isUTF8FirstByte_of_ascii b hb
      have hzero := UInt8.isUTF8FirstByte_getElem_utf8EncodeChar.mp hfirst
      exact absurd (List.length_eq_zero_iff.mp hzero) hne
  · exact ⟨between, hbytes, hafter⟩

theorem lossyChars_append (bytes : Bytes) {rest : Bytes} (hrest : StartsAscii rest) :
    lossyChars 0 (bytes ++ rest) = lossyChars 0 bytes ++ lossyChars 0 rest := by
  induction hn : bytes.length using Nat.strong_induction_on generalizing bytes with
  | _ n ih =>
  cases bytes with
  | nil => rfl
  | cons lead tail =>
    cases hchar : charAt (lead :: tail ++ rest) with
    | some c =>
      obtain ⟨after, hafter⟩ := charAt_eq_some.mp hchar
      obtain ⟨between, hbytes, rfl⟩ :=
        encode_append_of_append (List.cons_ne_nil _ _) hrest hafter
      have hshort : between.length < n := by
        have hpos := c.utf8Size_pos
        rw [← hn, hbytes, List.length_append, String.length_utf8EncodeChar]
        omega
      rw [hbytes, List.append_assoc, lossyChars_encode_append, lossyChars_encode_append,
        ih between.length hshort between rfl, List.cons_append]
    | none =>
      have hshorter : charAt (lead :: tail) = none := by
        cases hc : charAt (lead :: tail) with
        | none => rfl
        | some c =>
          obtain ⟨after, hafter⟩ := charAt_eq_some.mp hc
          rw [hafter, List.append_assoc, charAt_encode_append] at hchar
          cases hchar
      have hle := sequenceTail_le lead tail
      rw [List.cons_append] at hchar ⊢
      rw [lossyChars, hchar, lossyChars, hshorter]
      show '\uFFFD' :: _ = '\uFFFD' :: _ ++ _
      rw [lossyChars_skip, sequenceTail_append lead tail hrest, List.drop_append_of_le_length hle,
        ih _ (by rw [← hn, List.length_drop, List.length_cons]; omega) _ rfl,
        lossyChars_skip (sequenceTail lead tail) tail, List.cons_append]

/-- **In front of ASCII nothing is replaced together with what follows.** -/
theorem lossy_append (bytes : Bytes) {s : String} (hs : StartsAscii (utf8 s)) :
    lossy (bytes ++ utf8 s) = lossy bytes ++ s := by
  rw [lossy, lossyChars_append bytes hs, String.ofList_append, ← lossy, ← lossy, lossy_utf8]

end Wire
