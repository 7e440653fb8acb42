import OracleGuard.Adapter.Intake
import OracleGuard.Fallible
import OracleGuard.Wire.PrefixFree

/-!
The receipt frame as a format: what is accepted, and where it ends.

* `parseCliReceipt_eq_ok`: the accepted byte strings are the frames whose output
  bytes decode.
* `parseCliReceiptChecked_eq`: no slice, copy or sum of the parser is out of range.
* `receipt_frame_codec`: the round trip, the fields and the prefixes of a frame.
-/

namespace OracleGuard

open Fallible Wire

/-! ## Every accepted byte string is a frame -/

theorem slice_append_slice {raw : Bytes} {i j k : Nat} (hij : i ≤ j) (hjk : j ≤ k)
    (hk : k ≤ raw.length) : slice raw i j ++ slice raw j k = slice raw i k := by
  have htake : raw.take j = (raw.take k).take j := by rw [List.take_take, Nat.min_eq_left hjk]
  have hlength : i ≤ ((raw.take k).take j).length := by
    rw [← htake, List.length_take_of_le (hjk.trans hk)]
    exact hij
  rw [slice, slice, htake, ← List.drop_append_of_le_length hlength, List.take_append_drop]
  rfl

theorem length_slice {raw : Bytes} {i j : Nat} (hj : j ≤ raw.length) :
    (slice raw i j).length = j - i := by
  rw [slice, List.length_drop, List.length_take_of_le hj]

theorem slice_one {raw : Bytes} {i : Nat} (hi : i < raw.length) :
    slice raw i (i + 1) = [raw.getD i 0] := by
  have hlength : (raw.take i).length = i := List.length_take_of_le hi.le
  have htake : raw.take (i + 1) = raw.take i ++ [raw.getD i 0] := by
    rw [List.take_add_one, List.getD_eq_getElem?_getD, List.getElem?_eq_getElem hi]
    rfl
  rw [slice, htake, List.drop_left' hlength]

/-- The header, field by field, and then the output. -/
theorem slices_eq {raw : Bytes} (h : HEADER_LEN ≤ raw.length) :
    raw = slice raw 0 32 ++ [raw.getD 32 0] ++ slice raw 33 41 ++ slice raw 41 45 ++
      slice raw 45 raw.length := by
  have hlength : 45 ≤ raw.length := h
  rw [← slice_one (show 32 < raw.length by omega),
    slice_append_slice (by decide) (by decide) (by omega),
    slice_append_slice (by decide) (by decide) (by omega),
    slice_append_slice (by decide) (by decide) (by omega),
    slice_append_slice (by decide) hlength (Nat.le_refl _), slice, List.take_length]
  rfl

theorem toList_copyFromSlice {bytes : Bytes} (h : bytes.length = 32) :
    (copyFromSlice bytes).toList = bytes := by
  apply List.ext_getElem
  · simp [h]
  · intro k _ hk
    simp [copyFromSlice, hk]

theorem IntentStatus.ofByte_eq_some {b : UInt8} {status : IntentStatus} :
    ofByte b = some status ↔ b = status.toByte := by
  constructor
  · intro h
    unfold ofByte at h
    split_ifs at h with hcommitted hpending
    · cases h
      exact hcommitted
    · cases h
      exact hpending
  · rintro rfl
    exact status.ofByte_toByte

theorem leValue_slice_lt {raw : Bytes} {i j : Nat} (hj : j ≤ raw.length) :
    leValue (slice raw i j) < 256 ^ (j - i) := by
  have h := leValue_lt (slice raw i j)
  rwa [length_slice hj] at h

theorem leBytes_slice {raw : Bytes} {i j : Nat} (hj : j ≤ raw.length) :
    leBytes (j - i) (leValue (slice raw i j)) = slice raw i j := by
  have h := leBytes_leValue (slice raw i j)
  rwa [length_slice hj] at h

/-- A length field that is right and a status byte make a frame. -/
theorem exists_frame {raw : Bytes} {status : IntentStatus}
    (hlength : raw.length = HEADER_LEN + leValue (slice raw 41 45))
    (hstatus : raw.getD 32 0 = status.toByte) :
    ∃ frame : CliFrame, raw = frame.bytes := by
  have hlong : 45 ≤ raw.length := hlength ▸ Nat.le_add_right 45 _
  have hsize : (slice raw 45 raw.length).length = leValue (slice raw 41 45) := by
    rw [length_slice (Nat.le_refl _), hlength]
    exact Nat.add_sub_cancel_left 45 _
  have hfits : leValue (slice raw 41 45) < 2 ^ 32 := leValue_slice_lt hlong
  have hheight : leValue (slice raw 33 41) < 2 ^ 64 :=
    leValue_slice_lt (show 41 ≤ raw.length by omega)
  have hintentId : (copyFromSlice (slice raw 0 32)).toList = slice raw 0 32 :=
    toList_copyFromSlice (length_slice (show 32 ≤ raw.length by omega))
  have hcommitted : leBytes 8 (leValue (slice raw 33 41)) = slice raw 33 41 :=
    @leBytes_slice raw 33 41 (by omega)
  have houtputLen : leBytes 4 (leValue (slice raw 41 45)) = slice raw 41 45 :=
    @leBytes_slice raw 41 45 hlong
  refine ⟨⟨copyFromSlice (slice raw 0 32), status, UInt64.ofNat (leValue (slice raw 33 41)),
    slice raw 45 raw.length, hsize ▸ hfits⟩, ?_⟩
  simp only [CliFrame.bytes, CliFrame.header, hintentId, ← hstatus,
    UInt64.toNat_ofNat_of_lt' hheight, hcommitted, hsize, houtputLen]
  exact slices_eq hlong

theorem parseConsensusOutput_eq_ok {pc : Postcard} {bytes : Bytes} {output : AuthorizationResult} :
    parseConsensusOutput pc bytes = .ok output ↔
      AuthorizationResult.decode pc bytes = .ok output := by
  unfold parseConsensusOutput
  cases AuthorizationResult.decode pc bytes <;> simp [Except.mapError]

/-- **Every accepted byte string is a frame.** -/
theorem parseCliReceipt_eq_ok {pc : Postcard} {raw : Bytes} {receipt : IntentReceiptV1} :
    parseCliReceipt pc raw = .ok receipt ↔
      ∃ frame : CliFrame, raw = frame.bytes ∧ receipt.intentId = frame.intentId ∧
        receipt.status = frame.status ∧ receipt.committedHeight = frame.committedHeight ∧
        AuthorizationResult.decode pc frame.output = .ok receipt.output := by
  constructor
  · intro h
    have hframe : ∃ frame : CliFrame, raw = frame.bytes := by
      simp only [parseCliReceipt] at h
      obtain ⟨-, h⟩ := guard_eq_ok.mp h
      split at h
      · cases h
      next status hstatus =>
        obtain ⟨hlength, -⟩ := guard_eq_ok.mp h
        exact exists_frame (not_not.mp hlength) (IntentStatus.ofByte_eq_some.mp hstatus)
    obtain ⟨frame, rfl⟩ := hframe
    rw [parseCliReceipt_frame] at h
    obtain ⟨output, houtput, rfl⟩ := map_eq_ok.mp h
    exact ⟨frame, rfl, rfl, rfl, rfl, parseConsensusOutput_eq_ok.mp houtput⟩
  · rintro ⟨frame, rfl, hintentId, hstatus, hheight, houtput⟩
    rw [parseCliReceipt_frame, parseConsensusOutput_eq_ok.mpr houtput, ← hintentId, ← hstatus,
      ← hheight]
    rfl

/-! ## No slice is out of range

The parser once more, with the panics of its slices, copies and sums. -/

/-- `raw[start..stop]` -/
def sliceChecked (raw : Bytes) (start stop : Nat) : Option Bytes :=
  if start ≤ stop ∧ stop ≤ raw.length then some (slice raw start stop) else none

/-- `copy_from_slice` into an array of `n` bytes -/
def copyChecked (n : Nat) (bytes : Bytes) : Option Bytes :=
  if bytes.length = n then some bytes else none

/-- The sum of two `usize` values of 64 bits -/
def addChecked (a b : Nat) : Option Nat := if a + b < 2 ^ 64 then some (a + b) else none

def parseCliReceiptChecked (pc : Postcard) (raw : Bytes) :
    Option (Except IntakeError IntentReceiptV1) :=
  if raw.length < HEADER_LEN then return .error .malformedReceipt
  else do
    let intentId ← copyChecked 32 (← sliceChecked raw 0 32)
    match IntentStatus.ofByte (← raw[32]?) with
    | none => return .error .malformedReceipt
    | some status =>
      let committedBytes ← copyChecked 8 (← sliceChecked raw 33 41)
      let outputLenBytes ← copyChecked 4 (← sliceChecked raw 41 45)
      let total ← addChecked HEADER_LEN (leValue outputLenBytes)
      if raw.length ≠ total then return .error .malformedReceipt
      else
        let outputBytes ← sliceChecked raw HEADER_LEN total
        match parseConsensusOutput pc outputBytes with
        | .error err => return .error err
        | .ok output => return .ok {
            intentId := copyFromSlice intentId
            status
            committedHeight := UInt64.ofNat (leValue committedBytes)
            output }

theorem sliceChecked_eq {raw : Bytes} {start stop : Nat} (hstart : start ≤ stop)
    (hstop : stop ≤ raw.length) : sliceChecked raw start stop = some (slice raw start stop) :=
  if_pos ⟨hstart, hstop⟩

theorem copyChecked_slice {raw : Bytes} {start stop : Nat} (hstop : stop ≤ raw.length) :
    copyChecked (stop - start) (slice raw start stop) = some (slice raw start stop) :=
  if_pos (length_slice hstop)

/-- **The parser never panics.** -/
theorem parseCliReceiptChecked_eq (pc : Postcard) (raw : Bytes) :
    parseCliReceiptChecked pc raw = some (parseCliReceipt pc raw) := by
  unfold parseCliReceiptChecked parseCliReceipt
  by_cases hheader : raw.length < HEADER_LEN
  · rw [if_pos hheader, if_pos hheader]
    rfl
  · rw [if_neg hheader, if_neg hheader]
    have hlong : 45 ≤ raw.length := Nat.not_lt.mp hheader
    have hintentId : copyChecked 32 (slice raw 0 32) = some (slice raw 0 32) :=
      copyChecked_slice (show 32 ≤ raw.length by omega)
    have hcommitted : copyChecked 8 (slice raw 33 41) = some (slice raw 33 41) :=
      copyChecked_slice (show 41 ≤ raw.length by omega)
    have houtputLen : copyChecked 4 (slice raw 41 45) = some (slice raw 41 45) :=
      copyChecked_slice hlong
    have hfits : leValue (slice raw 41 45) < 2 ^ 32 := leValue_slice_lt hlong
    have htotal : addChecked HEADER_LEN (leValue (slice raw 41 45)) =
        some (HEADER_LEN + leValue (slice raw 41 45)) :=
      if_pos (by rw [HEADER_LEN]; omega)
    have hstatus : raw[32]? = some (raw.getD 32 0) := by
      have h32 : 32 < raw.length := by omega
      rw [List.getD_eq_getElem?_getD, List.getElem?_eq_getElem h32]
      rfl
    simp only [sliceChecked_eq (Nat.zero_le 32) (show 32 ≤ raw.length by omega),
      sliceChecked_eq (show 33 ≤ 41 by decide) (show 41 ≤ raw.length by omega),
      sliceChecked_eq (show 41 ≤ 45 by decide) hlong, hintentId, hcommitted, houtputLen, htotal,
      hstatus, Option.bind_eq_bind, Option.bind_some]
    cases IntentStatus.ofByte (raw.getD 32 0) with
    | none => rfl
    | some status =>
      by_cases hlength : raw.length = HEADER_LEN + leValue (slice raw 41 45)
      · have houtput : sliceChecked raw HEADER_LEN (HEADER_LEN + leValue (slice raw 41 45)) =
            some (slice raw HEADER_LEN (HEADER_LEN + leValue (slice raw 41 45))) :=
          sliceChecked_eq (Nat.le_add_right _ _) hlength.ge
        simp only [if_neg (not_not.mpr hlength), houtput, Option.bind_some]
        cases parseConsensusOutput pc
          (slice raw HEADER_LEN (HEADER_LEN + leValue (slice raw 41 45))) <;> rfl
      · simp only [if_pos hlength]
        rfl

/-! ## Fields and prefixes -/

/-- What an accepted byte string says, each field in its own range. -/
structure ReadsFields (pc : Postcard) (raw : Bytes) (receipt : IntentReceiptV1) : Prop where
  length : raw.length = 45 + leValue (slice raw 41 45)
  status : raw[32]? = some 0x01 ∧ receipt.status = .committed ∨
    raw[32]? = some 0x02 ∧ receipt.status = .pending
  intentId : receipt.intentId.toList = slice raw 0 32
  committedHeight : receipt.committedHeight.toNat = leValue (slice raw 33 41)
  output : AuthorizationResult.decode pc (slice raw 45 raw.length) = .ok receipt.output

theorem CliFrame.getElem?_status (frame : CliFrame) :
    frame.bytes[32]? = some frame.status.toByte := by
  simp [bytes, header]

theorem parseCliReceipt_fields {pc : Postcard} {raw : Bytes} {receipt : IntentReceiptV1}
    (h : parseCliReceipt pc raw = .ok receipt) : ReadsFields pc raw receipt := by
  obtain ⟨frame, rfl, hintentId, hstatus, hheight, houtput⟩ := parseCliReceipt_eq_ok.mp h
  have hlength : frame.bytes.length = 45 + frame.output.length := frame.length_bytes
  have houtputBytes : slice frame.bytes 45 frame.bytes.length = frame.output := by
    rw [hlength]
    exact frame.slice_output
  refine ⟨?_, ?_, ?_, ?_, ?_⟩
  · rw [frame.slice_outputLen, leValue_leBytes frame.length_lt, hlength]
  · rw [frame.getElem?_status, hstatus]
    cases frame.status with
    | committed => exact .inl ⟨rfl, rfl⟩
    | pending => exact .inr ⟨rfl, rfl⟩
  · rw [frame.slice_intentId, hintentId]
  · rw [frame.slice_committedHeight, leValue_leBytes frame.committedHeight.toNat_lt, hheight]
  · rw [houtputBytes, houtput]

theorem parseCliReceipt_prefixFree (pc : Postcard) :
    PrefixFree fun raw => ∃ receipt, parseCliReceipt pc raw = .ok receipt := by
  refine @PrefixFree.of_length _ _ 45 (fun header => 45 + leValue (slice header 41 45)) ?_
  rintro raw ⟨receipt, h⟩
  have hlength := (parseCliReceipt_fields h).length
  refine ⟨by omega, ?_⟩
  have hheader : slice (raw.take 45) 41 45 = slice raw 41 45 := by
    rw [slice, slice, List.take_take, Nat.min_self]
  rw [hlength, hheader]

/-- **The receipt frame.** -/
theorem receipt_frame_codec {pc : Postcard} (hpc : pc.Documented) :
    (∀ receipt, ∃ raw, renderCliReceipt pc receipt = .ok raw ∧
      parseCliReceipt pc raw = .ok receipt) ∧
    (∀ raw, parseCliReceiptChecked pc raw = some (parseCliReceipt pc raw)) ∧
    (∀ raw receipt, parseCliReceipt pc raw = .ok receipt → ReadsFields pc raw receipt) ∧
    ∀ raw receipt, parseCliReceipt pc raw = .ok receipt →
      (∀ n < raw.length, ∃ err, parseCliReceipt pc (raw.take n) = .error err) ∧
      ∀ rest ≠ [], ∃ err, parseCliReceipt pc (raw ++ rest) = .error err := by
  have hfree := parseCliReceipt_prefixFree pc
  refine ⟨renderCliReceipt_ok hpc, parseCliReceiptChecked_eq pc,
    fun raw receipt h => parseCliReceipt_fields h, fun raw receipt h => ⟨?_, ?_⟩⟩
  · intro n hn
    exact exists_error (hfree.not_take ⟨receipt, h⟩ hn)
  · intro rest hrest
    exact exists_error (hfree.not_append ⟨receipt, h⟩ hrest)

def deniedReceipt : IntentReceiptV1 where
  intentId := Vector.replicate 32 0x42
  status := .committed
  committedHeight := 7
  output := .denied .releaseCapExceeded .grant

def deniedFrame : Bytes :=
  List.replicate 32 0x42 ++ [0x01, 7, 0, 0, 0, 0, 0, 0, 0, 3, 0, 0, 0, 0x01, 0x05, 0x02]

/-- A denial is three bytes, and without the last one the frame is no frame. -/
theorem receipt_frame_codec_denied :
    ReadsFields .reference deniedFrame deniedReceipt ∧
      ∃ err, parseCliReceipt .reference (deniedFrame.take 47) = .error err := by
  have hparse : parseCliReceipt .reference deniedFrame = .ok deniedReceipt := by decide
  have h := receipt_frame_codec Postcard.reference_documented
  exact ⟨h.2.2.1 _ _ hparse, (h.2.2.2 _ _ hparse).1 47 (by decide)⟩

end OracleGuard
