import OracleGuard.Adapter.Settlement
import OracleGuard.Wire.Words

/-!
Intake of consensus output: the receipt frame of the command line client around
the bytes of an authorization result.

* `parseCliReceipt_frame`: a frame is parsed to its fields and to whatever its
  output bytes decode to.
* `renderCliReceipt_ok`: every receipt has a frame, which is parsed back.
-/

namespace OracleGuard

open Wire

inductive IntakeError where
  | decode (err : AuthorizationResultDecodeError)
  | malformedReceipt
  deriving DecidableEq, Repr

def parseConsensusOutput (pc : Postcard) (bytes : Bytes) : Except IntakeError AuthorizationResult :=
  (AuthorizationResult.decode pc bytes).mapError .decode

def HEADER_LEN : Nat := 32 + 1 + 8 + 4

/-- The slice `raw[start..stop]`. -/
def slice (raw : Bytes) (start stop : Nat) : Bytes := (raw.take stop).drop start

/-- A slice of 32 bytes copied into an array. -/
def copyFromSlice (bytes : Bytes) : Bytes32 := Vector.ofFn fun k => bytes.getD k 0

def IntentStatus.ofByte (b : UInt8) : Option IntentStatus :=
  if b = 0x01 then some .committed else if b = 0x02 then some .pending else none

def IntentStatus.toByte : IntentStatus → UInt8
  | committed => 0x01
  | pending => 0x02

def parseCliReceipt (pc : Postcard) (raw : Bytes) : Except IntakeError IntentReceiptV1 :=
  if raw.length < HEADER_LEN then .error .malformedReceipt
  else
    let intentId := copyFromSlice (slice raw 0 32)
    match IntentStatus.ofByte (raw.getD 32 0) with
    | none => .error .malformedReceipt
    | some status =>
      let committedHeight := UInt64.ofNat (leValue (slice raw 33 41))
      let outputLen := leValue (slice raw 41 45)
      if raw.length ≠ HEADER_LEN + outputLen then .error .malformedReceipt
      else
        let outputBytes := slice raw HEADER_LEN (HEADER_LEN + outputLen)
        match parseConsensusOutput pc outputBytes with
        | .error err => .error err
        | .ok output => .ok { intentId, status, committedHeight, output }

def renderCliReceipt (pc : Postcard) (receipt : IntentReceiptV1) : Except IntakeError Bytes :=
  match receipt.output.encode pc with
  | .error err => .error (.decode err)
  | .ok outputBytes =>
    if outputBytes.length < 2 ^ 32 then
      .ok (receipt.intentId.toList ++ [receipt.status.toByte] ++
        leBytes 8 receipt.committedHeight.toNat ++ leBytes 4 outputBytes.length ++ outputBytes)
    else .error .malformedReceipt

/-! ## Frames -/

/-- A frame around given output bytes: their length fits the field for it. -/
structure CliFrame where
  intentId : Bytes32
  status : IntentStatus
  committedHeight : UInt64
  output : Bytes
  length_lt : output.length < 2 ^ 32

namespace CliFrame

def header (frame : CliFrame) : Bytes :=
  frame.intentId.toList ++ [frame.status.toByte] ++ leBytes 8 frame.committedHeight.toNat ++
    leBytes 4 frame.output.length

def bytes (frame : CliFrame) : Bytes := frame.header ++ frame.output

theorem length_header (frame : CliFrame) : frame.header.length = HEADER_LEN := by
  simp [header, HEADER_LEN]

end CliFrame

theorem IntentStatus.ofByte_toByte (status : IntentStatus) :
    ofByte status.toByte = some status := by
  cases status <;> rfl

theorem copyFromSlice_toList (v : Bytes32) : copyFromSlice v.toList = v := by
  ext k hk
  simp [copyFromSlice]

/-- The bytes behind a prefix and before the rest. -/
theorem slice_append (pre mid post : Bytes) {start stop : Nat} (hstart : pre.length = start)
    (hstop : (pre ++ mid).length = stop) : slice (pre ++ (mid ++ post)) start stop = mid := by
  rw [slice, ← List.append_assoc, List.take_left' hstop, List.drop_left' hstart]

namespace CliFrame

variable (frame : CliFrame)

theorem slice_intentId : slice frame.bytes 0 32 = frame.intentId.toList := by
  simp only [bytes, header, List.append_assoc]
  exact slice_append [] _ _ rfl (by simp)

theorem getD_status : frame.bytes.getD 32 0 = frame.status.toByte := by
  simp [bytes, header]

theorem slice_committedHeight :
    slice frame.bytes 33 41 = leBytes 8 frame.committedHeight.toNat := by
  have hpre : (frame.intentId.toList ++ [frame.status.toByte]).length = 33 := by simp
  have h := slice_append _ (leBytes 8 frame.committedHeight.toNat)
    (leBytes 4 frame.output.length ++ frame.output) hpre
    (by rw [List.length_append, hpre, length_leBytes])
  simpa only [bytes, header, List.append_assoc] using h

theorem slice_outputLen : slice frame.bytes 41 45 = leBytes 4 frame.output.length := by
  have hpre : (frame.intentId.toList ++ [frame.status.toByte] ++
      leBytes 8 frame.committedHeight.toNat).length = 41 := by simp
  have h := slice_append _ (leBytes 4 frame.output.length) frame.output hpre
    (by rw [List.length_append, hpre, length_leBytes])
  simpa only [bytes, header, List.append_assoc] using h

theorem slice_output :
    slice frame.bytes HEADER_LEN (HEADER_LEN + frame.output.length) = frame.output := by
  have h := slice_append frame.header frame.output [] frame.length_header
    (by rw [List.length_append, frame.length_header])
  rwa [List.append_nil] at h

theorem length_bytes : frame.bytes.length = HEADER_LEN + frame.output.length := by
  rw [bytes, List.length_append, frame.length_header]

end CliFrame

/-- **A frame is parsed to its fields.** -/
theorem parseCliReceipt_frame (pc : Postcard) (frame : CliFrame) :
    parseCliReceipt pc frame.bytes =
      (parseConsensusOutput pc frame.output).map fun output =>
        ⟨frame.intentId, frame.status, frame.committedHeight, output⟩ := by
  have hheight : leValue (leBytes 8 frame.committedHeight.toNat) = frame.committedHeight.toNat :=
    leValue_leBytes frame.committedHeight.toNat_lt
  have hlength : leValue (leBytes 4 frame.output.length) = frame.output.length :=
    leValue_leBytes frame.length_lt
  have hlong : ¬ HEADER_LEN + frame.output.length < HEADER_LEN := by omega
  simp only [parseCliReceipt, frame.slice_intentId, frame.getD_status,
    frame.slice_committedHeight, frame.slice_outputLen, hheight, hlength, frame.slice_output,
    frame.length_bytes, IntentStatus.ofByte_toByte, copyFromSlice_toList, UInt64.ofNat_toNat,
    hlong, if_false, ne_eq, not_true_eq_false]
  cases parseConsensusOutput pc frame.output <;> rfl

theorem AuthorizationResult.encode_ok {pc : Postcard} (hpc : pc.Documented)
    (output : AuthorizationResult) : ∃ b, output.encode pc = .ok b := by
  obtain ⟨b, hb, -⟩ := (codec_hasLayout hpc).selfDelimiting.lawful output []
  exact ⟨b, (Codec.toVec_eq_ok _ _ _ _).mpr hb⟩

theorem AuthorizationResult.decode_encode {pc : Postcard} (hpc : pc.Documented)
    {output : AuthorizationResult} {b : Bytes} (hb : output.encode pc = .ok b) :
    decode pc b = .ok output := by
  have hread := (codec_hasLayout hpc).selfDelimiting.lawful.decode_append
    ((Codec.toVec_eq_ok _ _ _ _).mp hb) []
  rw [List.append_nil] at hread
  exact (Codec.fromBytes_eq_ok _ _ _ _ _).mpr hread

theorem parseConsensusOutput_encode {pc : Postcard} (hpc : pc.Documented)
    {output : AuthorizationResult} {b : Bytes} (hb : output.encode pc = .ok b) :
    parseConsensusOutput pc b = .ok output := by
  rw [parseConsensusOutput, output.decode_encode hpc hb]
  rfl

/-! ## Every receipt has a frame -/

theorem AuthorizationResult.codec_atMost {pc : Postcard} (hpc : pc.Documented) :
    (codec pc).AtMost (5 + 235) := by
  have h32 : (pc.array 32).AtMost 32 := hpc.array_raw 32 ▸ bytes_atMost 32
  have h28 : (pc.array 28).AtMost 28 := hpc.array_raw 28 ▸ bytes_atMost 28
  have h57 : (pc.array 57).AtMost 57 := hpc.array_raw 57 ▸ bytes_atMost 57
  have h8 : pc.u8.AtMost 1 := hpc.u8_raw ▸ byte_atMost
  have h64 : pc.u64.AtMost 10 := hpc.u64_leb128 ▸ u64_atMost
  have htag : pc.variantIndex.AtMost 5 := hpc.variantIndex_leb128 ▸ u32_atMost
  have haddress : (CardanoAddressV1.codec pc).AtMost (57 + 1) := (h57.pair h8).iso _
  have hasset : (AssetIdV1.codec pc).AtMost (28 + (32 + 1)) := (h28.pair (h32.pair h8)).iso _
  have heffect : (AuthorizedEffectV1.codec pc).AtMost 235 :=
    (h32.pair (h32.pair (h32.pair (haddress.pair (hasset.pair (h64.pair h64)))))).iso _
  have hreason : (DisbursementReasonCode.codec pc).AtMost 5 := (htag.index 8).iso _
  have hgate : (AuthorizationGate.codec pc).AtMost 5 := (htag.index 3).iso _
  have hdenial : (denialCodec pc).AtMost 235 := (hreason.pair hgate).mono (by decide)
  have hpayload : ∀ k, (verdictPayloadCodec pc k).AtMost 235
    | 0 => heffect
    | 1 => hdenial
  exact (((htag.index 2).tagged hpayload).iso _).iso _

theorem AuthorizationResult.length_encode {pc : Postcard} (hpc : pc.Documented)
    {output : AuthorizationResult} {b : Bytes} (hb : output.encode pc = .ok b) :
    b.length < 2 ^ 32 := by
  have hle := codec_atMost hpc output b ((Codec.toVec_eq_ok _ _ _ _).mp hb)
  omega

/-- **Receipts round trip.** -/
theorem renderCliReceipt_ok {pc : Postcard} (hpc : pc.Documented) (receipt : IntentReceiptV1) :
    ∃ raw, renderCliReceipt pc receipt = .ok raw ∧ parseCliReceipt pc raw = .ok receipt := by
  obtain ⟨b, hencode⟩ := receipt.output.encode_ok hpc
  have hlt := AuthorizationResult.length_encode hpc hencode
  let frame : CliFrame := ⟨receipt.intentId, receipt.status, receipt.committedHeight, b, hlt⟩
  refine ⟨frame.bytes, ?_, ?_⟩
  · simp only [renderCliReceipt, hencode, hlt, if_true]
    rfl
  · rw [parseCliReceipt_frame, parseConsensusOutput_encode hpc hencode]
    rfl

end OracleGuard
