import OracleGuard.Adapter.ReceiptFrame
import OracleGuard.Wire.Spelling

/-!
The gate of a denial on its way from the bytes of a receipt to settlement. The
gates name the gate of their reason, but the decoder takes any two tags.

* `decode_eq_denied`: a denial is any three numbers: the variant, a reason and a
  gate.
* `denied_gate_iff`: the gate that reaches settlement is the reason's, except from
  the receipts that name another one.
-/

namespace OracleGuard

open Wire

/-- A spelling that fits the five bytes of a variant index. -/
def VariantSpelling (p : Bytes) (n : Nat) : Prop := Spells p n ∧ p.length ≤ 5

/-- A committed receipt of a denial, with a gate that is not the reason's. -/
def NamesWrongGate (raw : Bytes) : Prop :=
  ∃ (frame : CliFrame) (reason : DisbursementReasonCode) (gate : AuthorizationGate)
    (variant code tag : Bytes), raw = frame.bytes ∧ frame.status = .committed ∧
    frame.output = variant ++ (code ++ tag) ∧ VariantSpelling variant 1 ∧
    VariantSpelling code reason.toIndex ∧ VariantSpelling tag gate.toIndex ∧
    gate ≠ reason.gate

section Decode

variable {pc : Postcard} (hpc : pc.Documented)
include hpc

theorem variantIndex_decode {n : Nat} (hn : n ≤ 128 ^ 4) {b r : Bytes} {i : Fin n} :
    (pc.variantIndex.index n).decode b = some (i, r) ↔
      ∃ p, b = p ++ r ∧ VariantSpelling p i := by
  rw [hpc.variantIndex_leb128]
  exact u32_index_decode hn

theorem denialCodec_decode {b r : Bytes} {reason : DisbursementReasonCode}
    {gate : AuthorizationGate} :
    (denialCodec pc).decode b = some ((reason, gate), r) ↔
      ∃ code tag, b = code ++ (tag ++ r) ∧ VariantSpelling code reason.toIndex ∧
        VariantSpelling tag gate.toIndex := by
  rw [denialCodec, Codec.pair, Codec.iso_decode, Codec.tagged_decode]
  constructor
  · rintro ⟨m, hreason, hgate⟩
    rw [DisbursementReasonCode.codec, Codec.iso_decode] at hreason
    rw [AuthorizationGate.codec, Codec.iso_decode] at hgate
    obtain ⟨code, rfl, hcode⟩ := (variantIndex_decode hpc (by decide)).mp hreason
    obtain ⟨tag, rfl, htag⟩ := (variantIndex_decode hpc (by decide)).mp hgate
    exact ⟨code, tag, rfl, hcode, htag⟩
  · rintro ⟨code, tag, rfl, hcode, htag⟩
    refine ⟨tag ++ r, ?_, ?_⟩
    · rw [DisbursementReasonCode.codec, Codec.iso_decode]
      exact (variantIndex_decode hpc (by decide)).mpr ⟨code, rfl, hcode⟩
    · rw [AuthorizationGate.codec, Codec.iso_decode]
      exact (variantIndex_decode hpc (by decide)).mpr ⟨tag, rfl, htag⟩

theorem decode_eq_denied {b : Bytes} {reason : DisbursementReasonCode}
    {gate : AuthorizationGate} :
    AuthorizationResult.decode pc b = .ok (.denied reason gate) ↔
      ∃ variant code tag, b = variant ++ (code ++ tag) ∧ VariantSpelling variant 1 ∧
        VariantSpelling code reason.toIndex ∧ VariantSpelling tag gate.toIndex := by
  rw [AuthorizationResult.decode, Codec.fromBytes_eq_ok, AuthorizationResult.codec,
    Codec.iso_decode, verdictCodec, Codec.iso_decode, Codec.tagged_decode]
  constructor
  · rintro ⟨m, hvariant, hdenial⟩
    obtain ⟨variant, rfl, hspells⟩ := (variantIndex_decode hpc (by decide)).mp hvariant
    obtain ⟨code, tag, rfl, hcode, htag⟩ := (denialCodec_decode hpc).mp hdenial
    rw [List.append_nil]
    exact ⟨variant, code, tag, rfl, hspells, hcode, htag⟩
  · rintro ⟨variant, code, tag, rfl, hspells, hcode, htag⟩
    refine ⟨code ++ tag, (variantIndex_decode hpc (by decide)).mpr ⟨variant, rfl, hspells⟩, ?_⟩
    refine (denialCodec_decode hpc).mpr ⟨code, tag, ?_, hcode, htag⟩
    rw [List.append_nil]

end Decode

/-- What the two types promise of every denial that reaches settlement. -/
def DeniesAtItsGate (pc : Postcard) (raw : Bytes) : Prop :=
  ∀ (World SubmitError : Type) (backend : SettlementBackend World SubmitError)
    (world world' : World) (receipt : IntentReceiptV1) (reason : DisbursementReasonCode)
    (gate : AuthorizationGate), parseCliReceipt pc raw = .ok receipt →
    (fulfill receipt backend).run world = (.ok (.deniedUpstream reason gate), world') →
    gate = reason.gate

/-- A backend that is never there. -/
def absentBackend : SettlementBackend Unit Unit where
  submit _ := return .error ()

/-- **Exactly the receipts that name another gate** break the promise. -/
theorem denied_gate_iff {pc : Postcard} (hpc : pc.Documented) (raw : Bytes) :
    DeniesAtItsGate pc raw ↔ ¬ NamesWrongGate raw := by
  constructor
  · rintro h ⟨frame, reason, gate, variant, code, tag, rfl, hstatus, houtput, hvariant, hcode, htag,
      hne⟩
    have hdecode : AuthorizationResult.decode pc frame.output = .ok (.denied reason gate) :=
      (decode_eq_denied hpc).mpr ⟨variant, code, tag, houtput, hvariant, hcode, htag⟩
    let receipt : IntentReceiptV1 :=
      ⟨frame.intentId, frame.status, frame.committedHeight, .denied reason gate⟩
    have hparse : parseCliReceipt pc frame.bytes = .ok receipt :=
      parseCliReceipt_eq_ok.mpr ⟨frame, rfl, rfl, rfl, rfl, hdecode⟩
    have hstatus : receipt.status = .committed := hstatus
    exact hne (h Unit Unit absentBackend () () receipt reason gate hparse
      (fulfill_denied hstatus rfl absentBackend ()))
  · intro hraw World SubmitError backend world world' receipt reason gate hparse hfulfill
    obtain ⟨frame, rfl, -, hframe, -, hdecode⟩ := parseCliReceipt_eq_ok.mp hparse
    by_contra hne
    cases (fulfill_eq_ok _ _ _ _ _).mp hfulfill with
    | denied hstatus houtput =>
      rw [houtput] at hdecode
      obtain ⟨variant, code, tag, hbytes, hvariant, hcode, htag⟩ :=
        (decode_eq_denied hpc).mp hdecode
      exact hraw ⟨frame, reason, gate, variant, code, tag, rfl, hframe ▸ hstatus, hbytes, hvariant,
        hcode, htag, hne⟩

theorem denied_gate_iff_denied :
    DeniesAtItsGate .reference deniedFrame ↔ ¬ NamesWrongGate deniedFrame :=
  denied_gate_iff Postcard.reference_documented deniedFrame

/-- A stale oracle, denied at the anchor gate. -/
def staleAtAnchorFrame : Bytes :=
  List.replicate 32 0x42 ++ [0x01, 7, 0, 0, 0, 0, 0, 0, 0, 3, 0, 0, 0, 0x01, 0x02, 0x00]

theorem wrong_gate_accepted :
    ¬ ∀ (pc : Postcard), pc.Documented → ∀ raw, DeniesAtItsGate pc raw := by
  intro h
  let receipt : IntentReceiptV1 :=
    ⟨Vector.replicate 32 0x42, .committed, 7, .denied .oracleStale .anchor⟩
  have hparse : parseCliReceipt .reference staleAtAnchorFrame = .ok receipt := by decide
  have hgate := h .reference Postcard.reference_documented staleAtAnchorFrame Unit Unit
    absentBackend () () receipt .oracleStale .anchor hparse
    (fulfill_denied rfl rfl absentBackend ())
  cases hgate

end OracleGuard
