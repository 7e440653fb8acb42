import OracleGuard.Adapter.Intake

/-!
The substrate handler: call bytes in, the bytes of a verdict out. The substrate
hands a commit context on, of which the handler reads the clock.

* `handler_refines_closure`: on the bytes of an intent the handler returns the
  bytes of the verdict of the closure, and on other bytes its decode failure.
-/

namespace OracleGuard

open Wire

abbrev HandlerErrorCode := UInt16

def DECODE_FAILURE : HandlerErrorCode := 0x0100

def ENCODE_FAILURE : HandlerErrorCode := 0x0101

structure CommitContext where
  nowUnixMs : UInt64
  blockHeight : UInt64
  blockId : Bytes32
  deriving DecidableEq, Repr

structure DisbursementHandler where
  anchor : PolicyAnchorView
  registry : AllocationRegistryView

def DisbursementHandler.handle (pc : Postcard) (handler : DisbursementHandler) (call : Bytes)
    (ctx : CommitContext) : Except HandlerErrorCode Bytes :=
  match decodeIntent pc call with
  | .error _ => .error DECODE_FAILURE
  | .ok intent =>
    let result := authorizeDisbursement intent handler.anchor handler.registry ctx.nowUnixMs
    match result.encode pc with
    | .error _ => .error ENCODE_FAILURE
    | .ok bytes => .ok bytes

namespace DisbursementHandler

theorem handle_malformed {pc : Postcard} {call : Bytes} {err : CanonicalDecodeError}
    (hcall : decodeIntent pc call = .error err) (handler : DisbursementHandler)
    (ctx : CommitContext) : handler.handle pc call ctx = .error DECODE_FAILURE := by
  rw [handle, hcall]

/-- The encoder does not fail, so a decoded call has a result. -/
theorem handle_decoded {pc : Postcard} (hpc : pc.Documented) {call : Bytes}
    {intent : DisbursementIntentV1} (hcall : decodeIntent pc call = .ok intent)
    (handler : DisbursementHandler) (ctx : CommitContext) :
    ∃ b, handler.handle pc call ctx = .ok b ∧
      (authorizeDisbursement intent handler.anchor handler.registry ctx.nowUnixMs).encode pc =
        .ok b := by
  obtain ⟨b, hencode⟩ :=
    (authorizeDisbursement intent handler.anchor handler.registry ctx.nowUnixMs).encode_ok hpc
  refine ⟨b, ?_, hencode⟩
  simp only [handle, hcall, hencode]

/-- What a result of the handler is the bytes of. -/
theorem handle_eq_ok {pc : Postcard} (hpc : pc.Documented) {handler : DisbursementHandler}
    {call b : Bytes} {ctx : CommitContext} (h : handler.handle pc call ctx = .ok b) :
    ∃ intent, decodeIntent pc call = .ok intent ∧
      AuthorizationResult.decode pc b =
        .ok (authorizeDisbursement intent handler.anchor handler.registry ctx.nowUnixMs) := by
  cases hcall : decodeIntent pc call with
  | error err =>
    rw [handle_malformed hcall] at h
    cases h
  | ok intent =>
    obtain ⟨b', hb', hencode⟩ := handle_decoded hpc hcall handler ctx
    rw [hb'] at h
    cases h
    exact ⟨intent, rfl, AuthorizationResult.decode_encode hpc hencode⟩

end DisbursementHandler

/-- **The handler refines the closure.** -/
theorem handler_refines_closure {pc : Postcard} (hpc : pc.Documented)
    (handler : DisbursementHandler) (call : Bytes) (ctx : CommitContext) :
    (handler.handle pc call ctx = .error DECODE_FAILURE ↔
        ∃ err, decodeIntent pc call = .error err) ∧
      handler.handle pc call ctx ≠ .error ENCODE_FAILURE ∧
      ∀ intent, decodeIntent pc call = .ok intent →
        ∃ b, handler.handle pc call ctx = .ok b ∧
          AuthorizationResult.decode pc b =
            .ok (authorizeDisbursement intent handler.anchor handler.registry ctx.nowUnixMs) ∧
          (∃ frame : CliFrame, frame.output = b) ∧
          ∀ frame : CliFrame, frame.output = b →
            parseCliReceipt pc frame.bytes =
              .ok ⟨frame.intentId, frame.status, frame.committedHeight,
                authorizeDisbursement intent handler.anchor handler.registry ctx.nowUnixMs⟩ := by
  cases hcall : decodeIntent pc call with
  | error err =>
    rw [DisbursementHandler.handle_malformed hcall]
    exact ⟨⟨fun _ => ⟨err, rfl⟩, fun _ => rfl⟩, by decide, nofun⟩
  | ok intent =>
    obtain ⟨b, hb, hencode⟩ := DisbursementHandler.handle_decoded hpc hcall handler ctx
    rw [hb]
    refine ⟨⟨nofun, nofun⟩, nofun, ?_⟩
    rintro _ ⟨⟩
    refine ⟨b, rfl, AuthorizationResult.decode_encode hpc hencode,
      ⟨⟨Vector.replicate 32 0, .committed, 0, b, AuthorizationResult.length_encode hpc hencode⟩,
        rfl⟩, ?_⟩
    rintro frame rfl
    rw [parseCliReceipt_frame, parseConsensusOutput_encode hpc hencode]
    rfl

/-- The handler of a node that registers the fixture's policy and allocation. -/
def fixtureHandler : DisbursementHandler where
  anchor := openAnchor
  registry := constRegistry (factsOf fixtureIntent 2000000000)

theorem handler_refines_closure_fixture :
    ∃ call b, encodeIntent .reference fixtureIntent = .ok call ∧
      fixtureHandler.handle .reference call ⟨1713000100000, 10042, Vector.replicate 32 0⟩ = .ok b ∧
      AuthorizationResult.decode .reference b =
        .ok (.authorized (authorizedEffect fixtureIntent)) := by
  have hpc := Postcard.reference_documented
  have hauthorized : authorizeDisbursement fixtureIntent fixtureHandler.anchor
      fixtureHandler.registry 1713000100000 = .authorized (authorizedEffect fixtureIntent) := by
    decide
  obtain ⟨call, hcall, hdecode, -⟩ :=
    (DisbursementIntentV1.codec_hasLayout hpc).selfDelimiting.framed
      CanonicalEncodeError.serializerFailure CanonicalDecodeError.malformed .trailingBytes
      fixtureIntent
  obtain ⟨b, hb, hverdict, -⟩ :=
    (handler_refines_closure hpc fixtureHandler call
      ⟨1713000100000, 10042, Vector.replicate 32 0⟩).2.2 fixtureIntent hdecode
  rw [hauthorized] at hverdict
  exact ⟨call, b, hcall, hb, hverdict⟩

end OracleGuard
