import OracleGuard.Policy.Authorize

/-!
The three wire types as messages: intents, evidence records and authorization
results.

* `wire_types_framed`: round trip and strict framing of all three.
* `wire_types_reproducible`: an accepted message is written back byte for byte
  exactly when each of its LEB128 numbers is in the shortest form. The decoder
  also accepts longer forms.
-/

namespace OracleGuard

open Wire Codec

/-- **Strict framing.** -/
theorem wire_types_framed {pc : Postcard} (hpc : pc.Documented) :
    Framed (encodeIntent pc) (decodeIntent pc) .malformed .trailingBytes ∧
      Framed (encodeEvidence pc) (decodeEvidence pc) .malformed .trailingBytes ∧
      Framed (AuthorizationResult.encode pc) (AuthorizationResult.decode pc) .malformed
        .trailingBytes :=
  ⟨(DisbursementIntentV1.codec_hasLayout hpc).selfDelimiting.framed _ _ _,
    (DisbursementEvidenceV1.codec_hasLayout hpc).selfDelimiting.framed _ _ _,
    (AuthorizationResult.codec_hasLayout hpc).selfDelimiting.framed _ _ _⟩

/-- **Reproducible messages.** -/
theorem wire_types_reproducible {pc : Postcard} (hpc : pc.Documented) :
    Reproducible (encodeIntent pc) (decodeIntent pc) DisbursementIntentV1.layout ∧
      Reproducible (encodeEvidence pc) (decodeEvidence pc) DisbursementEvidenceV1.layout ∧
      Reproducible (AuthorizationResult.encode pc) (AuthorizationResult.decode pc)
        verdictLayout :=
  ⟨(DisbursementIntentV1.codec_hasLayout hpc).reproducible _ _ _,
    (DisbursementEvidenceV1.codec_hasLayout hpc).reproducible _ _ _,
    (AuthorizationResult.codec_hasLayout hpc).reproducible _ _ _⟩

/-- The fixture is read back from its encoding, and refused with a byte more. -/
theorem wire_types_framed_fixture :
    ∃ b, encodeIntent .reference fixtureIntent = .ok b ∧
      decodeIntent .reference b = .ok fixtureIntent ∧
      decodeIntent .reference (b ++ [0]) = .error .trailingBytes := by
  obtain ⟨b, hb, hdec, hext, -⟩ :=
    (wire_types_framed Postcard.reference_documented).1 fixtureIntent
  exact ⟨b, hb, hdec, hext [0] (by decide)⟩

/-- The tag of a denial in two bytes instead of one. -/
def overlongDenial : Bytes := [0x81, 0x00, 0x00, 0x00]

theorem wire_types_reproducible_denial :
    AuthorizationResult.encode .reference (.denied .policyNotFound .anchor) ≠
      .ok overlongDenial := by
  have hread : AuthorizationResult.decode .reference overlongDenial =
      .ok (.denied .policyNotFound .anchor) := by
    decide
  obtain ⟨-, -, h⟩ := wire_types_reproducible Postcard.reference_documented
  rw [Ne, (h _ _ hread).1]
  decide

/-- Two messages for one denial: the longer one is not written back. -/
theorem overlong_denial_accepted :
    ¬ ∀ (b : Bytes) (x : AuthorizationResult),
      AuthorizationResult.decode .reference b = .ok x →
        AuthorizationResult.encode .reference x = .ok b := by
  intro h
  have hread : AuthorizationResult.decode .reference overlongDenial =
      .ok (.denied .policyNotFound .anchor) := by
    decide
  have hwrite := h _ _ hread
  revert hwrite
  decide

end OracleGuard
