import OracleGuard.Policy.Authorize

/-!
Provenance and the verdict. Two intents with the same identity bytes differ in
their provenance at most, and of the ten checks only the freshness check reads
the provenance.

* `provenance_declassified`: the verdict depends on the provenance through one
  bit, whether the datum is fresh; where that bit differs, either an earlier
  gate denies both intents alike or the stale one is denied as stale.
-/

namespace OracleGuard

open Checks

section SameIdentity

variable {i j : DisbursementIntentV1} (hij : SameIdentity i j)
include hij

theorem authorizedEffect_congr : authorizedEffect i = authorizedEffect j := by
  obtain ⟨-, hpolicy, hallocation, hrequester, hfact, hamount, hdestination, hasset⟩ := hij
  simp only [authorizedEffect, hpolicy, hallocation, hrequester, hfact, hamount, hdestination,
    hasset]

theorem anchorChecks_congr (anchor : PolicyAnchorView) :
    firstFailing i (anchorChecks anchor) = firstFailing j (anchorChecks anchor) := by
  obtain ⟨hversion, hpolicy, -⟩ := hij
  simp only [anchorChecks, firstFailing, hversion, hpolicy]

theorem registryChecks_congr (registry : AllocationRegistryView) :
    firstFailing i (registryChecks registry) = firstFailing j (registryChecks registry) := by
  obtain ⟨-, -, hallocation, hrequester, -, -, hdestination, hasset⟩ := hij
  simp only [registryChecks, firstFailing, hallocation, hrequester, hdestination, hasset]

theorem evaluatorChecks_congr (registry : AllocationRegistryView) :
    firstFailing i (evaluatorChecks (basisIn registry)) =
      firstFailing j (evaluatorChecks (basisIn registry)) := by
  obtain ⟨-, -, hallocation, -, hfact, hamount, -⟩ := hij
  simp only [evaluatorChecks, firstFailing, basisIn, hallocation, hfact, hamount]

/-- With equal freshness all ten checks agree. -/
theorem authorizeDisbursement_congr {now : UInt64}
    (hbit : now < i.oracleProvenance.expiryUnix ↔ now < j.oracleProvenance.expiryUnix)
    (anchor : PolicyAnchorView) (registry : AllocationRegistryView) :
    authorizeDisbursement i anchor registry now = authorizeDisbursement j anchor registry now := by
  have hclosure : firstFailing i (closureChecks anchor registry now) =
      firstFailing j (closureChecks anchor registry now) := by
    simp only [closureChecks, firstFailing_append, anchorChecks_congr hij,
      registryChecks_congr hij, grantChecks, firstFailing, freshnessCheck, hbit,
      evaluatorChecks_congr hij]
  rw [authorizeDisbursement_eq, authorizeDisbursement_eq, hclosure, authorizedEffect_congr hij]

/-- A stale datum changes a verdict only into the stale denial. -/
theorem authorizeDisbursement_stale {now : UInt64}
    (hstale : ¬ now < j.oracleProvenance.expiryUnix)
    (anchor : PolicyAnchorView) (registry : AllocationRegistryView) :
    (∃ reason gate, gate ≠ .grant ∧
        authorizeDisbursement i anchor registry now = .denied reason gate ∧
        authorizeDisbursement j anchor registry now = .denied reason gate) ∨
      authorizeDisbursement j anchor registry now = .denied .oracleStale .grant := by
  simp only [authorizeDisbursement_eq, closureChecks, firstFailing_append,
    grantChecks_stale hstale, anchorChecks_congr hij, registryChecks_congr hij]
  cases hanchor : firstFailing j (anchorChecks anchor) with
  | some reason =>
    obtain ⟨c, hc, -, rfl⟩ := exists_failing hanchor
    exact .inl ⟨c.reason, c.reason.gate, by simp [anchorChecks_gate hc], rfl, rfl⟩
  | none =>
    cases hregistry : firstFailing j (registryChecks registry) with
    | some reason =>
      obtain ⟨c, hc, -, rfl⟩ := exists_failing hregistry
      exact .inl ⟨c.reason, c.reason.gate, by simp [registryChecks_gate hc], rfl, rfl⟩
    | none => exact .inr rfl

end SameIdentity

/-- **Provenance non-interference.** -/
theorem provenance_declassified {pc : Postcard} (hpc : pc.Documented)
    {i j : DisbursementIntentV1} (hid : encodeIntentIdentity pc i = encodeIntentIdentity pc j)
    (anchor : PolicyAnchorView) (registry : AllocationRegistryView) (now : UInt64) :
    ((now < i.oracleProvenance.expiryUnix ↔ now < j.oracleProvenance.expiryUnix) →
        authorizeDisbursement i anchor registry now =
          authorizeDisbursement j anchor registry now) ∧
      (now < i.oracleProvenance.expiryUnix → ¬ now < j.oracleProvenance.expiryUnix →
        (∃ reason gate, gate ≠ .grant ∧
            authorizeDisbursement i anchor registry now = .denied reason gate ∧
            authorizeDisbursement j anchor registry now = .denied reason gate) ∨
          authorizeDisbursement j anchor registry now = .denied .oracleStale .grant) ∧
      (¬ now < i.oracleProvenance.expiryUnix → now < j.oracleProvenance.expiryUnix →
        (∃ reason gate, gate ≠ .grant ∧
            authorizeDisbursement i anchor registry now = .denied reason gate ∧
            authorizeDisbursement j anchor registry now = .denied reason gate) ∨
          authorizeDisbursement i anchor registry now = .denied .oracleStale .grant) := by
  have hij : SameIdentity i j := (encodeIntentIdentity_eq_iff hpc i j).mp hid
  have hji : SameIdentity j i := hij.symm
  refine ⟨fun hbit => authorizeDisbursement_congr hij hbit anchor registry,
    fun _ hstale => authorizeDisbursement_stale hij hstale anchor registry,
    fun hstale _ => ?_⟩
  rcases authorizeDisbursement_stale hji hstale anchor registry with
    ⟨reason, gate, hgate, hj, hi⟩ | hi
  · exact .inl ⟨reason, gate, hgate, hi, hj⟩
  · exact .inr hi

/-- The fixture is authorized, and denied as stale once its datum has expired. -/
theorem provenance_declassified_fixture :
    authorizeDisbursement
        { fixtureIntent with oracleProvenance := ⟨0, 1713000000000, Vector.replicate 32 0⟩ }
        ⟨fun _ => true⟩ ⟨fun _ => some (factsOf fixtureIntent 2000000000)⟩ 1713000000000 =
      .denied .oracleStale .grant := by
  have h := provenance_declassified Postcard.reference_documented (i := fixtureIntent)
    (j := { fixtureIntent with oracleProvenance := ⟨0, 1713000000000, Vector.replicate 32 0⟩ })
    rfl ⟨fun _ => true⟩ ⟨fun _ => some (factsOf fixtureIntent 2000000000)⟩ 1713000000000
  have hauthorized : authorizeDisbursement fixtureIntent ⟨fun _ => true⟩
      ⟨fun _ => some (factsOf fixtureIntent 2000000000)⟩ 1713000000000 =
      .authorized (authorizedEffect fixtureIntent) := by
    decide
  rcases h.2.1 (by decide) (by decide) with ⟨reason, gate, -, hdenied, -⟩ | hstale
  · rw [hauthorized] at hdenied
    cases hdenied
  · exact hstale

end OracleGuard
