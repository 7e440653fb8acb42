import OracleGuard.Adapter.Framing
import OracleGuard.Adapter.KupoFetch
import OracleGuard.Adapter.Normalize
import OracleGuard.Live.Args
import OracleGuard.Ziranity.Agreement

/-!
The scenarios that are built from a live datum: one intent that is sized to land under
the cap, one that is sized to land over it, and the result that is predicted for each.

* `live_scenarios_exact`: what is predicted, for every price and every allocation.
* `prediction_matched_iff`: when a validator returns the predicted bytes.
-/

namespace OracleGuard

open Wire

namespace BuildLiveScenario

inductive Scenario where
  | allow
  | deny
  deriving DecidableEq, Repr

def saturatingAdd (a b : UInt64) : UInt64 :=
  if a.toNat + b.toNat < 2 ^ 64 then a + b else 0xFFFFFFFFFFFFFFFF

def saturatingMul (a b : UInt64) : UInt64 :=
  if a.toNat * b.toNat < 2 ^ 64 then a * b else 0xFFFFFFFFFFFFFFFF

/-- The last sum is not checked: it wraps, since the example is built in release mode. -/
def pickAmount : Scenario → UInt64 → UInt64
  | .allow, cap => max (saturatingMul (cap / 10) 8 / 1000000 * 1000000) 1000000
  | .deny, cap => max (saturatingAdd cap (cap / 10) / 1000000 * 1000000) (cap + 1000000)

def reasonName : DisbursementReasonCode → String
  | .policyNotFound => "PolicyNotFound"
  | .allocationNotFound => "AllocationNotFound"
  | .oracleStale => "OracleStale"
  | .oraclePriceZero => "OraclePriceZero"
  | .amountZero => "AmountZero"
  | .releaseCapExceeded => "ReleaseCapExceeded"
  | .subjectNotAuthorized => "SubjectNotAuthorized"
  | .assetMismatch => "AssetMismatch"

inductive Failure where
  | normalize (err : Charli3ParseError)
  | readTemplate
  | template (err : CanonicalDecodeError)
  | encodeIntent (scenario : Scenario) (err : CanonicalEncodeError)
  | intentId (scenario : Scenario) (err : CanonicalEncodeError)
  | encodeResult (scenario : Scenario) (err : AuthorizationResultDecodeError)
  deriving DecidableEq, Repr

structure ScenarioOut where
  intentBytes : Bytes
  resultBytes : Bytes
  intentId : Bytes32
  amount : UInt64
  bandBps : UInt64
  verdict : String
  deriving DecidableEq, Repr

/-- The template with the fields of a scenario. -/
def scenarioIntent (scenario : Scenario) (template : DisbursementIntentV1)
    (evalFact : OracleFactEvalV1) (provenance : OracleFactProvenanceV1) (cap : UInt64) :
    DisbursementIntentV1 :=
  { template with
    oracleFact := evalFact
    oracleProvenance := provenance
    requestedAmountLovelace := pickAmount scenario cap }

/-- A denial is always put down to the grant gate. -/
def predicted (intent : DisbursementIntentV1) (allocationLovelace : UInt64) :
    AuthorizationResult × UInt64 × String :=
  match evaluateDisbursement intent allocationLovelace with
  | .allow authorizedAmountLovelace releaseCapBasisPoints =>
    (.authorized
      { policyRef := intent.policyRef
        allocationId := intent.allocationId
        requesterId := intent.requesterId
        destination := intent.destination
        asset := intent.asset
        authorizedAmountLovelace
        releaseCapBasisPoints }, releaseCapBasisPoints, "Allow")
  | .deny reason =>
    (.denied reason .grant, selectReleaseBandBps intent.oracleFact.priceMicrousd,
      "Deny:" ++ reasonName reason)

section Build

variable (pc : Postcard) (blake3 : Blake3)

def build (scenario : Scenario) (template : DisbursementIntentV1) (evalFact : OracleFactEvalV1)
    (provenance : OracleFactProvenanceV1) (allocationLovelace cap : UInt64) :
    Except Failure ScenarioOut := do
  let intent := scenarioIntent scenario template evalFact provenance cap
  let intentBytes ← (encodeIntent pc intent).mapError (.encodeIntent scenario)
  let intentId ← (intentId pc blake3 intent).mapError (.intentId scenario)
  let (authorization, bandBps, verdict) := predicted intent allocationLovelace
  let resultBytes ← (authorization.encode pc).mapError (.encodeResult scenario)
  return {
    intentBytes
    resultBytes
    intentId
    amount := intent.requestedAmountLovelace
    bandBps
    verdict }

/-- What is written and printed. -/
structure Live where
  capLovelace : UInt64
  bandBps : UInt64
  evalFact : OracleFactEvalV1
  provenance : OracleFactProvenanceV1
  allow : ScenarioOut
  deny : ScenarioOut
  deriving DecidableEq, Repr

def Live.out (live : Live) : Scenario → ScenarioOut
  | .allow => live.allow
  | .deny => live.deny

def readTemplate (read : String → Option Bytes) (path : String) : Except Failure Bytes :=
  match read path with
  | none => .error .readTemplate
  | some templateBytes => .ok templateBytes

/-- `main`, between the fetch and the writing; `read` is the file system. -/
def main (cbor : Minicbor) (fetched : Kupo.AggStateFetch) (read : String → Option Bytes)
    (args : Args) : Except Failure Live := do
  let (evalFact, provenance) ←
    (normalizeAggstateDatum cbor fetched.cborBytes fetched.aggregatorUtxoRef).mapError .normalize
  let templateBytes ← readTemplate read args.templateIntent
  let template ← (decodeIntent pc templateBytes).mapError .template
  let bandBps := selectReleaseBandBps evalFact.priceMicrousd
  let capLovelace :=
    (computeMaxReleasableLovelace args.allocationLovelace bandBps).getD 0xFFFFFFFFFFFFFFFF
  let allow ←
    build pc blake3 .allow template evalFact provenance args.allocationLovelace capLovelace
  let deny ← build pc blake3 .deny template evalFact provenance args.allocationLovelace capLovelace
  return { capLovelace, bandBps, evalFact, provenance, allow, deny }

end Build

/-! ## Amounts -/

theorem toNat_saturatingMul (a b : UInt64) :
    (saturatingMul a b).toNat = min (a.toNat * b.toNat) (2 ^ 64 - 1) := by
  unfold saturatingMul
  split
  next hfits =>
    rw [UInt64.toNat_mul, Nat.mod_eq_of_lt hfits]
    omega
  next hlarge =>
    have hmax : (0xFFFFFFFFFFFFFFFF : UInt64).toNat = 2 ^ 64 - 1 := rfl
    omega

theorem toNat_saturatingAdd (a b : UInt64) :
    (saturatingAdd a b).toNat = min (a.toNat + b.toNat) (2 ^ 64 - 1) := by
  unfold saturatingAdd
  split
  next hfits =>
    rw [UInt64.toNat_add, Nat.mod_eq_of_lt hfits]
    omega
  next hlarge =>
    have hmax : (0xFFFFFFFFFFFFFFFF : UInt64).toNat = 2 ^ 64 - 1 := rfl
    omega

theorem toNat_max (a b : UInt64) : (max a b).toNat = max a.toNat b.toNat := by
  show (if a ≤ b then b else a).toNat = _
  simp only [UInt64.le_iff_toNat_le]
  split <;> omega

theorem toNat_pickAmount_allow (cap : UInt64) :
    (pickAmount .allow cap).toNat = max (cap.toNat / 10 * 8 / 1000000 * 1000000) 1000000 := by
  have hlt := cap.toNat_lt
  have hshare : (saturatingMul (cap / 10) 8).toNat = cap.toNat / 10 * 8 := by
    simp only [toNat_saturatingMul, UInt64.toNat_div, UInt64.reduceToNat]
    omega
  have hfits : cap.toNat / 10 * 8 / 1000000 * 1000000 < 2 ^ 64 := by omega
  simp only [pickAmount, toNat_max, UInt64.toNat_mul, UInt64.toNat_div, hshare,
    UInt64.reduceToNat, Nat.mod_eq_of_lt hfits]

theorem toNat_pickAmount_deny (cap : UInt64) :
    (pickAmount .deny cap).toNat =
      max (min (cap.toNat + cap.toNat / 10) (2 ^ 64 - 1) / 1000000 * 1000000)
        ((cap.toNat + 1000000) % 2 ^ 64) := by
  simp only [pickAmount, toNat_max, UInt64.toNat_mul, UInt64.toNat_div, UInt64.toNat_add,
    toNat_saturatingAdd, UInt64.reduceToNat]
  omega

theorem pickAmount_pos (scenario : Scenario) (cap : UInt64) : 0 < pickAmount scenario cap := by
  have hlt := cap.toNat_lt
  have hzero : (0 : UInt64).toNat = 0 := rfl
  rw [UInt64.lt_iff_toNat_lt]
  cases scenario with
  | allow =>
    rw [toNat_pickAmount_allow]
    omega
  | deny =>
    rw [toNat_pickAmount_deny]
    omega

theorem pickAmount_allow_le_iff (cap : UInt64) : pickAmount .allow cap ≤ cap ↔ 1000000 ≤ cap := by
  have hada : (1000000 : UInt64).toNat = 1000000 := rfl
  rw [UInt64.le_iff_toNat_le, UInt64.le_iff_toNat_le, toNat_pickAmount_allow]
  omega

/-- Nothing that is sized exceeds a cap from the last whole amount below `2 ^ 64` on. -/
theorem pickAmount_deny_le_iff (cap : UInt64) :
    pickAmount .deny cap ≤ cap ↔ 18446744073709000000 ≤ cap := by
  have hlt := cap.toNat_lt
  have hlast : (18446744073709000000 : UInt64).toNat = 18446744073709000000 := rfl
  rw [UInt64.le_iff_toNat_le, UInt64.le_iff_toNat_le, toNat_pickAmount_deny]
  omega

/-! ## Predictions -/

variable {pc : Postcard} {blake3 : Blake3}

/-- What a scenario is built of. -/
structure Builds (pc : Postcard) (blake3 : Blake3) (intent : DisbursementIntentV1)
    (allocationLovelace : UInt64) (out : ScenarioOut) : Prop where
  intentBytes : encodeIntent pc intent = .ok out.intentBytes
  decoded : decodeIntent pc out.intentBytes = .ok intent
  intentId : intentId pc blake3 intent = .ok out.intentId
  resultBytes : (predicted intent allocationLovelace).1.encode pc = .ok out.resultBytes
  amount : out.amount = intent.requestedAmountLovelace
  bandBps : out.bandBps = (predicted intent allocationLovelace).2.1
  verdict : out.verdict = (predicted intent allocationLovelace).2.2

theorem build_eq_ok (hpc : pc.Documented) {scenario : Scenario}
    {template : DisbursementIntentV1} {evalFact : OracleFactEvalV1}
    {provenance : OracleFactProvenanceV1} {allocationLovelace cap : UInt64} {out : ScenarioOut} :
    build pc blake3 scenario template evalFact provenance allocationLovelace cap = .ok out ↔
      Builds pc blake3 (scenarioIntent scenario template evalFact provenance cap)
        allocationLovelace out := by
  simp only [build, Fallible.bind_eq_ok, Fallible.mapError_eq_ok]
  constructor
  · rintro ⟨intentBytes, hintent, intentId, hid, resultBytes, hresult, h⟩
    cases h
    obtain ⟨call, hcall, hdecode⟩ := exists_call hpc
      (scenarioIntent scenario template evalFact provenance cap)
    obtain rfl : call = intentBytes := Except.ok.inj (hcall.symm.trans hintent)
    exact ⟨hcall, hdecode, hid, hresult, rfl, rfl, rfl⟩
  · intro h
    refine ⟨_, h.intentBytes, _, h.intentId, _, h.resultBytes, ?_⟩
    rw [← h.amount, ← h.bandBps, ← h.verdict]
    rfl

theorem exists_builds (hpc : pc.Documented) (blake3 : Blake3) (intent : DisbursementIntentV1)
    (allocationLovelace : UInt64) : ∃ out, Builds pc blake3 intent allocationLovelace out := by
  obtain ⟨call, hcall, hdecode⟩ := exists_call hpc intent
  obtain ⟨id, hid⟩ := intentId_ok hpc blake3 intent
  obtain ⟨result, hresult⟩ := (predicted intent allocationLovelace).1.encode_ok hpc
  exact ⟨⟨call, result, id, _, _, _⟩, hcall, hdecode, hid, hresult, rfl, rfl, rfl⟩

/-- The three verdicts that there are. -/
theorem predicted_verdict {intent : DisbursementIntentV1} {allocationLovelace cap : UInt64}
    (hcap : computeMaxReleasableLovelace allocationLovelace
      (selectReleaseBandBps intent.oracleFact.priceMicrousd) = some cap)
    (hpos : 0 < intent.requestedAmountLovelace) :
    (predicted intent allocationLovelace).2.2 =
      if intent.oracleFact.priceMicrousd = 0 then "Deny:OraclePriceZero"
      else if intent.requestedAmountLovelace ≤ cap then "Allow" else "Deny:ReleaseCapExceeded" := by
  have hamount : intent.requestedAmountLovelace ≠ 0 := UInt64.pos_iff_ne_zero.mp hpos
  unfold predicted evaluateDisbursement validateOracleFactEval
  rw [if_neg hamount]
  by_cases hprice : intent.oracleFact.priceMicrousd = 0
  · simp only [hprice, if_true]
    rfl
  · by_cases hle : intent.requestedAmountLovelace ≤ cap
    · simp [hprice, hcap, decideGrant, hle, UInt64.not_lt.mpr hle]
    · simp [hprice, hcap, decideGrant, hle, UInt64.not_le.mp hle]
      rfl

/-! ## The run -/

variable {cbor : Minicbor} {fetched : Kupo.AggStateFetch} {read : String → Option Bytes}
  {args : Args}

/-- The file of the template is that of an intent. -/
def ReadsTemplate (pc : Postcard) (read : String → Option Bytes) (args : Args)
    (template : DisbursementIntentV1) : Prop :=
  ∃ templateBytes, read args.templateIntent = some templateBytes ∧
    decodeIntent pc templateBytes = .ok template

theorem ReadsTemplate.unique {template template' : DisbursementIntentV1}
    (h : ReadsTemplate pc read args template) (h' : ReadsTemplate pc read args template') :
    template = template' := by
  obtain ⟨b, hread, hdecode⟩ := h
  obtain ⟨b', hread', hdecode'⟩ := h'
  obtain rfl : b = b' := Option.some.inj (hread.symm.trans hread')
  exact Except.ok.inj (hdecode.symm.trans hdecode')

theorem readTemplate_eq_ok {path : String} {b : Bytes} :
    readTemplate read path = .ok b ↔ read path = some b := by
  unfold readTemplate
  cases read path <;> simp

/-- What a run is made of. -/
structure Runs (pc : Postcard) (blake3 : Blake3) (cbor : Minicbor) (fetched : Kupo.AggStateFetch)
    (args : Args) (template : DisbursementIntentV1) (live : Live) : Prop where
  normalized : normalizeAggstateDatum cbor fetched.cborBytes fetched.aggregatorUtxoRef =
    .ok (live.evalFact, live.provenance)
  bandBps : live.bandBps = selectReleaseBandBps live.evalFact.priceMicrousd
  capLovelace :
    computeMaxReleasableLovelace args.allocationLovelace live.bandBps = some live.capLovelace
  builds (scenario : Scenario) : Builds pc blake3 (scenarioIntent scenario template live.evalFact
    live.provenance live.capLovelace) args.allocationLovelace (live.out scenario)

theorem main_eq_ok (hpc : pc.Documented) {live : Live} :
    main pc blake3 cbor fetched read args = .ok live ↔
      ∃ template, ReadsTemplate pc read args template ∧
        Runs pc blake3 cbor fetched args template live := by
  have hgetD : ∀ price : UInt64, computeMaxReleasableLovelace args.allocationLovelace
      (selectReleaseBandBps price) = some ((computeMaxReleasableLovelace args.allocationLovelace
        (selectReleaseBandBps price)).getD 0xFFFFFFFFFFFFFFFF) := by
    intro price
    obtain ⟨c, hcap, -⟩ := exists_cap args.allocationLovelace price
    rw [hcap, Option.getD_some]
  simp only [main, Fallible.bind_eq_ok, Fallible.mapError_eq_ok, build_eq_ok hpc,
    readTemplate_eq_ok]
  constructor
  · rintro ⟨⟨evalFact, provenance⟩, hpair, b, hread, template, hdecode, allow, hallow, deny, hdeny,
      h⟩
    cases h
    refine ⟨template, ⟨b, hread, hdecode⟩, hpair, rfl, hgetD _, fun scenario => ?_⟩
    cases scenario with
    | allow => exact hallow
    | deny => exact hdeny
  · rintro ⟨template, ⟨b, hread, hdecode⟩, hruns⟩
    have hcapLovelace : (computeMaxReleasableLovelace args.allocationLovelace
        (selectReleaseBandBps live.evalFact.priceMicrousd)).getD 0xFFFFFFFFFFFFFFFF =
        live.capLovelace := by
      rw [← hruns.bandBps, hruns.capLovelace, Option.getD_some]
    refine ⟨_, hruns.normalized, b, hread, template, hdecode, live.allow, ?_, live.deny, ?_, ?_⟩
    · simpa only [hcapLovelace, Live.out] using hruns.builds .allow
    · simpa only [hcapLovelace, Live.out] using hruns.builds .deny
    · rw [hcapLovelace, ← hruns.bandBps]
      rfl

theorem Runs.of_main (hpc : pc.Documented) {live : Live}
    (hmain : main pc blake3 cbor fetched read args = .ok live) {template : DisbursementIntentV1}
    (htemplate : ReadsTemplate pc read args template) :
    Runs pc blake3 cbor fetched args template live := by
  obtain ⟨template', htemplate', hruns⟩ := (main_eq_ok hpc).mp hmain
  exact htemplate'.unique htemplate ▸ hruns

theorem exists_main (hpc : pc.Documented) :
    (∃ live, main pc blake3 cbor fetched read args = .ok live) ↔
      (∃ pair, normalizeAggstateDatum cbor fetched.cborBytes fetched.aggregatorUtxoRef =
        .ok pair) ∧ ∃ template, ReadsTemplate pc read args template := by
  simp only [main_eq_ok hpc]
  constructor
  · rintro ⟨live, template, htemplate, hruns⟩
    exact ⟨⟨_, hruns.normalized⟩, template, htemplate⟩
  · rintro ⟨⟨⟨evalFact, provenance⟩, hpair⟩, template, htemplate⟩
    obtain ⟨cap, hcap, -⟩ := exists_cap args.allocationLovelace evalFact.priceMicrousd
    obtain ⟨allow, hallow⟩ := exists_builds hpc blake3
      (scenarioIntent .allow template evalFact provenance cap) args.allocationLovelace
    obtain ⟨deny, hdeny⟩ := exists_builds hpc blake3
      (scenarioIntent .deny template evalFact provenance cap) args.allocationLovelace
    refine ⟨⟨cap, _, evalFact, provenance, allow, deny⟩, template, htemplate, hpair, rfl, hcap,
      fun scenario => ?_⟩
    cases scenario with
    | allow => exact hallow
    | deny => exact hdeny

/-- The verdicts over all prices and caps. -/
structure Live.Verdicts (live : Live) (allocationLovelace : UInt64) : Prop where
  cap : live.capLovelace.toNat =
    allocationLovelace.toNat * releaseBand live.evalFact.priceMicrousd.toNat / 10000
  allow : live.allow.verdict =
    if live.evalFact.priceMicrousd = 0 then "Deny:OraclePriceZero"
    else if 1000000 ≤ live.capLovelace then "Allow" else "Deny:ReleaseCapExceeded"
  deny : live.deny.verdict =
    if live.evalFact.priceMicrousd = 0 then "Deny:OraclePriceZero"
    else if live.capLovelace < 18446744073709000000 then "Deny:ReleaseCapExceeded" else "Allow"

/-- **The scenarios over all prices and caps.** -/
theorem live_scenarios_exact (hpc : pc.Documented) (blake3 : Blake3) (cbor : Minicbor)
    (fetched : Kupo.AggStateFetch) (read : String → Option Bytes) (args : Args) :
    ((∃ live, main pc blake3 cbor fetched read args = .ok live) ↔
      (∃ pair, normalizeAggstateDatum cbor fetched.cborBytes fetched.aggregatorUtxoRef =
        .ok pair) ∧ ∃ template, ReadsTemplate pc read args template) ∧
    ∀ live, main pc blake3 cbor fetched read args = .ok live →
      live.Verdicts args.allocationLovelace := by
  refine ⟨exists_main hpc, fun live hmain => ?_⟩
  obtain ⟨template, -, hruns⟩ := (main_eq_ok hpc).mp hmain
  have hcap := hruns.capLovelace
  rw [hruns.bandBps] at hcap
  have hverdict : ∀ scenario, (live.out scenario).verdict =
      if live.evalFact.priceMicrousd = 0 then "Deny:OraclePriceZero"
      else if pickAmount scenario live.capLovelace ≤ live.capLovelace then "Allow"
      else "Deny:ReleaseCapExceeded" := fun scenario =>
    (hruns.builds scenario).verdict.trans
      (predicted_verdict hcap (pickAmount_pos scenario live.capLovelace))
  constructor
  · have hfloor := (computeMaxReleasableLovelace_eq_some _ _ _).mp hcap
    rwa [toNat_selectReleaseBandBps] at hfloor
  · simpa only [pickAmount_allow_le_iff, Live.out] using hverdict .allow
  · have hlast : live.deny.verdict = _ := hverdict .deny
    simp only [pickAmount_deny_le_iff] at hlast
    rw [hlast]
    congr 1
    by_cases hle : 18446744073709000000 ≤ live.capLovelace
    · rw [if_pos hle, if_neg (UInt64.not_lt.mpr hle)]
    · rw [if_neg hle, if_pos (UInt64.not_le.mp hle)]

/-! ## The golden datum -/

def goldenFetch : Kupo.AggStateFetch := ⟨goldenFrame.bytes, Vector.replicate 32 0x94⟩

def goldenFact : OracleFactEvalV1 := ⟨ASSET_PAIR_ADA_USD, 258000, SOURCE_CHARLI3⟩

def goldenProvenance : OracleFactProvenanceV1 :=
  ⟨1776428823000, 1776429423000, Vector.replicate 32 0x94⟩

def goldenArgs : Args where
  templateIntent := "allow_700_ada_intent.postcard"
  allocationLovelace := 1000000000
  allowIntentOut := "allow_intent.postcard"
  allowResultOut := "allow_result.postcard"
  denyIntentOut := "deny_intent.postcard"
  denyResultOut := "deny_result.postcard"
  kupoUrl := none

theorem golden_normalized : normalizeAggstateDatum .reference goldenFetch.cborBytes
    goldenFetch.aggregatorUtxoRef = .ok (goldenFact, goldenProvenance) := by
  decide

/-- The files of the fixture, with the template in its place. -/
theorem exists_template : ∃ read : String → Option Bytes,
    ReadsTemplate .reference read goldenArgs fixtureIntent := by
  obtain ⟨templateBytes, -, htemplate⟩ := exists_call Postcard.reference_documented fixtureIntent
  exact ⟨fun _ => some templateBytes, templateBytes, rfl, htemplate⟩

theorem exists_golden {read : String → Option Bytes}
    (htemplate : ReadsTemplate .reference read goldenArgs fixtureIntent) :
    ∃ live, main .reference policyDigest .reference goldenFetch read goldenArgs = .ok live :=
  (exists_main Postcard.reference_documented).mpr ⟨⟨_, golden_normalized⟩, _, htemplate⟩

/-- What is built from the golden datum over an allocation of 1000 ADA. -/
theorem Runs.golden {template : DisbursementIntentV1} {live : Live}
    (h : Runs .reference policyDigest .reference goldenFetch goldenArgs template live) :
    live.evalFact = goldenFact ∧ live.provenance = goldenProvenance ∧
      live.capLovelace = 500000000 := by
  obtain ⟨hfact, hprovenance⟩ := Prod.mk.inj
    (Except.ok.inj (golden_normalized.symm.trans h.normalized))
  have hcap : computeMaxReleasableLovelace goldenArgs.allocationLovelace
      (selectReleaseBandBps goldenFact.priceMicrousd) = some 500000000 := by
    decide
  have hlive := h.capLovelace
  rw [h.bandBps, ← hfact, hcap] at hlive
  exact ⟨hfact.symm, hprovenance.symm, (Option.some.inj hlive).symm⟩

theorem live_scenarios_golden :
    ∃ read live, main .reference policyDigest .reference goldenFetch read goldenArgs = .ok live ∧
      live.allow.verdict = "Allow" ∧ live.deny.verdict = "Deny:ReleaseCapExceeded" := by
  obtain ⟨read, htemplate⟩ := exists_template
  obtain ⟨live, hmain⟩ := exists_golden htemplate
  have hpc := Postcard.reference_documented
  obtain ⟨hfact, -, hcap⟩ := (Runs.of_main hpc hmain htemplate).golden
  have h := (live_scenarios_exact hpc policyDigest .reference goldenFetch read goldenArgs).2 live
    hmain
  refine ⟨read, live, hmain, ?_, ?_⟩
  · rw [h.allow, hfact, hcap]
    decide
  · rw [h.deny, hfact, hcap]
    decide

/-! ## Validators -/

theorem predicted_denied {intent : DisbursementIntentV1} {allocationLovelace : UInt64}
    {reason : DisbursementReasonCode} {gate : AuthorizationGate}
    (h : (predicted intent allocationLovelace).1 = .denied reason gate) :
    gate = .grant ∧ reason ≠ .oracleStale := by
  unfold predicted at h
  cases heval : evaluateDisbursement intent allocationLovelace with
  | allow amount cap =>
    rw [heval] at h
    cases h
  | deny reason' =>
    rw [heval] at h
    cases h
    refine ⟨rfl, ?_⟩
    rcases (evaluateDisbursement_eq_deny _ _ _).mp heval with ⟨rfl, -⟩ | ⟨rfl, -⟩ | ⟨rfl, -⟩ <;>
      decide

theorem authorize_eq_predicted_iff {i : DisbursementIntentV1} {anchor : PolicyAnchorView}
    {registry : AllocationRegistryView} {now allocationLovelace : UInt64} :
    authorizeDisbursement i anchor registry now = (predicted i allocationLovelace).1 ↔
      ∃ basis, runAnchorGate i anchor = .ok () ∧ runRegistryGate i registry = .ok basis ∧
        now < i.oracleProvenance.expiryUnix ∧
        evaluateDisbursement i basis = evaluateDisbursement i allocationLovelace := by
  cases hanchor : runAnchorGate i anchor with
  | error reason =>
    simp only [authorizeDisbursement, hanchor, reduceCtorEq, false_and, exists_false, iff_false]
    intro h
    cases (predicted_denied h.symm).1
  | ok =>
    cases hregistry : runRegistryGate i registry with
    | error reason =>
      simp only [authorizeDisbursement, hanchor, hregistry, reduceCtorEq, false_and, and_false,
        exists_false, iff_false]
      intro h
      cases (predicted_denied h.symm).1
    | ok basis =>
      by_cases hfresh : now < i.oracleProvenance.expiryUnix
      · simp only [authorizeDisbursement, hanchor, hregistry, runGrantGate, checkFreshness, hfresh,
          if_true, true_and, Except.ok.injEq, exists_eq_left', predicted]
        cases evaluateDisbursement i basis <;>
          cases evaluateDisbursement i allocationLovelace <;> simp
      · simp only [authorizeDisbursement, hanchor, hregistry, runGrantGate, checkFreshness, hfresh,
          if_false, false_and, and_false, exists_false, iff_false]
        intro h
        exact (predicted_denied h.symm).2 rfl

/-- **When a prediction comes true.** -/
theorem prediction_matched_iff (hpc : pc.Documented) {live : Live}
    (hmain : main pc blake3 cbor fetched read args = .ok live)
    {template : DisbursementIntentV1} (htemplate : ReadsTemplate pc read args template)
    (scenario : Scenario) (handler : DisbursementHandler) (ctx : CommitContext) :
    let i := scenarioIntent scenario template live.evalFact live.provenance live.capLovelace
    handler.handle pc (live.out scenario).intentBytes ctx = .ok (live.out scenario).resultBytes ↔
      ∃ basis, runAnchorGate i handler.anchor = .ok () ∧
        runRegistryGate i handler.registry = .ok basis ∧
        ctx.nowUnixMs < live.provenance.expiryUnix ∧
        evaluateDisbursement i basis = evaluateDisbursement i args.allocationLovelace := by
  intro i
  have hbuilds := (Runs.of_main hpc hmain htemplate).builds scenario
  obtain ⟨b, hb, hencode⟩ := DisbursementHandler.handle_decoded hpc hbuilds.decoded handler ctx
  rw [hb, Except.ok.injEq]
  refine Iff.trans ?_ authorize_eq_predicted_iff
  constructor
  · rintro rfl
    have hdecode := AuthorizationResult.decode_encode hpc hencode
    exact Except.ok.inj
      (hdecode.symm.trans (AuthorizationResult.decode_encode hpc hbuilds.resultBytes))
  · intro hsame
    rw [hsame] at hencode
    exact Except.ok.inj (hencode.symm.trans hbuilds.resultBytes)

/-- A validator with an allocation of 2000 ADA allows what is predicted for 1000. -/
theorem prediction_matched_golden :
    ∃ read live, main .reference policyDigest .reference goldenFetch read goldenArgs = .ok live ∧
      fixtureHandler.handle .reference live.allow.intentBytes
        ⟨1776428823000, 10042, Vector.replicate 32 0⟩ = .ok live.allow.resultBytes := by
  obtain ⟨read, htemplate⟩ := exists_template
  obtain ⟨live, hmain⟩ := exists_golden htemplate
  have hpc := Postcard.reference_documented
  obtain ⟨hfact, hprovenance, hcap⟩ := (Runs.of_main hpc hmain htemplate).golden
  refine ⟨read, live, hmain, ?_⟩
  refine (prediction_matched_iff hpc hmain htemplate .allow
    fixtureHandler ⟨1776428823000, 10042, Vector.replicate 32 0⟩).mpr ?_
  rw [hfact, hprovenance, hcap]
  exact ⟨2000000000, by decide, by decide, by decide, by decide⟩

end BuildLiveScenario

end OracleGuard
