import OracleGuard.Verifier.Soundness
import OracleGuard.Ziranity.Loader

/-!
When two validators decide alike. Each runs its own handler over its own views,
and a view may hold what no call can bring out: whom an allocation pays, where
nobody may ask for it.

* `handlers_agree_iff`: two handlers give the same bytes on every call and in
  every context exactly when their views are `SameDecisions`.
* `config_order_irrelevant`: a file whose lists are rearranged is loaded as well,
  and the two handlers agree.
-/

namespace OracleGuard

open Checks Fallible Wire

/-! ## Views that no intent tells apart -/

/-- Facts that no intent tells apart. What an allocation pays in, where it pays
and how much count only if somebody may ask for it. -/
structure AllocationFacts.Indistinct (f g : AllocationFacts) : Prop where
  subjects : ∀ s, s ∈ f.authorizedSubjects ↔ s ∈ g.authorizedSubjects
  asset : f.authorizedSubjects ≠ [] → f.approvedAsset = g.approvedAsset
  destinations : f.authorizedSubjects ≠ [] →
    ∀ d, d ∈ f.approvedDestinations ↔ d ∈ g.approvedDestinations
  basis : f.authorizedSubjects ≠ [] → f.approvedDestinations ≠ [] →
    f.basisLovelace = g.basisLovelace

/-- Without a registered policy no allocation is ever looked up. -/
structure SameDecisions (h h' : DisbursementHandler) : Prop where
  policies : ∀ p, h.anchor.isPolicyRegistered p = h'.anchor.isPolicyRegistered p
  allocations : ∀ p, h.anchor.isPolicyRegistered p = true → ∀ id,
    Option.Rel AllocationFacts.Indistinct (h.registry.lookup id) (h'.registry.lookup id)

/-! ## The registry gate, branch by branch -/

section Registry

variable {i : DisbursementIntentV1} {registry : AllocationRegistryView} {facts : AllocationFacts}

theorem runRegistryGate_none (hlookup : registry.lookup i.allocationId = none) :
    runRegistryGate i registry = .error .allocationNotFound := by
  simp [runRegistryGate, hlookup]

variable (hlookup : registry.lookup i.allocationId = some facts)
include hlookup

theorem runRegistryGate_subject (hsubject : i.requesterId ∉ facts.authorizedSubjects) :
    runRegistryGate i registry = .error .subjectNotAuthorized := by
  simp [runRegistryGate, hlookup, hsubject]

theorem runRegistryGate_asset (hsubject : i.requesterId ∈ facts.authorizedSubjects)
    (hasset : i.asset ≠ facts.approvedAsset) :
    runRegistryGate i registry = .error .assetMismatch := by
  simp [runRegistryGate, hlookup, hsubject, hasset]

theorem runRegistryGate_destination (hsubject : i.requesterId ∈ facts.authorizedSubjects)
    (hasset : i.asset = facts.approvedAsset)
    (hdestination : i.destination ∉ facts.approvedDestinations) :
    runRegistryGate i registry = .error .subjectNotAuthorized := by
  simp [runRegistryGate, hlookup, hsubject, hasset, hdestination]

theorem runRegistryGate_ok (hsubject : i.requesterId ∈ facts.authorizedSubjects)
    (hasset : i.asset = facts.approvedAsset)
    (hdestination : i.destination ∈ facts.approvedDestinations) :
    runRegistryGate i registry = .ok facts.basisLovelace := by
  simp [runRegistryGate, hlookup, hsubject, hasset, hdestination]

omit hlookup

theorem runRegistryGate_eq_allocationNotFound :
    runRegistryGate i registry = .error .allocationNotFound ↔
      registry.lookup i.allocationId = none := by
  constructor
  · intro h
    rcases runRegistryGate_cases i registry with ⟨reason, hfail, hrun⟩ | ⟨basis, -, -, hrun⟩
    · rw [h] at hrun
      cases hrun
      cases hlookup : registry.lookup i.allocationId with
      | none => rfl
      | some facts =>
        simp only [registryChecks, firstFailing, hlookup, Option.isSome_some, if_true] at hfail
        split_ifs at hfail <;> cases hfail
    · rw [h] at hrun
      cases hrun
  · exact runRegistryGate_none

include hlookup

theorem runRegistryGate_eq_assetMismatch :
    runRegistryGate i registry = .error .assetMismatch ↔
      i.requesterId ∈ facts.authorizedSubjects ∧ i.asset ≠ facts.approvedAsset := by
  by_cases hsubject : i.requesterId ∈ facts.authorizedSubjects
  · by_cases hasset : i.asset = facts.approvedAsset
    · by_cases hdestination : i.destination ∈ facts.approvedDestinations
      · simp [runRegistryGate_ok hlookup hsubject hasset hdestination, hasset]
      · simp [runRegistryGate_destination hlookup hsubject hasset hdestination, hasset]
    · simp [runRegistryGate_asset hlookup hsubject hasset, hsubject, hasset]
  · simp [runRegistryGate_subject hlookup hsubject, hsubject]

theorem runRegistryGate_eq_subjectNotAuthorized
    (hsubject : i.requesterId ∈ facts.authorizedSubjects) (hasset : i.asset = facts.approvedAsset) :
    runRegistryGate i registry = .error .subjectNotAuthorized ↔
      i.destination ∉ facts.approvedDestinations := by
  by_cases hdestination : i.destination ∈ facts.approvedDestinations
  · simp [runRegistryGate_ok hlookup hsubject hasset hdestination, hdestination]
  · simp [runRegistryGate_destination hlookup hsubject hasset hdestination, hdestination]

end Registry

/-- Indistinct facts pass the same intents, on the same basis. -/
theorem runRegistryGate_congr {i : DisbursementIntentV1}
    {registry registry' : AllocationRegistryView}
    (h : Option.Rel AllocationFacts.Indistinct (registry.lookup i.allocationId)
      (registry'.lookup i.allocationId)) :
    runRegistryGate i registry = runRegistryGate i registry' := by
  cases hf : registry.lookup i.allocationId with
  | none =>
    cases hg : registry'.lookup i.allocationId with
    | none => rw [runRegistryGate_none hf, runRegistryGate_none hg]
    | some g =>
      rw [hf, hg] at h
      cases h
  | some f =>
    cases hg : registry'.lookup i.allocationId with
    | none =>
      rw [hf, hg] at h
      cases h
    | some g =>
      rw [hf, hg] at h
      cases h with
      | some h =>
        by_cases hsubject : i.requesterId ∈ f.authorizedSubjects
        · have hsubject' := (h.subjects _).mp hsubject
          have hany : f.authorizedSubjects ≠ [] := List.ne_nil_of_mem hsubject
          by_cases hasset : i.asset = f.approvedAsset
          · have hasset' := hasset.trans (h.asset hany)
            by_cases hdestination : i.destination ∈ f.approvedDestinations
            · rw [runRegistryGate_ok hf hsubject hasset hdestination,
                runRegistryGate_ok hg hsubject' hasset' ((h.destinations hany _).mp hdestination),
                h.basis hany (List.ne_nil_of_mem hdestination)]
            · have hdestination' := mt (h.destinations hany _).mpr hdestination
              rw [runRegistryGate_destination hf hsubject hasset hdestination,
                runRegistryGate_destination hg hsubject' hasset' hdestination']
          · have hasset' : i.asset ≠ g.approvedAsset := h.asset hany ▸ hasset
            rw [runRegistryGate_asset hf hsubject hasset,
              runRegistryGate_asset hg hsubject' hasset']
        · have hsubject' := mt (h.subjects _).mpr hsubject
          rw [runRegistryGate_subject hf hsubject, runRegistryGate_subject hg hsubject']

/-- Handlers that agree on every intent at every clock. -/
def SameVerdicts (h h' : DisbursementHandler) : Prop :=
  ∀ i now, authorizeDisbursement i h.anchor h.registry now =
    authorizeDisbursement i h'.anchor h'.registry now

theorem SameDecisions.verdicts {h h' : DisbursementHandler} (hsame : SameDecisions h h') :
    SameVerdicts h h' := by
  intro i now
  have hanchor : runAnchorGate i h.anchor = runAnchorGate i h'.anchor := by
    simp only [runAnchorGate, hsame.policies]
  rw [authorizeDisbursement, authorizeDisbursement, ← hanchor]
  cases hgate : runAnchorGate i h.anchor with
  | error reason => rfl
  | ok _ =>
    have hregistered : h.anchor.isPolicyRegistered i.policyRef = true := by
      by_contra hnot
      simp only [runAnchorGate, Bool.eq_false_of_not_eq_true hnot] at hgate
      cases hversion : validateIntentVersion i <;> simp [hversion] at hgate
    simp only [runRegistryGate_congr (hsame.allocations _ hregistered i.allocationId)]

/-! ## Intents that tell views apart -/

/-- An intent at a price that releases the whole basis, fresh at clock zero. -/
def probe (policyRef id subject : Bytes32) (asset : AssetIdV1) (destination : CardanoAddressV1)
    (amount : UInt64) : DisbursementIntentV1 where
  intentVersion := INTENT_VERSION_V1
  policyRef := policyRef
  allocationId := id
  requesterId := subject
  oracleFact := ⟨ASSET_PAIR_ADA_USD, THRESHOLD_HIGH_MICROUSD, SOURCE_CHARLI3⟩
  oracleProvenance := ⟨0, 1, Vector.replicate 32 0⟩
  requestedAmountLovelace := amount
  destination := destination
  asset := asset

section Probe

variable {p id s : Bytes32} {asset : AssetIdV1} {d : CardanoAddressV1} {amount : UInt64}
  {anchor : PolicyAnchorView} {registry : AllocationRegistryView}

theorem probe_unregistered (hp : anchor.isPolicyRegistered p = false) :
    authorizeDisbursement (probe p id s asset d amount) anchor registry 0 =
      .denied .policyNotFound .anchor := by
  simp [authorizeDisbursement, runAnchorGate, validateIntentVersion, probe, hp]

theorem probe_anchor (hp : anchor.isPolicyRegistered p = true) :
    runAnchorGate (probe p id s asset d amount) anchor = .ok () := by
  simp [runAnchorGate, validateIntentVersion, probe, hp]

/-- A registered probe fails at the registry gate with the reason of that gate. -/
theorem probe_registry_iff (hp : anchor.isPolicyRegistered p = true)
    (reason : DisbursementReasonCode) :
    authorizeDisbursement (probe p id s asset d amount) anchor registry 0 =
        .denied reason .registry ↔
      runRegistryGate (probe p id s asset d amount) registry = .error reason := by
  rw [authorizeDisbursement, probe_anchor hp]
  cases runRegistryGate (probe p id s asset d amount) registry with
  | error first => simp
  | ok basis =>
    dsimp only
    cases runGrantGate (probe p id s asset d amount) basis 0 <;> simp

/-- The whole basis is released, and no more than that. -/
theorem probe_grant {basis : UInt64} (hamount : 0 < amount) :
    (∃ effect, runGrantGate (probe p id s asset d amount) basis 0 = .ok effect) ↔
      amount ≤ basis := by
  have hcap : WithinCap amount basis THRESHOLD_HIGH_MICROUSD ↔ amount ≤ basis := by
    have hband : releaseBand THRESHOLD_HIGH_MICROUSD.toNat = 10000 := rfl
    rw [WithinCap, hband, UInt64.le_iff_toNat_le]
    omega
  rw [← hcap]
  constructor
  · rintro ⟨effect, h⟩
    unfold runGrantGate at h
    have hfresh : checkFreshness (probe p id s asset d amount).oracleProvenance 0 = .ok () := rfl
    rw [hfresh] at h
    cases heval : evaluateDisbursement (probe p id s asset d amount) basis with
    | allow a bps => exact ((evaluateDisbursement_eq_allow _ _ _ _).mp heval).2.2.1
    | deny reason =>
      simp only [heval] at h
      cases h
  · intro hle
    have heval := (evaluateDisbursement_eq_allow (probe p id s asset d amount) basis _ _).mpr
      ⟨hamount, show 0 < THRESHOLD_HIGH_MICROUSD by decide, hle, rfl,
        toNat_selectReleaseBandBps _⟩
    have hfresh : checkFreshness (probe p id s asset d amount).oracleProvenance 0 = .ok () := rfl
    simp [runGrantGate, hfresh, heval]

theorem probe_authorized_iff (hp : anchor.isPolicyRegistered p = true) {basis : UInt64}
    (hgate : runRegistryGate (probe p id s asset d amount) registry = .ok basis)
    (hamount : 0 < amount) :
    (∃ effect, authorizeDisbursement (probe p id s asset d amount) anchor registry 0 =
      .authorized effect) ↔ amount ≤ basis := by
  rw [authorizeDisbursement, probe_anchor hp, hgate, ← @probe_grant p id s asset d amount basis
    hamount]
  dsimp only
  cases runGrantGate (probe p id s asset d amount) basis 0 <;> simp

end Probe

section Verdicts

variable {h h' : DisbursementHandler} (hsame : SameVerdicts h h')
include hsame

theorem SameVerdicts.policies (p : Bytes32) :
    h.anchor.isPolicyRegistered p = h'.anchor.isPolicyRegistered p := by
  have hne : ∀ {anchor : PolicyAnchorView} {registry : AllocationRegistryView},
      anchor.isPolicyRegistered p = true →
      authorizeDisbursement (probe p p p .ADA ⟨Vector.replicate 57 0, 0⟩ 0) anchor registry 0 ≠
        .denied .policyNotFound .anchor := by
    intro anchor registry hp heq
    have hgate := ((authorizeDisbursement_eq_denied _ _ _ _ _ _).mp heq).1
    have hanchor := closureChecks_anchor hgate rfl
    simp [anchorChecks, firstFailing, probe, hp] at hanchor
  cases hp : h.anchor.isPolicyRegistered p with
  | true =>
    by_contra hp'
    have hunregistered := Bool.eq_false_of_not_eq_true (Ne.symm hp')
    exact hne hp ((hsame _ 0).trans (probe_unregistered hunregistered))
  | false =>
    by_contra hp'
    have hregistered := Bool.eq_true_of_not_eq_false (Ne.symm hp')
    exact hne hregistered ((hsame _ 0).symm.trans (probe_unregistered hp))

variable {p : Bytes32} (hp : h.anchor.isPolicyRegistered p = true)
include hp

theorem SameVerdicts.registry_iff {id s : Bytes32} {asset : AssetIdV1} {d : CardanoAddressV1}
    {amount : UInt64} (reason : DisbursementReasonCode) :
    runRegistryGate (probe p id s asset d amount) h.registry = .error reason ↔
      runRegistryGate (probe p id s asset d amount) h'.registry = .error reason := by
  rw [← probe_registry_iff hp, ← probe_registry_iff (hsame.policies p ▸ hp), hsame]

variable {id : Bytes32} {f g : AllocationFacts} (hf : h.registry.lookup id = some f)
  (hg : h'.registry.lookup id = some g)
include hf hg

/-- A request in another asset shows who may ask. -/
theorem SameVerdicts.subject {s : Bytes32} (hs : s ∈ f.authorizedSubjects) :
    s ∈ g.authorizedSubjects := by
  obtain ⟨asset, hasset⟩ := exists_other_asset f.approvedAsset
  have hmismatch := (@runRegistryGate_eq_assetMismatch
    (probe p id s asset ⟨Vector.replicate 57 0, 0⟩ 0) _ _ hf).mpr ⟨hs, hasset.symm⟩
  exact ((runRegistryGate_eq_assetMismatch hg).mp
    ((hsame.registry_iff hp _).mp hmismatch)).1

theorem SameVerdicts.asset {s : Bytes32} (hs : s ∈ f.authorizedSubjects) :
    f.approvedAsset = g.approvedAsset := by
  by_contra hne
  have hmismatch := (@runRegistryGate_eq_assetMismatch
    (probe p id s g.approvedAsset ⟨Vector.replicate 57 0, 0⟩ 0) _ _ hf).mpr ⟨hs, Ne.symm hne⟩
  exact ((runRegistryGate_eq_assetMismatch hg).mp
    ((hsame.registry_iff hp _).mp hmismatch)).2 rfl

theorem SameVerdicts.destination_iff {s : Bytes32} (hs : s ∈ f.authorizedSubjects)
    (d : CardanoAddressV1) : d ∈ f.approvedDestinations ↔ d ∈ g.approvedDestinations := by
  have hf' := @runRegistryGate_eq_subjectNotAuthorized
    (probe p id s f.approvedAsset d 0) _ _ hf hs rfl
  have hg' := @runRegistryGate_eq_subjectNotAuthorized
    (probe p id s f.approvedAsset d 0) _ _ hg (hsame.subject hp hf hg hs)
    (hsame.asset hp hf hg hs)
  exact not_iff_not.mp (hf'.symm.trans ((hsame.registry_iff hp _).trans hg'))

/-- A request for the whole basis shows how much there is. -/
theorem SameVerdicts.basis_le {s : Bytes32} (hs : s ∈ f.authorizedSubjects)
    {d : CardanoAddressV1} (hd : d ∈ f.approvedDestinations) {amount : UInt64}
    (hpos : 0 < amount) : amount ≤ f.basisLovelace ↔ amount ≤ g.basisLovelace := by
  have hrun := @runRegistryGate_ok (probe p id s f.approvedAsset d amount) _ _ hf hs rfl hd
  have hrun' := @runRegistryGate_ok (probe p id s f.approvedAsset d amount) _ _ hg
    (hsame.subject hp hf hg hs) (hsame.asset hp hf hg hs)
    ((hsame.destination_iff hp hf hg hs d).mp hd)
  rw [← probe_authorized_iff hp hrun hpos,
    ← probe_authorized_iff (hsame.policies p ▸ hp) hrun' hpos, hsame]

end Verdicts

theorem SameVerdicts.symm {h h' : DisbursementHandler} (hsame : SameVerdicts h h') :
    SameVerdicts h' h :=
  fun i now => (hsame i now).symm

theorem eq_of_le_iff {a b : UInt64} (h : ∀ x, 0 < x → (x ≤ a ↔ x ≤ b)) : a = b := by
  have hle : ∀ {a b : UInt64}, (∀ x, 0 < x → (x ≤ a ↔ x ≤ b)) → a ≤ b := by
    intro a b h
    by_cases ha : a = 0
    · rw [ha]
      exact UInt64.zero_le
    · exact (h a (UInt64.pos_iff_ne_zero.mpr ha)).mp (UInt64.le_refl a)
  exact UInt64.le_antisymm (hle h) (hle fun x hx => (h x hx).symm)

theorem SameVerdicts.indistinct {h h' : DisbursementHandler} (hsame : SameVerdicts h h')
    {p : Bytes32} (hp : h.anchor.isPolicyRegistered p = true) (id : Bytes32) :
    Option.Rel AllocationFacts.Indistinct (h.registry.lookup id) (h'.registry.lookup id) := by
  have hp' := hsame.policies p ▸ hp
  have hnone : h.registry.lookup id = none ↔ h'.registry.lookup id = none := by
    have hrun := @SameVerdicts.registry_iff _ _ hsame _ hp id id .ADA
      ⟨Vector.replicate 57 0, 0⟩ 0 .allocationNotFound
    exact runRegistryGate_eq_allocationNotFound.symm.trans
      (hrun.trans runRegistryGate_eq_allocationNotFound)
  cases hf : h.registry.lookup id with
  | none =>
    rw [hnone.mp hf]
    exact .none
  | some f =>
    cases hg : h'.registry.lookup id with
    | none =>
      rw [hnone.mpr hg] at hf
      cases hf
    | some g =>
      have hasks : f.authorizedSubjects ≠ [] → ∃ s, s ∈ f.authorizedSubjects :=
        List.exists_mem_of_ne_nil _
      refine .some ⟨fun s => ⟨hsame.subject hp hf hg, hsame.symm.subject hp' hg hf⟩, ?_, ?_, ?_⟩
      · intro hany
        obtain ⟨s, hs⟩ := hasks hany
        exact hsame.asset hp hf hg hs
      · intro hany
        obtain ⟨s, hs⟩ := hasks hany
        exact hsame.destination_iff hp hf hg hs
      · intro hany hpays
        obtain ⟨s, hs⟩ := hasks hany
        obtain ⟨d, hd⟩ := List.exists_mem_of_ne_nil _ hpays
        exact eq_of_le_iff fun x hx => hsame.basis_le hp hf hg hs hd hx

theorem sameVerdicts_iff (h h' : DisbursementHandler) :
    SameVerdicts h h' ↔ SameDecisions h h' :=
  ⟨fun hsame => ⟨hsame.policies, fun _ hp => hsame.indistinct hp⟩, SameDecisions.verdicts⟩

/-! ## Handlers -/

theorem exists_call {pc : Postcard} (hpc : pc.Documented) (i : DisbursementIntentV1) :
    ∃ call, encodeIntent pc i = .ok call ∧ decodeIntent pc call = .ok i := by
  obtain ⟨call, hcall, hdecode, -⟩ :=
    (DisbursementIntentV1.codec_hasLayout hpc).selfDelimiting.framed
      CanonicalEncodeError.serializerFailure CanonicalDecodeError.malformed .trailingBytes i
  exact ⟨call, hcall, hdecode⟩

theorem SameVerdicts.handle_eq {h h' : DisbursementHandler} (hsame : SameVerdicts h h')
    (pc : Postcard) (call : Bytes) (ctx : CommitContext) :
    h.handle pc call ctx = h'.handle pc call ctx := by
  simp only [DisbursementHandler.handle, hsame _ _]

/-- Bytes that are equal say the same verdict. -/
theorem sameDecisions_of_handle {pc : Postcard} (hpc : pc.Documented) {h h' : DisbursementHandler}
    (hagree : ∀ call ctx, h.handle pc call ctx = h'.handle pc call ctx) : SameDecisions h h' := by
  rw [← sameVerdicts_iff]
  intro i now
  obtain ⟨call, -, hcall⟩ := exists_call hpc i
  let ctx : CommitContext := ⟨now, 0, Vector.replicate 32 0⟩
  obtain ⟨b, hb, hencode⟩ := DisbursementHandler.handle_decoded hpc hcall h ctx
  obtain ⟨b', hb', hencode'⟩ := DisbursementHandler.handle_decoded hpc hcall h' ctx
  obtain rfl : b = b' := Except.ok.inj (hb.symm.trans ((hagree call ctx).trans hb'))
  have hdecode := AuthorizationResult.decode_encode hpc hencode
  exact Except.ok.inj (hdecode.symm.trans (AuthorizationResult.decode_encode hpc hencode'))

/-- **Validators agree exactly when no intent tells their views apart.** -/
theorem handlers_agree_iff {pc : Postcard} (hpc : pc.Documented) (h h' : DisbursementHandler) :
    (∀ call ctx, h.handle pc call ctx = h'.handle pc call ctx) ↔ SameDecisions h h' :=
  ⟨sameDecisions_of_handle hpc, fun hsame => hsame.verdicts.handle_eq pc⟩

/-- An allocation that nobody may ask for. -/
def closedHandler (basis : UInt64) : DisbursementHandler where
  anchor := openAnchor
  registry := constRegistry ⟨basis, [], .ADA, []⟩

theorem closedHandler_differ : (closedHandler 1).registry.lookup (Vector.replicate 32 0) ≠
    (closedHandler 2).registry.lookup (Vector.replicate 32 0) := by
  intro h
  have hbasis := congrArg (Option.map AllocationFacts.basisLovelace) h
  revert hbasis
  decide

theorem closedHandler_same (basis basis' : UInt64) :
    SameDecisions (closedHandler basis) (closedHandler basis') where
  policies _ := rfl
  allocations _ _ _ := .some
    { subjects := fun _ => Iff.rfl
      asset := fun _ => rfl
      destinations := fun _ _ => Iff.rfl
      basis := fun hany _ => absurd rfl hany }

theorem handlers_agree_closed :
    (closedHandler 1).registry.lookup (Vector.replicate 32 0) ≠
        (closedHandler 2).registry.lookup (Vector.replicate 32 0) ∧
      ∀ call ctx,
        (closedHandler 1).handle .reference call ctx =
          (closedHandler 2).handle .reference call ctx :=
  ⟨closedHandler_differ, (handlers_agree_iff Postcard.reference_documented _ _).mpr
    (closedHandler_same 1 2)⟩

/-! ## Files in another order -/

/-- An allocation with its lists in another order, or with repetitions. -/
structure SameAllocation (a a' : AllocationFile) : Prop where
  id : a.id = a'.id
  basis : a.basisLovelace = a'.basisLovelace
  subjects : ∀ s, s ∈ a.authorizedSubjects ↔ s ∈ a'.authorizedSubjects
  asset : a.approvedAsset = a'.approvedAsset
  destinations : ∀ d, d ∈ a.approvedDestinations ↔ d ∈ a'.approvedDestinations

structure Rearranges (file file' : ConfigFile) : Prop where
  policyRefs : ∀ s, s ∈ file.anchor.registeredPolicyRefs ↔ s ∈ file'.anchor.registeredPolicyRefs
  allocations : ∃ l, file.registry.allocations.Perm l ∧
    List.Forall₂ SameAllocation l file'.registry.allocations

theorem SameAllocation.valid {a a' : AllocationFile} (h : SameAllocation a a') :
    ValidAllocation a ↔ ValidAllocation a' := by
  obtain ⟨hid, -, hsubjects, hasset, hdestinations⟩ := h
  constructor
  · rintro ⟨h₁, h₂, h₃, h₄⟩
    exact ⟨hid ▸ h₁, fun s hs => h₂ s ((hsubjects s).mpr hs), hasset ▸ h₃,
      fun d hd => h₄ d ((hdestinations d).mpr hd)⟩
  · rintro ⟨h₁, h₂, h₃, h₄⟩
    exact ⟨hid ▸ h₁, fun s hs => h₂ s ((hsubjects s).mp hs), hasset ▸ h₃,
      fun d hd => h₄ d ((hdestinations d).mp hd)⟩

/-- Allocations in the same order have the same ids, and are as valid. -/
theorem sameAllocations_valid {l l' : List AllocationFile} (h : List.Forall₂ SameAllocation l l') :
    (l.map fun a => Hex.ofText a.id) = (l'.map fun a => Hex.ofText a.id) ∧
      ((∀ a ∈ l, ValidAllocation a) ↔ ∀ a ∈ l', ValidAllocation a) := by
  induction h with
  | nil => simp
  | cons ha _ ih =>
    simp only [List.map_cons, ha.id, ih.1, List.forall_mem_cons, ha.valid, ih.2, and_self]

theorem Rearranges.valid {file file' : ConfigFile} (h : Rearranges file file') :
    ValidFile file ↔ ValidFile file' := by
  obtain ⟨hpolicyRefs, l, hperm, hsame⟩ := h
  obtain ⟨hids, hvalid⟩ := sameAllocations_valid hsame
  have hdistinct := (hperm.map fun a => Hex.ofText a.id).nodup_iff
  rw [hids] at hdistinct
  have hall : (∀ a ∈ file.registry.allocations, ValidAllocation a) ↔
      ∀ a ∈ l, ValidAllocation a := by
    simp only [hperm.mem_iff]
  rw [hvalid] at hall
  constructor
  · rintro ⟨h₁, h₂, h₃⟩
    exact ⟨fun s hs => h₁ s ((hpolicyRefs s).mpr hs), hall.mp h₂, hdistinct.mp h₃⟩
  · rintro ⟨h₁, h₂, h₃⟩
    exact ⟨fun s hs => h₁ s ((hpolicyRefs s).mp hs), hall.mpr h₂, hdistinct.mpr h₃⟩

/-- The address that a destination describes is the only one. -/
theorem DescribesAddress.unique {d : DestinationFile} {address address' : CardanoAddressV1}
    (h : DescribesAddress d address) (h' : DescribesAddress d address') : address = address' := by
  obtain ⟨bytes, length⟩ := address
  obtain ⟨bytes', length'⟩ := address'
  obtain rfl : bytes = bytes' := Vector.toList_inj.mp (h.bytes.trans h'.bytes.symm)
  obtain rfl : length = length' := h.length.trans h'.length.symm
  rfl

section Describes

variable {a : AllocationFile} {facts : AllocationFacts} (h : Describes a facts)
include h

theorem Describes.subject_iff (s : Bytes32) :
    s ∈ facts.authorizedSubjects ↔ ∃ t ∈ a.authorizedSubjects, Hex.ofText t = s.toList := by
  rw [← List.mem_map, ← h.subjects,
    List.mem_map_of_injective fun _ _ heq => Vector.toList_inj.mp heq]

theorem Describes.destination_iff (address : CardanoAddressV1) :
    address ∈ facts.approvedDestinations ↔
      ∃ d ∈ a.approvedDestinations, DescribesAddress d address := by
  constructor
  · exact exists_source h.destinations
  · rintro ⟨d, hd, haddress⟩
    obtain ⟨address', hmem, haddress'⟩ := exists_source h.destinations.flip hd
    exact haddress.unique haddress' ▸ hmem

end Describes

theorem SameAllocation.indistinct {a a' : AllocationFile} (h : SameAllocation a a')
    {facts facts' : AllocationFacts} (hfacts : Describes a facts) (hfacts' : Describes a' facts') :
    facts.Indistinct facts' := by
  refine ⟨fun s => ?_, fun _ => hfacts.asset.trans hfacts'.asset.symm, fun _ d => ?_,
    fun _ _ => hfacts.basis.trans (h.basis.trans hfacts'.basis.symm)⟩
  · simp only [hfacts.subject_iff, hfacts'.subject_iff, h.subjects]
  · simp only [hfacts.destination_iff, hfacts'.destination_iff, h.destinations]

/-- An id stands alone in one file exactly when it does in the other. -/
theorem Rearranges.withId {file file' : ConfigFile} (h : Rearranges file file') (k : Bytes32) :
    (∃ a a', file.withId k = [a] ∧ file'.withId k = [a'] ∧ SameAllocation a a') ∨
      (¬ ∃ a, file.withId k = [a]) ∧ ¬ ∃ a, file'.withId k = [a] := by
  obtain ⟨-, l, hperm, hsame⟩ := h
  have hfilter := hperm.filter fun a => Hex.ofText a.id = k.toList
  have hrel : List.Forall₂ SameAllocation (l.filter fun a => Hex.ofText a.id = k.toList)
      (file'.withId k) :=
    List.rel_filter (fun a a' ha => by simp only [ha.id]) hsame
  by_cases hone : ∃ a, file.withId k = [a]
  · obtain ⟨a, ha⟩ := hone
    rw [← ConfigFile.withId, ha, List.singleton_perm] at hfilter
    rw [← hfilter] at hrel
    obtain ⟨a', l', haa', hnil, hl'⟩ := List.forall₂_cons_left_iff.mp hrel
    cases hnil
    exact .inl ⟨a, a', ha, hl', haa'⟩
  · refine .inr ⟨hone, ?_⟩
    rintro ⟨a', ha'⟩
    rw [ha'] at hrel
    obtain ⟨a, l', -, hnil, hl⟩ := List.forall₂_cons_right_iff.mp hrel
    cases hnil
    rw [hl, ← ConfigFile.withId, List.perm_singleton] at hfilter
    exact hone ⟨a, hfilter⟩

/-- **The order of a configuration does not matter**, to the loader or to any call. -/
theorem config_order_irrelevant (pc : Postcard) {file file' : ConfigFile}
    (h : Rearranges file file') :
    ((∃ snapshot, ConfigSnapshot.fromFile file = .ok snapshot) ↔
      ∃ snapshot, ConfigSnapshot.fromFile file' = .ok snapshot) ∧
    ∀ snapshot snapshot', ConfigSnapshot.fromFile file = .ok snapshot →
      ConfigSnapshot.fromFile file' = .ok snapshot' → ∀ call ctx,
        snapshot.handler.handle pc call ctx = snapshot'.handler.handle pc call ctx := by
  refine ⟨by rw [exists_fromFile, exists_fromFile, h.valid], ?_⟩
  intro snapshot snapshot' hload hload'
  apply SameVerdicts.handle_eq
  refine SameDecisions.verdicts ⟨fun p => ?_, fun _ _ id => ?_⟩
  · have hp : snapshot.isPolicyRegistered p = true ↔ snapshot'.isPolicyRegistered p = true := by
      simp only [isPolicyRegistered_iff hload, isPolicyRegistered_iff hload', h.policyRefs]
    exact Bool.eq_iff_iff.mpr hp
  · show Option.Rel _ (snapshot.lookup id) (snapshot'.lookup id)
    rcases h.withId id with ⟨a, a', ha, ha', hsame⟩ | ⟨hnone, hnone'⟩
    · obtain ⟨facts, hfacts, hdescribes⟩ := lookup_of_withId hload ha
      obtain ⟨facts', hfacts', hdescribes'⟩ := lookup_of_withId hload' ha'
      rw [hfacts, hfacts']
      exact .some (hsame.indistinct hdescribes hdescribes')
    · rw [lookup_none hload hnone, lookup_none hload' hnone']
      exact .none

/-- The policy is registered once and then again. -/
def repeatedConfigFile : ConfigFile :=
  { fixtureConfigFile with anchor := ⟨[repeatedDigit 64 '1', repeatedDigit 64 '1']⟩ }

theorem config_order_irrelevant_repeated :
    ∃ snapshot, ConfigSnapshot.fromFile repeatedConfigFile = .ok snapshot := by
  have hsame : Rearranges fixtureConfigFile repeatedConfigFile := by
    refine ⟨fun s => ?_, _, List.Perm.refl _, .cons ?_ .nil⟩
    · simp [fixtureConfigFile, repeatedConfigFile]
    · exact ⟨rfl, rfl, fun _ => Iff.rfl, rfl, fun _ => Iff.rfl⟩
  exact (config_order_irrelevant .reference hsame).1.mp ⟨_, fixtureConfigFile_loads⟩

end OracleGuard
