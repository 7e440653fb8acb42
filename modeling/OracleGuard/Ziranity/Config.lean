import OracleGuard.Fallible
import OracleGuard.Policy.Law
import OracleGuard.Wire.HexLoops
import OracleGuard.Ziranity.Handler

/-!
The configuration of a node: a file of hex strings, loaded once into the
snapshot that the handler's views read. Reading and parsing the TOML text is
left out, so the loader starts from the deserialized file.

* `fromFile_eq_ok`: a file is accepted exactly when its entries decode one by one
  and no two allocations share an id.
* `config_bounds_payments`: whatever a handler over a loaded snapshot authorizes
  is listed in the file, in ADA, within one allocation, and reaches settlement.
-/

namespace OracleGuard

open Checks Fallible Wire

/-! ## The file -/

structure DestinationFile where
  bytesHex : String
  length : UInt8
  deriving DecidableEq, Repr

structure AllocationFile where
  id : String
  basisLovelace : UInt64
  authorizedSubjects : List String
  approvedAsset : String
  approvedDestinations : List DestinationFile
  deriving DecidableEq, Repr

structure AnchorSection where
  registeredPolicyRefs : List String
  deriving DecidableEq, Repr

structure RegistrySection where
  allocations : List AllocationFile
  deriving DecidableEq, Repr

structure ConfigFile where
  anchor : AnchorSection
  registry : RegistrySection
  deriving DecidableEq, Repr

/-- The errors of `fromFile`. -/
inductive BuildError where
  | hexByteArrayLength (field : String) (found expected : Nat)
  | hexInvalidChar (field : String)
  | unsupportedAsset (found : String)
  | destinationLength (found : UInt8)
  | destinationBytesShape (foundBytes : Nat)
  | duplicateAllocationId
  deriving DecidableEq, Repr

/-! ## The snapshot -/

structure AllocationEntry where
  id : Bytes32
  basisLovelace : UInt64
  authorizedSubjects : List Bytes32
  approvedAsset : AssetIdV1
  approvedDestinations : List CardanoAddressV1
  deriving DecidableEq, Repr

structure ConfigSnapshot where
  registeredPolicyRefs : List Bytes32
  allocations : List AllocationEntry
  deriving DecidableEq, Repr

/-- Lowercase digits only. -/
def decodeNibble (b : UInt8) (field : String) : Except BuildError UInt8 :=
  if 0x30 ≤ b ∧ b ≤ 0x39 then .ok (b - 0x30)
  else if 0x61 ≤ b ∧ b ≤ 0x66 then .ok (b - 0x61 + 10)
  else .error (.hexInvalidChar field)

/-- The loop over the digits of a field. -/
def decodePairs (field : String) (digits : Bytes) : Except BuildError Bytes :=
  Hex.decodeChunks (fun b => decodeNibble b field) digits

/-- An array of zeros, overwritten from its start. -/
def overwrite (n : Nat) (bytes : Bytes) : Vector UInt8 n := Vector.ofFn fun k => bytes.getD k 0

def decode32Hex (s : String) (field : String) : Except BuildError Bytes32 :=
  if (utf8 s).length ≠ 64 then .error (.hexByteArrayLength field (utf8 s).length 64)
  else (decodePairs field (utf8 s)).map (overwrite 32)

def decodeAsset (s : String) : Except BuildError AssetIdV1 :=
  if s = "ADA" then .ok .ADA else .error (.unsupportedAsset s)

def BYTES_HEX_FIELD : String := "registry.allocations.approved_destinations.bytes_hex"

def decodeDestination (d : DestinationFile) : Except BuildError CardanoAddressV1 :=
  if d.length = 0 ∨ d.length > 57 then .error (.destinationLength d.length)
  else if (utf8 d.bytesHex).length % 2 ≠ 0 then
    .error (.destinationBytesShape ((utf8 d.bytesHex).length / 2))
  else
    let byteCount := (utf8 d.bytesHex).length / 2
    if byteCount = 0 ∨ byteCount > 57 then .error (.destinationBytesShape byteCount)
    else
      (decodePairs BYTES_HEX_FIELD (utf8 d.bytesHex)).map fun bytes =>
        { bytes := overwrite 57 bytes, length := d.length }

def POLICY_REFS_FIELD : String := "anchor.registered_policy_refs"

def ALLOCATION_ID_FIELD : String := "registry.allocations.id"

def SUBJECTS_FIELD : String := "registry.allocations.authorized_subjects"

/-- The loop over the allocations: each is checked against those before it. -/
def loadAllocations : List AllocationEntry → List AllocationFile →
    Except BuildError (List AllocationEntry)
  | allocations, [] => .ok allocations
  | allocations, a :: rest => do
    let id ← decode32Hex a.id ALLOCATION_ID_FIELD
    if allocations.any fun existing => existing.id = id then .error .duplicateAllocationId
    else
      let authorizedSubjects ← a.authorizedSubjects.mapM fun s => decode32Hex s SUBJECTS_FIELD
      let approvedAsset ← decodeAsset a.approvedAsset
      let approvedDestinations ← a.approvedDestinations.mapM decodeDestination
      let entry :=
        { id, basisLovelace := a.basisLovelace, authorizedSubjects, approvedAsset,
          approvedDestinations }
      loadAllocations (allocations ++ [entry]) rest

def ConfigSnapshot.fromFile (file : ConfigFile) : Except BuildError ConfigSnapshot := do
  let registeredPolicyRefs ←
    file.anchor.registeredPolicyRefs.mapM fun s => decode32Hex s POLICY_REFS_FIELD
  let allocations ← loadAllocations [] file.registry.allocations
  return { registeredPolicyRefs, allocations }

/-! ## The views -/

namespace ConfigSnapshot

def isPolicyRegistered (snapshot : ConfigSnapshot) (policyRef : Bytes32) : Bool :=
  snapshot.registeredPolicyRefs.any fun r => r = policyRef

def lookup (snapshot : ConfigSnapshot) (allocationId : Bytes32) : Option AllocationFacts :=
  (snapshot.allocations.find? fun a => a.id = allocationId).map fun entry =>
    { basisLovelace := entry.basisLovelace
      authorizedSubjects := entry.authorizedSubjects
      approvedAsset := entry.approvedAsset
      approvedDestinations := entry.approvedDestinations }

/-- The handler over one shared snapshot. -/
def handler (snapshot : ConfigSnapshot) : DisbursementHandler where
  anchor := ⟨snapshot.isPolicyRegistered⟩
  registry := ⟨snapshot.lookup⟩

end ConfigSnapshot

/-! ## What the loader establishes -/

/-- An allocation of the file and its entry in the snapshot. -/
structure LoadedAllocation (a : AllocationFile) (entry : AllocationEntry) : Prop where
  id : decode32Hex a.id ALLOCATION_ID_FIELD = .ok entry.id
  basis : entry.basisLovelace = a.basisLovelace
  subjects : List.Forall₂ (fun s subject => decode32Hex s SUBJECTS_FIELD = .ok subject)
    a.authorizedSubjects entry.authorizedSubjects
  asset : entry.approvedAsset = .ADA
  destinations : List.Forall₂ (fun d address => decodeDestination d = .ok address)
    a.approvedDestinations entry.approvedDestinations

structure Loaded (file : ConfigFile) (snapshot : ConfigSnapshot) : Prop where
  policyRefs : List.Forall₂ (fun s policyRef => decode32Hex s POLICY_REFS_FIELD = .ok policyRef)
    file.anchor.registeredPolicyRefs snapshot.registeredPolicyRefs
  allocations : List.Forall₂ LoadedAllocation file.registry.allocations snapshot.allocations
  distinct : (snapshot.allocations.map (·.id)).Nodup

theorem decodeAsset_eq_ok {s : String} {asset : AssetIdV1} (h : decodeAsset s = .ok asset) :
    asset = .ADA := by
  unfold decodeAsset at h
  split at h
  · cases h
    rfl
  · cases h

theorem decodeDestination_length {d : DestinationFile} {address : CardanoAddressV1}
    (h : decodeDestination d = .ok address) : 1 ≤ address.length ∧ address.length ≤ 57 := by
  obtain ⟨hlength, h⟩ := guard_eq_ok.mp h
  obtain ⟨-, h⟩ := guard_eq_ok.mp h
  obtain ⟨-, h⟩ := guard_eq_ok.mp h
  obtain ⟨bytes, -, rfl⟩ := map_eq_ok.mp h
  rw [not_or, UInt8.not_lt] at hlength
  have hpos : 1 ≤ d.length := by
    have hne := hlength.1
    grind
  exact ⟨hpos, hlength.2⟩

/-- An allocation of the file, decoded field by field. -/
structure Decodes (a : AllocationFile) (entry : AllocationEntry) : Prop where
  id : decode32Hex a.id ALLOCATION_ID_FIELD = .ok entry.id
  basis : entry.basisLovelace = a.basisLovelace
  subjects : (a.authorizedSubjects.mapM fun s => decode32Hex s SUBJECTS_FIELD) =
    .ok entry.authorizedSubjects
  asset : decodeAsset a.approvedAsset = .ok entry.approvedAsset
  destinations : a.approvedDestinations.mapM decodeDestination = .ok entry.approvedDestinations

theorem Decodes.loaded {a : AllocationFile} {entry : AllocationEntry} (h : Decodes a entry) :
    LoadedAllocation a entry :=
  ⟨h.id, h.basis, mapM_eq_ok.mp h.subjects, decodeAsset_eq_ok h.asset,
    mapM_eq_ok.mp h.destinations⟩

/-- One round of the loop: the entry of the allocation, with a new id. -/
theorem loadAllocations_cons {acc entries : List AllocationEntry} {a : AllocationFile}
    {rest : List AllocationFile} :
    loadAllocations acc (a :: rest) = .ok entries ↔
      ∃ entry, Decodes a entry ∧ (∀ existing ∈ acc, existing.id ≠ entry.id) ∧
        loadAllocations (acc ++ [entry]) rest = .ok entries := by
  rw [loadAllocations, bind_eq_ok]
  constructor
  · rintro ⟨id, hid, h⟩
    obtain ⟨hnew, h⟩ := guard_eq_ok.mp h
    obtain ⟨subjects, hsubjects, h⟩ := bind_eq_ok.mp h
    obtain ⟨asset, hasset, h⟩ := bind_eq_ok.mp h
    obtain ⟨destinations, hdestinations, h⟩ := bind_eq_ok.mp h
    refine ⟨_, ⟨hid, rfl, hsubjects, hasset, hdestinations⟩, ?_, h⟩
    simpa using hnew
  · rintro ⟨entry, hentry, hnew, h⟩
    refine ⟨entry.id, hentry.id, ?_⟩
    have hnone : ¬ (acc.any fun existing => existing.id = entry.id) = true := by simpa using hnew
    rw [if_neg hnone]
    refine bind_eq_ok.mpr ⟨_, hentry.subjects, bind_eq_ok.mpr ⟨_, hentry.asset,
      bind_eq_ok.mpr ⟨_, hentry.destinations, ?_⟩⟩⟩
    rw [← hentry.basis]
    exact h

/-- The invariant of the loop is that the ids so far are distinct. -/
theorem loadAllocations_eq_ok {acc entries : List AllocationEntry} {files : List AllocationFile}
    (hacc : (acc.map (·.id)).Nodup) :
    loadAllocations acc files = .ok entries ↔
      ∃ loaded, entries = acc ++ loaded ∧ List.Forall₂ Decodes files loaded ∧
        (entries.map (·.id)).Nodup := by
  induction files generalizing acc with
  | nil =>
    constructor
    · rintro ⟨⟩
      exact ⟨[], (List.append_nil _).symm, .nil, hacc⟩
    · rintro ⟨loaded, rfl, hall, -⟩
      cases hall
      rw [List.append_nil]
      rfl
  | cons a rest ih =>
    have hsnoc : ∀ entry : AllocationEntry, ((acc ++ [entry]).map (·.id)).Nodup ↔
        ∀ existing ∈ acc, existing.id ≠ entry.id := by
      intro entry
      rw [List.map_append, List.map_singleton, List.nodup_append]
      simp [hacc]
    rw [loadAllocations_cons]
    constructor
    · rintro ⟨entry, hentry, hnew, hrest⟩
      obtain ⟨loaded, rfl, hloaded, hnodup⟩ := (ih ((hsnoc entry).mpr hnew)).mp hrest
      exact ⟨entry :: loaded, (List.append_cons acc entry loaded).symm, .cons hentry hloaded,
        hnodup⟩
    · rintro ⟨loaded, rfl, hall, hnodup⟩
      cases hall with
      | @cons _ entry _ loaded hentry hloaded =>
        have hprefix : ((acc ++ [entry]).map (·.id)).Nodup := by
          rw [List.append_cons, List.map_append] at hnodup
          exact (List.nodup_append.mp hnodup).1
        exact ⟨entry, hentry, (hsnoc entry).mp hprefix,
          (ih hprefix).mpr ⟨loaded, List.append_cons acc entry loaded, hloaded, hnodup⟩⟩

theorem fromFile_eq_ok {file : ConfigFile} {snapshot : ConfigSnapshot} :
    ConfigSnapshot.fromFile file = .ok snapshot ↔
      (file.anchor.registeredPolicyRefs.mapM fun s => decode32Hex s POLICY_REFS_FIELD) =
          .ok snapshot.registeredPolicyRefs ∧
        List.Forall₂ Decodes file.registry.allocations snapshot.allocations ∧
        (snapshot.allocations.map (·.id)).Nodup := by
  have hnone : (([] : List AllocationEntry).map (·.id)).Nodup := List.nodup_nil
  rw [ConfigSnapshot.fromFile, bind_eq_ok]
  constructor
  · rintro ⟨policyRefs, hpolicyRefs, h⟩
    obtain ⟨allocations, hallocations, h⟩ := bind_eq_ok.mp h
    cases h
    obtain ⟨loaded, rfl, hloaded, hnodup⟩ := (loadAllocations_eq_ok hnone).mp hallocations
    exact ⟨hpolicyRefs, hloaded, hnodup⟩
  · rintro ⟨hpolicyRefs, hloaded, hnodup⟩
    exact ⟨_, hpolicyRefs, bind_eq_ok.mpr ⟨_, (loadAllocations_eq_ok hnone).mpr
      ⟨_, rfl, hloaded, hnodup⟩, rfl⟩⟩

theorem fromFile_loaded {file : ConfigFile} {snapshot : ConfigSnapshot}
    (h : ConfigSnapshot.fromFile file = .ok snapshot) : Loaded file snapshot := by
  obtain ⟨hpolicyRefs, hloaded, hnodup⟩ := fromFile_eq_ok.mp h
  exact ⟨mapM_eq_ok.mp hpolicyRefs, hloaded.imp fun _ _ => Decodes.loaded, hnodup⟩

/-! ## What a loaded snapshot authorizes -/

theorem ConfigSnapshot.lookup_eq_some {snapshot : ConfigSnapshot} {id : Bytes32}
    {facts : AllocationFacts} (h : snapshot.lookup id = some facts) :
    ∃ entry ∈ snapshot.allocations, entry.id = id ∧
      facts = ⟨entry.basisLovelace, entry.authorizedSubjects, entry.approvedAsset,
        entry.approvedDestinations⟩ := by
  obtain ⟨entry, hfind, rfl⟩ := Option.map_eq_some_iff.mp h
  have hid := List.find?_some hfind
  exact ⟨entry, List.mem_of_find?_eq_some hfind, by simpa using hid, rfl⟩

section Loaded

variable {file : ConfigFile} {snapshot : ConfigSnapshot} (h : Loaded file snapshot)
include h

theorem Loaded.exists_policyRef {policyRef : Bytes32}
    (hregistered : snapshot.isPolicyRegistered policyRef = true) :
    ∃ s ∈ file.anchor.registeredPolicyRefs, decode32Hex s POLICY_REFS_FIELD = .ok policyRef := by
  obtain ⟨r, hr, heq⟩ := List.any_eq_true.mp hregistered
  rw [← of_decide_eq_true heq]
  exact exists_source h.policyRefs hr

/-- The ids of the file are as distinct as those of the snapshot. -/
theorem Loaded.exists_allocation {entry : AllocationEntry} (hentry : entry ∈ snapshot.allocations) :
    ∃ a, (file.registry.allocations.filter fun a =>
        decode32Hex a.id ALLOCATION_ID_FIELD = .ok entry.id) = [a] ∧
      LoadedAllocation a entry := by
  apply filter_source_eq_singleton h.allocations h.distinct _ hentry
  intro a c hac
  rw [decide_eq_true_eq, hac.id, Except.ok.injEq]

end Loaded

/-- The cap never exceeds the basis. -/
theorem Authorizes.amount_le {anchor : PolicyAnchorView} {facts : AllocationFacts} {now : UInt64}
    {i : DisbursementIntentV1} (h : Authorizes anchor facts now i) :
    i.requestedAmountLovelace ≤ facts.basisLovelace := by
  have hband := Nat.mul_le_mul_left facts.basisLovelace.toNat
    (releaseBand_le i.oracleFact.priceMicrousd.toNat)
  have hcap := h.cap
  rw [UInt64.le_iff_toNat_le]
  omega

/-- **A configuration bounds everything that can be paid.** -/
theorem config_bounds_payments {pc : Postcard} (hpc : pc.Documented) {file : ConfigFile}
    {snapshot : ConfigSnapshot} (hload : ConfigSnapshot.fromFile file = .ok snapshot)
    {call b : Bytes} {ctx : CommitContext} (hrun : snapshot.handler.handle pc call ctx = .ok b)
    {effect : AuthorizedEffectV1}
    (hverdict : AuthorizationResult.decode pc b = .ok (.authorized effect)) :
    (∃ s ∈ file.anchor.registeredPolicyRefs,
        decode32Hex s POLICY_REFS_FIELD = .ok effect.policyRef) ∧
      (∃ a, (file.registry.allocations.filter fun a =>
          decode32Hex a.id ALLOCATION_ID_FIELD = .ok effect.allocationId) = [a] ∧
        (∃ s ∈ a.authorizedSubjects, decode32Hex s SUBJECTS_FIELD = .ok effect.requesterId) ∧
        (∃ d ∈ a.approvedDestinations, decodeDestination d = .ok effect.destination) ∧
        0 < effect.authorizedAmountLovelace ∧ effect.authorizedAmountLovelace ≤ a.basisLovelace) ∧
      effect.asset = .ADA ∧ 1 ≤ effect.destination.length ∧ effect.destination.length ≤ 57 ∧
      ∀ (World SubmitError : Type) (receipt : IntentReceiptV1)
        (backend : SettlementBackend World SubmitError) (world : World),
        receipt.status = .committed → receipt.output = .authorized effect →
          (fulfill receipt backend).run world =
            let submitted :=
              (backend.submit (settlementRequestFromEffect effect receipt.intentId)).run world
            (submitted.1.map .settled, submitted.2) := by
  have hfile := fromFile_loaded hload
  obtain ⟨i, -, hdecode⟩ := DisbursementHandler.handle_eq_ok hpc hrun
  rw [hverdict, Except.ok.injEq, eq_comm, authorizeDisbursement_eq_authorized,
    closureChecks_eq_none] at hdecode
  obtain ⟨⟨facts, hlookup, hlaw⟩, rfl⟩ := hdecode
  obtain ⟨entry, hentry, hid, rfl⟩ := ConfigSnapshot.lookup_eq_some hlookup
  obtain ⟨a, hone, ha⟩ := hfile.exists_allocation hentry
  obtain ⟨d, hd, haddress⟩ := exists_source ha.destinations hlaw.destination
  have hada : (authorizedEffect i).asset = .ADA := hlaw.asset.trans ha.asset
  have hlength := decodeDestination_length haddress
  rw [hid] at hone
  refine ⟨hfile.exists_policyRef hlaw.policy, ⟨a, hone, exists_source ha.subjects hlaw.subject,
    ⟨d, hd, haddress⟩, hlaw.amount, ha.basis ▸ hlaw.amount_le⟩, hada, hlength.1, hlength.2, ?_⟩
  intro World SubmitError receipt backend world hstatus houtput
  exact fulfill_ada hstatus houtput hada backend world

def repeatedDigit (n : Nat) (digit : Char) : String := String.ofList (List.replicate n digit)

/-- A file that registers the fixture's policy and allocation. -/
def fixtureConfigFile : ConfigFile where
  anchor := ⟨[repeatedDigit 64 '1']⟩
  registry := ⟨[{
    id := repeatedDigit 64 '2'
    basisLovelace := 2000000000
    authorizedSubjects := [repeatedDigit 64 '3']
    approvedAsset := "ADA"
    approvedDestinations := [⟨repeatedDigit 114 '5', 57⟩] }]⟩

def fixtureSnapshot : ConfigSnapshot where
  registeredPolicyRefs := [fixtureIntent.policyRef]
  allocations := [{
    id := fixtureIntent.allocationId
    basisLovelace := 2000000000
    authorizedSubjects := [fixtureIntent.requesterId]
    approvedAsset := fixtureIntent.asset
    approvedDestinations := [fixtureIntent.destination] }]

example : decodeDestination ⟨repeatedDigit 114 '5', 58⟩ = .error (.destinationLength 58) := by
  decide

theorem fixtureConfigFile_loads :
    ConfigSnapshot.fromFile fixtureConfigFile = .ok fixtureSnapshot := by
  decide +kernel

theorem config_bounds_payments_fixture :
    ConfigSnapshot.fromFile fixtureConfigFile = .ok fixtureSnapshot ∧
      ∃ a ∈ fixtureConfigFile.registry.allocations,
        0 < (authorizedEffect fixtureIntent).authorizedAmountLovelace ∧
          (authorizedEffect fixtureIntent).authorizedAmountLovelace ≤ a.basisLovelace := by
  have hpc := Postcard.reference_documented
  have hauthorized : authorizeDisbursement fixtureIntent fixtureSnapshot.handler.anchor
      fixtureSnapshot.handler.registry 1713000100000 =
        .authorized (authorizedEffect fixtureIntent) := by
    decide
  have hframed := (DisbursementIntentV1.codec_hasLayout hpc).selfDelimiting
  obtain ⟨call, hcall, hdecode, -⟩ := hframed.framed
    CanonicalEncodeError.serializerFailure CanonicalDecodeError.malformed .trailingBytes
    fixtureIntent
  obtain ⟨b, hrun, hencode⟩ :=
    DisbursementHandler.handle_decoded hpc hdecode fixtureSnapshot.handler
      ⟨1713000100000, 10042, Vector.replicate 32 0⟩
  have hverdict := AuthorizationResult.decode_encode hpc hencode
  rw [hauthorized] at hverdict
  obtain ⟨-, ⟨a, hone, -, -, hpos, hle⟩, -⟩ := config_bounds_payments hpc
    fixtureConfigFile_loads hrun hverdict
  have ha : a ∈ fixtureConfigFile.registry.allocations :=
    List.mem_of_mem_filter (hone ▸ List.mem_singleton_self a)
  exact ⟨fixtureConfigFile_loads, a, ha, hpos, hle⟩

end OracleGuard
