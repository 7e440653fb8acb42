import OracleGuard.Ziranity.Config

/-!
Which files the loader accepts, and what the loaded snapshot says.

* `decode32Hex_eq_ok`: a hex field is accepted exactly when it is the text of its
  bytes.
* `config_loader_exact`: the accepted files are the valid ones, and the views of
  the snapshot read the entries of the file.
* `canonical_destinations_iff`: which of the loaded destinations are canonical
  addresses.
-/

namespace OracleGuard

open Fallible Wire

/-! ## Hex fields -/

theorem readsNibbles_decodeNibble (field : String) :
    Hex.ReadsNibbles fun b => decodeNibble b field := by
  unfold decodeNibble
  exact Hex.readsNibbles_ranges fun v h => by cases h

theorem length_utf8_text (bs : Bytes) : (utf8 (Hex.text bs)).length = 2 * bs.length := by
  rw [Hex.utf8_text, Hex.length_digitBytes]

/-- The pairs of a string are its bytes exactly when it is their text. -/
theorem decodePairs_utf8 {field : String} {s : String} {bs : Bytes}
    (heven : (utf8 s).length % 2 = 0) :
    decodePairs field (utf8 s) = .ok bs ↔ s = Hex.text bs :=
  Hex.decodeChunks_utf8 (readsNibbles_decodeNibble field) heven

theorem toList_overwrite {n : Nat} {bs : Bytes} (h : bs.length ≤ n) :
    (overwrite n bs).toList = bs ++ List.replicate (n - bs.length) 0 := by
  apply List.ext_getElem
  · simp
    omega
  · intro k _ hk
    by_cases hlt : k < bs.length
    · simp [overwrite, hlt]
    · simp [overwrite, hlt, List.getElem_append_right (Nat.not_lt.mp hlt)]

theorem overwrite_toList {n : Nat} (v : Vector UInt8 n) : overwrite n v.toList = v := by
  ext i hi
  simp [overwrite]

section Overwrite

variable {m : Type → Type} [Monad m] [Failing m] {nibble : UInt8 → m UInt8}
  (hnibble : Hex.ReadsNibbles nibble)
include hnibble

/-- A string of 64 bytes that are read two by two into an array. -/
theorem overwrite_chunks_iff {s : String} {k : Bytes32} :
    ((utf8 s).length = 64 ∧
        ∃ bs, Hex.decodeChunks nibble (utf8 s) = pure bs ∧ overwrite 32 bs = k) ↔
      s = Hex.text k.toList := by
  constructor
  · rintro ⟨hlength, bs, hbs, rfl⟩
    have heven : (utf8 s).length % 2 = 0 := by rw [hlength]
    have hs := (Hex.decodeChunks_utf8 hnibble heven).mp hbs
    rw [hs, length_utf8_text] at hlength
    have hcount : bs.length = 32 := by omega
    rw [toList_overwrite hcount.le, hcount, Nat.sub_self, List.replicate_zero, List.append_nil]
    exact hs
  · rintro rfl
    have hlength : (utf8 (Hex.text k.toList)).length = 64 := by
      rw [length_utf8_text, Vector.length_toList]
    have heven : (utf8 (Hex.text k.toList)).length % 2 = 0 := by rw [hlength]
    exact ⟨hlength, k.toList, (Hex.decodeChunks_utf8 hnibble heven).mpr rfl, overwrite_toList k⟩

end Overwrite

theorem decode32Hex_eq_ok {s field : String} {k : Bytes32} :
    decode32Hex s field = .ok k ↔ s = Hex.text k.toList := by
  rw [decode32Hex, guard_eq_ok, not_not, map_eq_ok]
  exact overwrite_chunks_iff (readsNibbles_decodeNibble field)

/-- A destination is accepted when its two fields are in range, each on its own. -/
theorem decodeDestination_eq_ok {d : DestinationFile} {address : CardanoAddressV1} :
    decodeDestination d = .ok address ↔
      (1 ≤ d.length.toNat ∧ d.length.toNat ≤ 57) ∧ ∃ bs : Bytes, (1 ≤ bs.length ∧ bs.length ≤ 57) ∧
        d.bytesHex = Hex.text bs ∧ address = ⟨overwrite 57 bs, d.length⟩ := by
  have hrange : (d.length = 0 ∨ d.length > 57) ↔
      ¬ (1 ≤ d.length.toNat ∧ d.length.toNat ≤ 57) := by
    simp only [gt_iff_lt, UInt8.lt_iff_toNat_lt, ← UInt8.toNat_inj, UInt8.reduceToNat]
    omega
  unfold decodeDestination
  simp only [hrange]
  constructor
  · intro h
    split_ifs at h with hlength heven hcount
    obtain ⟨bs, hbs, rfl⟩ := map_eq_ok.mp h
    have heven : (utf8 d.bytesHex).length % 2 = 0 := not_not.mp heven
    have htext := (decodePairs_utf8 heven).mp hbs
    rw [htext, length_utf8_text] at hcount
    exact ⟨hlength, bs, by omega, htext, rfl⟩
  · rintro ⟨hlength, bs, hcount, htext, rfl⟩
    have hdouble : (utf8 d.bytesHex).length = 2 * bs.length := by rw [htext, length_utf8_text]
    have heven : (utf8 d.bytesHex).length % 2 = 0 := by omega
    rw [if_neg (not_not.mpr hlength), if_neg (not_not.mpr heven), if_neg (by omega),
      (decodePairs_utf8 heven).mpr htext]
    rfl

/-! ## Valid files -/

structure HexField (n : Nat) (s : String) : Prop where
  length : s.length = n
  digits : ∀ c ∈ s.toList, Hex.IsDigit c

structure ValidDestination (d : DestinationFile) : Prop where
  length : 1 ≤ d.length.toNat ∧ d.length.toNat ≤ 57
  count : 2 ≤ d.bytesHex.length ∧ d.bytesHex.length ≤ 114
  even : d.bytesHex.length % 2 = 0
  digits : ∀ c ∈ d.bytesHex.toList, Hex.IsDigit c

structure ValidAllocation (a : AllocationFile) : Prop where
  id : HexField 64 a.id
  subjects : ∀ s ∈ a.authorizedSubjects, HexField 64 s
  asset : a.approvedAsset = "ADA"
  destinations : ∀ d ∈ a.approvedDestinations, ValidDestination d

structure ValidFile (file : ConfigFile) : Prop where
  policyRefs : ∀ s ∈ file.anchor.registeredPolicyRefs, HexField 64 s
  allocations : ∀ a ∈ file.registry.allocations, ValidAllocation a
  distinct : (file.registry.allocations.map fun a => Hex.ofText a.id).Nodup

theorem exists_decode32Hex {s field : String} :
    (∃ k, decode32Hex s field = .ok k) ↔ HexField 64 s := by
  constructor
  · rintro ⟨k, hk⟩
    have htext := Hex.exists_text.mp ⟨k.toList, rfl, decode32Hex_eq_ok.mp hk⟩
    rw [Vector.length_toList] at htext
    exact ⟨htext.1, htext.2⟩
  · rintro ⟨hlength, hdigits⟩
    obtain ⟨bs, hcount, rfl⟩ := Hex.exists_text.mpr ⟨show s.length = 2 * 32 from hlength, hdigits⟩
    refine ⟨⟨bs.toArray, by simpa using hcount⟩, decode32Hex_eq_ok.mpr ?_⟩
    rfl

theorem exists_decodeDestination {d : DestinationFile} :
    (∃ address, decodeDestination d = .ok address) ↔ ValidDestination d := by
  constructor
  · rintro ⟨address, h⟩
    obtain ⟨hlength, bs, hcount, htext, -⟩ := decodeDestination_eq_ok.mp h
    obtain ⟨hdouble, hdigits⟩ := Hex.exists_text.mp ⟨bs, rfl, htext⟩
    exact ⟨hlength, by omega, by omega, hdigits⟩
  · rintro ⟨hlength, hcount, heven, hdigits⟩
    have htext := Hex.text_ofText heven hdigits
    have hdouble := Hex.length_text (Hex.ofText d.bytesHex)
    rw [htext] at hdouble
    exact ⟨_, decodeDestination_eq_ok.mpr
      ⟨hlength, Hex.ofText d.bytesHex, by omega, htext.symm, rfl⟩⟩

theorem decodeAsset_ada {s : String} (h : ∃ asset, decodeAsset s = .ok asset) : s = "ADA" := by
  obtain ⟨asset, h⟩ := h
  unfold decodeAsset at h
  split at h
  next hs => exact hs
  · cases h

theorem exists_decodes {a : AllocationFile} :
    (∃ entry, Decodes a entry) ↔ ValidAllocation a := by
  constructor
  · rintro ⟨entry, h⟩
    refine ⟨exists_decode32Hex.mp ⟨_, h.id⟩, fun s hs => ?_, decodeAsset_ada ⟨_, h.asset⟩,
      fun d hd => ?_⟩
    · exact exists_decode32Hex.mp (exists_mapM_ok.mp ⟨_, h.subjects⟩ s hs)
    · exact exists_decodeDestination.mp (exists_mapM_ok.mp ⟨_, h.destinations⟩ d hd)
  · rintro ⟨hid, hsubjects, hasset, hdestinations⟩
    obtain ⟨id, hid⟩ := (@exists_decode32Hex a.id ALLOCATION_ID_FIELD).mpr hid
    obtain ⟨subjects, hsubjects⟩ := exists_mapM_ok.mpr fun s hs =>
      (@exists_decode32Hex s SUBJECTS_FIELD).mpr (hsubjects s hs)
    obtain ⟨destinations, hdestinations⟩ := exists_mapM_ok.mpr fun d hd =>
      exists_decodeDestination.mpr (hdestinations d hd)
    exact ⟨⟨id, a.basisLovelace, subjects, .ADA, destinations⟩, hid, rfl, hsubjects,
      if_pos hasset, hdestinations⟩

theorem Decodes.ofText_id {a : AllocationFile} {entry : AllocationEntry} (h : Decodes a entry) :
    Hex.ofText a.id = entry.id.toList := by
  rw [decode32Hex_eq_ok.mp h.id, Hex.ofText_text]

/-- The ids of the file are as distinct as those of the snapshot. -/
theorem distinct_iff {files : List AllocationFile} {entries : List AllocationEntry}
    (h : List.Forall₂ Decodes files entries) :
    (files.map fun a => Hex.ofText a.id).Nodup ↔ (entries.map (·.id)).Nodup := by
  have hids : (files.map fun a => Hex.ofText a.id) = (entries.map (·.id)).map Vector.toList := by
    induction h with
    | nil => rfl
    | cons hentry _ ih => rw [List.map_cons, List.map_cons, List.map_cons, ih, hentry.ofText_id]
  rw [hids, List.nodup_map_iff fun _ _ heq => Vector.toList_inj.mp heq]

theorem exists_fromFile {file : ConfigFile} :
    (∃ snapshot, ConfigSnapshot.fromFile file = .ok snapshot) ↔ ValidFile file := by
  constructor
  · rintro ⟨snapshot, h⟩
    obtain ⟨hpolicyRefs, hloaded, hnodup⟩ := fromFile_eq_ok.mp h
    refine ⟨fun s hs => ?_, fun a ha => ?_, (distinct_iff hloaded).mpr hnodup⟩
    · exact exists_decode32Hex.mp (exists_mapM_ok.mp ⟨_, hpolicyRefs⟩ s hs)
    · obtain ⟨entry, -, hentry⟩ := exists_source hloaded.flip ha
      exact exists_decodes.mp ⟨entry, hentry⟩
  · rintro ⟨hpolicyRefs, hallocations, hdistinct⟩
    obtain ⟨policyRefs, hpolicyRefs⟩ := exists_mapM_ok.mpr fun s hs =>
      (@exists_decode32Hex s POLICY_REFS_FIELD).mpr (hpolicyRefs s hs)
    obtain ⟨entries, hloaded⟩ := exists_forall₂ fun a ha => exists_decodes.mpr (hallocations a ha)
    exact ⟨⟨policyRefs, entries⟩, fromFile_eq_ok.mpr
      ⟨hpolicyRefs, hloaded, (distinct_iff hloaded).mp hdistinct⟩⟩

/-! ## What the views read -/

/-- The bytes of a destination, padded with zeros. -/
structure DescribesAddress (d : DestinationFile) (address : CardanoAddressV1) : Prop where
  length : address.length = d.length
  bytes : address.bytes.toList = Hex.ofText d.bytesHex ++
    List.replicate (57 - (Hex.ofText d.bytesHex).length) 0

/-- The facts of an allocation, with its subjects and destinations in order. -/
structure Describes (a : AllocationFile) (facts : AllocationFacts) : Prop where
  basis : facts.basisLovelace = a.basisLovelace
  subjects : facts.authorizedSubjects.map Vector.toList = a.authorizedSubjects.map Hex.ofText
  asset : facts.approvedAsset = .ADA
  destinations : List.Forall₂ DescribesAddress a.approvedDestinations facts.approvedDestinations

theorem decodeDestination_describes {d : DestinationFile} {address : CardanoAddressV1}
    (h : decodeDestination d = .ok address) : DescribesAddress d address := by
  obtain ⟨-, bs, hcount, htext, rfl⟩ := decodeDestination_eq_ok.mp h
  refine ⟨rfl, ?_⟩
  rw [htext, Hex.ofText_text]
  exact toList_overwrite hcount.2

theorem map_ofText {field : String} {texts : List String} {keys : List Bytes32}
    (h : (texts.mapM fun s => decode32Hex s field) = .ok keys) :
    keys.map Vector.toList = texts.map Hex.ofText := by
  have hall := mapM_eq_ok.mp h
  induction hall with
  | nil => rfl
  | cons hkey hrest ih =>
    rw [List.map_cons, List.map_cons, ih (mapM_eq_ok.mpr hrest), decode32Hex_eq_ok.mp hkey,
      Hex.ofText_text]

/-- The facts that a view hands out for an entry. -/
def AllocationEntry.facts (entry : AllocationEntry) : AllocationFacts :=
  ⟨entry.basisLovelace, entry.authorizedSubjects, entry.approvedAsset, entry.approvedDestinations⟩

theorem Decodes.describes {a : AllocationFile} {entry : AllocationEntry} (h : Decodes a entry) :
    Describes a entry.facts :=
  ⟨h.basis, map_ofText h.subjects, decodeAsset_eq_ok h.asset,
    (mapM_eq_ok.mp h.destinations).imp fun _ _ => decodeDestination_describes⟩

/-- The allocations of the file with a given id. -/
def ConfigFile.withId (file : ConfigFile) (k : Bytes32) : List AllocationFile :=
  file.registry.allocations.filter fun a => Hex.ofText a.id = k.toList

section Views

variable {file : ConfigFile} {snapshot : ConfigSnapshot}
  (hload : ConfigSnapshot.fromFile file = .ok snapshot)
include hload

theorem isPolicyRegistered_iff (k : Bytes32) :
    snapshot.isPolicyRegistered k = true ↔
      ∃ s ∈ file.anchor.registeredPolicyRefs, Hex.ofText s = k.toList := by
  have htexts := map_ofText (fromFile_eq_ok.mp hload).1
  have hmem : k ∈ snapshot.registeredPolicyRefs ↔
      k.toList ∈ file.anchor.registeredPolicyRefs.map Hex.ofText := by
    rw [← htexts, List.mem_map_of_injective fun _ _ heq => Vector.toList_inj.mp heq]
  rw [← List.mem_map, ← hmem]
  simp [ConfigSnapshot.isPolicyRegistered]

theorem lookup_of_entry {entry : AllocationEntry} (hentry : entry ∈ snapshot.allocations) :
    snapshot.lookup entry.id = some entry.facts := by
  obtain ⟨-, -, hnodup⟩ := fromFile_eq_ok.mp hload
  have hone := filter_key_eq_singleton hnodup hentry
  rw [ConfigSnapshot.lookup, ← List.head?_filter, hone]
  rfl

theorem withId_of_entry {entry : AllocationEntry} (hentry : entry ∈ snapshot.allocations) :
    ∃ a, file.withId entry.id = [a] ∧ Decodes a entry := by
  obtain ⟨-, hloaded, hnodup⟩ := fromFile_eq_ok.mp hload
  apply filter_source_eq_singleton hloaded hnodup _ hentry
  intro a c hac
  rw [decide_eq_true_eq, hac.ofText_id, Vector.toList_inj]

theorem lookup_of_withId {k : Bytes32} {a : AllocationFile} (h : file.withId k = [a]) :
    ∃ facts, snapshot.lookup k = some facts ∧ Describes a facts := by
  obtain ⟨-, hloaded, -⟩ := fromFile_eq_ok.mp hload
  obtain ⟨ha, hid⟩ := List.mem_filter.mp (h ▸ List.mem_singleton_self a)
  obtain ⟨entry, hentry, hdecodes⟩ := exists_source hloaded.flip ha
  have hid : entry.id = k := by
    rw [decide_eq_true_eq, hdecodes.ofText_id] at hid
    exact Vector.toList_inj.mp hid
  exact ⟨entry.facts, hid ▸ lookup_of_entry hload hentry, hdecodes.describes⟩

theorem lookup_none {k : Bytes32} (h : ¬ ∃ a, file.withId k = [a]) :
    snapshot.lookup k = none := by
  cases hlookup : snapshot.lookup k with
  | none => rfl
  | some facts =>
    obtain ⟨entry, hentry, rfl, -⟩ := ConfigSnapshot.lookup_eq_some hlookup
    obtain ⟨a, ha, -⟩ := withId_of_entry hload hentry
    exact absurd ⟨a, ha⟩ h

end Views

/-- **The loader accepts the valid files and loses nothing of them.** -/
theorem config_loader_exact (file : ConfigFile) :
    ((∃ snapshot, ConfigSnapshot.fromFile file = .ok snapshot) ↔ ValidFile file) ∧
    ∀ snapshot, ConfigSnapshot.fromFile file = .ok snapshot → ∀ k : Bytes32,
      (snapshot.isPolicyRegistered k = true ↔
        ∃ s ∈ file.anchor.registeredPolicyRefs, Hex.ofText s = k.toList) ∧
      (∀ a, file.withId k = [a] → ∃ facts, snapshot.lookup k = some facts ∧ Describes a facts) ∧
      ((¬ ∃ a, file.withId k = [a]) → snapshot.lookup k = none) :=
  ⟨exists_fromFile, fun _ hload k =>
    ⟨isPolicyRegistered_iff hload k, fun _ => lookup_of_withId hload, lookup_none hload⟩⟩

theorem config_loader_exact_fixture :
    ∃ facts, fixtureSnapshot.lookup fixtureIntent.allocationId = some facts ∧
      facts.authorizedSubjects.map Vector.toList = [List.replicate 32 0x33] := by
  have hone : fixtureConfigFile.withId fixtureIntent.allocationId =
      fixtureConfigFile.registry.allocations := by
    decide +kernel
  obtain ⟨facts, hfacts, hdescribes⟩ := ((config_loader_exact fixtureConfigFile).2 _
    fixtureConfigFile_loads fixtureIntent.allocationId).2.1 _ hone
  refine ⟨facts, hfacts, hdescribes.subjects.trans ?_⟩
  decide +kernel

/-! ## Canonical addresses -/

/-- The address is the bytes written, their number its length, and zeros behind them. -/
structure CanonicalAddress (d : DestinationFile) (address : CardanoAddressV1) : Prop where
  count : (Hex.ofText d.bytesHex).length = address.length.toNat
  padding : ∀ (i : Nat) (hi : i < 57), address.length.toNat ≤ i → address.bytes[i] = 0
  derived : address.bytes.toList.take address.length.toNat = Hex.ofText d.bytesHex

/-- The loader checks the two fields of a destination in isolation. -/
theorem canonicalAddress_iff {d : DestinationFile} {address : CardanoAddressV1}
    (h : decodeDestination d = .ok address) :
    CanonicalAddress d address ↔ d.bytesHex.length = 2 * d.length.toNat := by
  obtain ⟨-, bs, hcount, htext, rfl⟩ := decodeDestination_eq_ok.mp h
  have hbytes : Hex.ofText d.bytesHex = bs := by rw [htext, Hex.ofText_text]
  have hdouble : d.bytesHex.length = 2 * bs.length := by rw [htext, Hex.length_text]
  rw [hdouble]
  constructor
  · rintro ⟨hwritten, -, -⟩
    rw [hbytes] at hwritten
    rw [hwritten]
  · intro hlength
    have hlength : bs.length = d.length.toNat := by omega
    refine ⟨by rw [hbytes, hlength], fun i hi hle => ?_, ?_⟩
    · have hnone : bs.length ≤ i := by rwa [hlength]
      simp [overwrite, hnone]
    · show (overwrite 57 bs).toList.take d.length.toNat = Hex.ofText d.bytesHex
      rw [hbytes, toList_overwrite hcount.2, ← hlength, List.take_left' rfl]

/-- The destinations of a file and those of its snapshot, one by one. -/
def CanonicalDestinations (file : ConfigFile) (snapshot : ConfigSnapshot) : Prop :=
  List.Forall₂ (fun a entry =>
      List.Forall₂ CanonicalAddress a.approvedDestinations entry.approvedDestinations)
    file.registry.allocations snapshot.allocations

/-- **The canonical files** among those accepted. -/
theorem canonical_destinations_iff {file : ConfigFile} {snapshot : ConfigSnapshot}
    (hload : ConfigSnapshot.fromFile file = .ok snapshot) :
    CanonicalDestinations file snapshot ↔
      ∀ a ∈ file.registry.allocations, ∀ d ∈ a.approvedDestinations,
        d.bytesHex.length = 2 * d.length.toNat :=
  forall₂_iff_forall (fromFile_loaded hload).allocations fun _ _ hloaded =>
    forall₂_iff_forall hloaded.destinations fun _ _ => canonicalAddress_iff

theorem canonical_destinations_iff_fixture :
    CanonicalDestinations fixtureConfigFile fixtureSnapshot ↔
      ∀ a ∈ fixtureConfigFile.registry.allocations, ∀ d ∈ a.approvedDestinations,
        d.bytesHex.length = 2 * d.length.toNat :=
  canonical_destinations_iff fixtureConfigFile_loads

/-- Two bytes are written, and the length says one. -/
def truncatedConfigFile : ConfigFile where
  anchor := ⟨[]⟩
  registry := ⟨[{
    id := repeatedDigit 64 '2'
    basisLovelace := 2000000000
    authorizedSubjects := []
    approvedAsset := "ADA"
    approvedDestinations := [⟨"abcd", 1⟩] }]⟩

theorem noncanonical_destination_loaded :
    ¬ ∀ (file : ConfigFile) (snapshot : ConfigSnapshot),
      ConfigSnapshot.fromFile file = .ok snapshot → CanonicalDestinations file snapshot := by
  intro h
  let snapshot : ConfigSnapshot := ⟨[], [{
    id := Vector.replicate 32 0x22
    basisLovelace := 2000000000
    authorizedSubjects := []
    approvedAsset := .ADA
    approvedDestinations := [⟨overwrite 57 [0xab, 0xcd], 1⟩] }]⟩
  have hload : ConfigSnapshot.fromFile truncatedConfigFile = .ok snapshot := by decide +kernel
  have hcanonical := h truncatedConfigFile snapshot hload
  cases hcanonical with
  | cons hdestinations _ =>
    cases hdestinations with
    | cons haddress _ =>
      have hcount := haddress.count
      revert hcount
      decide

end OracleGuard
