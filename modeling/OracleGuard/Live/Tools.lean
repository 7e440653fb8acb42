import OracleGuard.Live.VerifyBundle

/-!
The two live tools, one after the other, over one file system.

* `built_iff`: when the first one exits with zero, and what it leaves behind.
* `tools_compose`: what the second one says about the files of the first.
-/

namespace OracleGuard

open Wire

/-! ## Files -/

abbrev Files := String → Option Bytes

def Files.write (files : Files) (path : String) (bytes : Bytes) : Files :=
  fun p => if p = path then some bytes else files p

/-- The writes up to the first one that is refused, if there is one. -/
def writeAll (refuses : String → Bool) : List (String × Bytes) → Files → Option String × Files
  | [], files => (none, files)
  | (path, bytes) :: writes, files =>
    if refuses path then (some path, files) else writeAll refuses writes (files.write path bytes)

section Writes

variable {refuses : String → Bool} {writes : List (String × Bytes)}

theorem writeAll_eq_none {files : Files} :
    (writeAll refuses writes files).1 = none ↔ ∀ write ∈ writes, refuses write.1 = false := by
  induction writes generalizing files with
  | nil => simp [writeAll]
  | cons write writes ih =>
    rw [writeAll, List.forall_mem_cons]
    cases hrefuses : refuses write.1 with
    | true => simp
    | false => simpa using ih

/-- The other files stay as they are. -/
theorem writeAll_other {path : String} (hpath : path ∉ writes.map Prod.fst) (files : Files) :
    (writeAll refuses writes files).2 path = files path := by
  induction writes generalizing files with
  | nil => rfl
  | cons write writes ih =>
    rw [List.map_cons, List.mem_cons, not_or] at hpath
    rw [writeAll]
    split
    · rfl
    · rw [ih hpath.2]
      exact if_neg hpath.1

theorem writeAll_read {files : Files} (h : (writeAll refuses writes files).1 = none)
    (hpaths : (writes.map Prod.fst).Nodup) {path : String} {bytes : Bytes}
    (hmem : (path, bytes) ∈ writes) : (writeAll refuses writes files).2 path = some bytes := by
  induction writes generalizing files with
  | nil => cases hmem
  | cons write writes ih =>
    rw [List.map_cons, List.nodup_cons] at hpaths
    have hrefuses := writeAll_eq_none.mp h write List.mem_cons_self
    rw [writeAll, hrefuses, if_neg Bool.false_ne_true] at h ⊢
    rcases List.mem_cons.mp hmem with rfl | hmem
    · rw [writeAll_other hpaths.1]
      exact if_pos rfl
    · exact ih h hpaths.2 hmem

end Writes

/-! ## The first tool -/

namespace BuildLiveScenario

inductive Exit where
  | stopped (stop : Stop)
  | fetch (err : Kupo.KupoFetchError)
  | failed (err : Failure)
  | write (path : String)
  | printed (live : Live)

def Exit.code : Exit → Nat
  | .stopped .help => 0
  | .stopped (.usage _) => 2
  | .fetch _ => 1
  | .failed _ => 1
  | .write _ => 1
  | .printed _ => 0

def Args.endpoint (args : Args) : Kupo.KupoEndpoint :=
  match args.kupoUrl with
  | some url => ⟨url⟩
  | none => .hackathonPreprod

def Args.intentOut (args : Args) : Scenario → String
  | .allow => args.allowIntentOut
  | .deny => args.denyIntentOut

def Args.resultOut (args : Args) : Scenario → String
  | .allow => args.allowResultOut
  | .deny => args.denyResultOut

def Args.outs (args : Args) : List String :=
  [args.allowIntentOut, args.allowResultOut, args.denyIntentOut, args.denyResultOut]

def Live.writes (live : Live) (args : Args) : List (String × Bytes) :=
  [(args.allowIntentOut, live.allow.intentBytes), (args.allowResultOut, live.allow.resultBytes),
    (args.denyIntentOut, live.deny.intentBytes), (args.denyResultOut, live.deny.resultBytes)]

section Exec

variable {World : Type} (pc : Postcard) (blake3 : Blake3) (cbor : Minicbor)
  (json : Kupo.KupoJson) (get : Kupo.Http World) (refuses : String → Bool)

/-- The whole of `main`. -/
def exec (argv : List String) (w : World) (files : Files) : Exit × World × Files :=
  match parseArgs argv with
  | .error stop => (.stopped stop, w, files)
  | .ok args =>
    match (Kupo.fetchAggstateDatum json get args.endpoint Kupo.CHARLI3_ADA_USD_ORACLE_ADDRESS
      Kupo.CHARLI3_ADA_USD_ASSET_KEY).run w with
    | (.error err, w') => (.fetch err, w', files)
    | (.ok fetched, w') =>
      match main pc blake3 cbor fetched files args with
      | .error err => (.failed err, w', files)
      | .ok live =>
        match writeAll refuses (live.writes args) files with
        | (some path, files') => (.write path, w', files')
        | (none, files') => (.printed live, w', files')

variable {pc blake3 cbor json get refuses} {argv : List String} {w w' : World}
  {files files' : Files}

variable (pc blake3 cbor json get w w') in
/-- The two steps before the writing. -/
structure Reaches (files : Files) (args : Args) (fetched : Kupo.AggStateFetch) (live : Live) :
    Prop where
  fetch : (Kupo.fetchAggstateDatum json get args.endpoint Kupo.CHARLI3_ADA_USD_ORACLE_ADDRESS
    Kupo.CHARLI3_ADA_USD_ASSET_KEY).run w = (.ok fetched, w')
  built : main pc blake3 cbor fetched files args = .ok live

theorem exec_printed {live : Live} :
    exec pc blake3 cbor json get refuses argv w files = (.printed live, w', files') ↔
      ∃ args fetched, parseArgs argv = .ok args ∧
        Reaches pc blake3 cbor json get w w' files args fetched live ∧
        writeAll refuses (live.writes args) files = (none, files') := by
  constructor
  · intro h
    unfold exec at h
    split at h
    next => cases h
    next args hargs =>
      split at h
      next => cases h
      next fetched w₁ hfetch =>
        split at h
        next => cases h
        next live' hbuilt =>
          split at h
          next => cases h
          next files₁ hwrites =>
            cases h
            exact ⟨args, fetched, hargs, ⟨hfetch, hbuilt⟩, hwrites⟩
  · rintro ⟨args, fetched, hargs, ⟨hfetch, hbuilt⟩, hwrites⟩
    unfold exec
    rw [hargs]
    dsimp only
    rw [hfetch]
    dsimp only
    rw [hbuilt]
    dsimp only
    rw [hwrites]

theorem code_eq_zero_iff :
    (exec pc blake3 cbor json get refuses argv w files).1.code = 0 ↔
      parseArgs argv = .error .help ∨ ∃ live w' files',
        exec pc blake3 cbor json get refuses argv w files = (.printed live, w', files') := by
  constructor
  · intro h
    cases hexec : exec pc blake3 cbor json get refuses argv w files with
    | mk result rest =>
      rw [hexec] at h
      cases result with
      | stopped stop =>
        cases stop with
        | usage err => cases h
        | help =>
          refine .inl ?_
          unfold exec at hexec
          split at hexec
          next stop hargs =>
            cases hexec
            exact hargs
          next =>
            split at hexec
            next => cases hexec
            next =>
              split at hexec
              next => cases hexec
              next => split at hexec <;> cases hexec
      | fetch err => cases h
      | failed err => cases h
      | write path => cases h
      | printed live => exact .inr ⟨live, rest.1, rest.2, rfl⟩
  · rintro (hhelp | ⟨live, w', files', hexec⟩)
    · unfold exec
      rw [hhelp]
      rfl
    · rw [hexec]
      rfl

theorem refuses_outs_iff {live : Live} {args : Args} :
    (∀ write ∈ live.writes args, refuses write.1 = false) ↔
      ∀ path ∈ args.outs, refuses path = false := by
  have houts : args.outs = (live.writes args).map Prod.fst := rfl
  rw [houts, List.forall_mem_map]

/-- **When the first tool exits with zero**: it was asked for help, or the datum is
fetched and read, the template is that of an intent, and the four files can be written. -/
theorem built_iff (hpc : pc.Documented) (blake3 : Blake3) (cbor : Minicbor)
    (json : Kupo.KupoJson) (get : Kupo.Http World) (refuses : String → Bool)
    (argv : List String) (w : World) (files : Files) :
    (exec pc blake3 cbor json get refuses argv w files).1.code = 0 ↔
      parseArgs argv = .error .help ∨ ∃ args fetched w' pair template,
        parseArgs argv = .ok args ∧
        Kupo.Fetched json get args.endpoint Kupo.CHARLI3_ADA_USD_ORACLE_ADDRESS
          Kupo.CHARLI3_ADA_USD_ASSET_KEY w w' fetched ∧
        normalizeAggstateDatum cbor fetched.cborBytes fetched.aggregatorUtxoRef = .ok pair ∧
        ReadsTemplate pc files args template ∧ ∀ path ∈ args.outs, refuses path = false := by
  rw [code_eq_zero_iff]
  refine or_congr Iff.rfl ?_
  constructor
  · rintro ⟨live, w', files', hexec⟩
    obtain ⟨args, fetched, hargs, hreaches, hwrites⟩ := exec_printed.mp hexec
    obtain ⟨⟨pair, hpair⟩, template, htemplate⟩ := (exists_main hpc).mp ⟨live, hreaches.built⟩
    have hnone := writeAll_eq_none.mp (congrArg Prod.fst hwrites)
    exact ⟨args, fetched, w', pair, template, hargs, Kupo.fetch_eq_ok.mp hreaches.fetch, hpair,
      htemplate, refuses_outs_iff.mp hnone⟩
  · rintro ⟨args, fetched, w', pair, template, hargs, hfetched, hpair, htemplate, houts⟩
    obtain ⟨live, hbuilt⟩ := (@exists_main pc blake3 cbor fetched files args hpc).mpr
      ⟨⟨pair, hpair⟩, template, htemplate⟩
    have hnone := (@writeAll_eq_none refuses (live.writes args) files).mpr
      (refuses_outs_iff.mpr houts)
    exact ⟨live, w', _, exec_printed.mpr ⟨args, fetched, hargs,
      ⟨Kupo.fetch_eq_ok.mpr hfetched, hbuilt⟩, Prod.ext hnone rfl⟩⟩

end Exec

/-! ### The golden run -/

def goldenMatches : String :=
  "[\x7b\"transaction_id\":\"" ++ Hex.text (List.replicate 32 0x94) ++
    "\",\"output_index\":0,\"datum_hash\":\"00\",\"value\":\x7b\"assets\":\x7b\"" ++
    Kupo.CHARLI3_ADA_USD_ASSET_KEY ++ "\":1\x7d\x7d\x7d]"

def goldenDatum : String :=
  "\x7b\"datum\":\"" ++ Hex.text goldenFrame.bytes ++ "\"\x7d"

def goldenServer : Kupo.Http Unit := fun url =>
  if url = Kupo.matchesUrl .hackathonPreprod Kupo.CHARLI3_ADA_USD_ORACLE_ADDRESS then
    return .ok goldenMatches
  else if url = Kupo.datumUrl .hackathonPreprod "00" then return .ok goldenDatum
  else return .error (.call "404")

def goldenRecord : Kupo.MatchRecordRaw where
  transactionId := Hex.text (List.replicate 32 0x94)
  outputIndex := 0
  datumHash := some "00"
  assets := [(Kupo.CHARLI3_ADA_USD_ASSET_KEY, 1)]

/-- The parser on the two bodies of the server. -/
def goldenJson : Kupo.KupoJson where
  records body := if body = utf8 goldenMatches then some [goldenRecord] else none
  datum body := if body = utf8 goldenDatum then some (Hex.text goldenFrame.bytes) else none

def goldenArgv : List String :=
  ["--template-intent", "allow_700_ada_intent.postcard",
    "--allow-intent-out", "allow_intent.postcard", "--allow-result-out", "allow_result.postcard",
    "--deny-intent-out", "deny_intent.postcard", "--deny-result-out", "deny_result.postcard"]

theorem goldenArgv_read : parseArgs goldenArgv = .ok goldenArgs := by decide

theorem golden_fetched : Kupo.Fetched goldenJson goldenServer goldenArgs.endpoint
    Kupo.CHARLI3_ADA_USD_ORACLE_ADDRESS Kupo.CHARLI3_ADA_USD_ASSET_KEY () () goldenFetch := by
  have hurls : Kupo.datumUrl .hackathonPreprod "00" ≠
      Kupo.matchesUrl .hackathonPreprod Kupo.CHARLI3_ADA_USD_ORACLE_ADDRESS := by
    decide +kernel
  refine ⟨goldenMatches, (), [goldenRecord], goldenRecord, "00", goldenDatum, ?_, ?_, ?_, rfl, ?_,
    ?_, rfl⟩
  · simp only [goldenServer, Args.endpoint, goldenArgs, if_true]
    rfl
  · simp only [goldenJson, if_true]
  · simp [goldenRecord, Kupo.MatchRecordRaw.carries]
  · simp only [goldenServer, Args.endpoint, goldenArgs, hurls, if_false, if_true]
    rfl
  · simp only [goldenJson, if_true]
    rfl

theorem built_golden : ∃ files : Files, ReadsTemplate .reference files goldenArgs fixtureIntent ∧
    (exec .reference policyDigest .reference goldenJson goldenServer (fun _ => false) goldenArgv ()
      files).1.code = 0 := by
  obtain ⟨files, htemplate⟩ := exists_template
  exact ⟨files, htemplate, (built_iff Postcard.reference_documented policyDigest .reference
    goldenJson goldenServer (fun _ => false) goldenArgv () files).mpr (.inr ⟨goldenArgs,
      goldenFetch, (), _, fixtureIntent, goldenArgv_read, golden_fetched, golden_normalized,
      htemplate, fun _ _ => rfl⟩)⟩

end BuildLiveScenario

/-! ## Both tools -/

open BuildLiveScenario (scenarioIntent ReadsTemplate) in
/-- **The tools compose.** With four different paths, the second tool finds the files of
either scenario clean under the conditions that the first one cannot check. -/
theorem tools_compose {pc : Postcard} (hpc : pc.Documented) {blake3 : Blake3} {cbor : Minicbor}
    {World : Type} {json : Kupo.KupoJson} {get : Kupo.Http World} {refuses : String → Bool}
    {argv : List String} {w w' : World} {files files' : Files} {live : BuildLiveScenario.Live}
    (hexec : BuildLiveScenario.exec pc blake3 cbor json get refuses argv w files =
      (.printed live, w', files'))
    {args : BuildLiveScenario.Args} (hargs : BuildLiveScenario.parseArgs argv = .ok args)
    (houts : args.outs.Nodup) (scenario : BuildLiveScenario.Scenario) {argv' : List String}
    {a : VerifyLiveBundle.Args} (hargs' : VerifyLiveBundle.parseArgs argv' = .ok a)
    (hintent : a.intentPath = args.intentOut scenario)
    (hauth : a.authPath = args.resultOut scenario) :
    ∃ template, ReadsTemplate pc files args template ∧
      ((VerifyLiveBundle.main pc blake3 files' argv').code = 0 ↔
        template.intentVersion = 1 ∧
          (let i := scenarioIntent scenario template live.evalFact live.provenance
            live.capLovelace
          evaluateDisbursement i a.allocationBasisLovelace =
            evaluateDisbursement i args.allocationLovelace) ∧
          ((live.out scenario).verdict = "Allow" → ∃ txHash, a.txHash = some txHash)) := by
  obtain ⟨args', fetched, hparse, hreaches, hwrites⟩ := BuildLiveScenario.exec_printed.mp hexec
  obtain rfl : args' = args := Except.ok.inj (hparse.symm.trans hargs)
  obtain ⟨template, htemplate, hruns⟩ := (BuildLiveScenario.main_eq_ok hpc).mp hreaches.built
  have hread : ∀ {path bytes}, (path, bytes) ∈ live.writes args' → files' path = some bytes := by
    intro path bytes hmem
    have h := writeAll_read (congrArg Prod.fst hwrites) houts hmem
    rwa [hwrites] at h
  refine ⟨template, htemplate, VerifyLiveBundle.scenario_clean_iff hpc hruns scenario hargs' ?_ ?_⟩
  · rw [hintent]
    cases scenario <;> exact hread (by simp [BuildLiveScenario.Live.writes,
      BuildLiveScenario.Args.intentOut, BuildLiveScenario.Live.out])
  · rw [hauth]
    cases scenario <;> exact hread (by simp [BuildLiveScenario.Live.writes,
      BuildLiveScenario.Args.resultOut, BuildLiveScenario.Live.out])

/-- The hash is that of the payment for the scenario that is allowed. -/
def goldenVerifyArgv : List String :=
  ["--intent-path", "allow_intent.postcard", "--auth-path", "allow_result.postcard",
    "--tx-hash", "abababababababababababababababababababababababababababababababab",
    "--committed-height", "10042"]

def goldenVerifyArgs : VerifyLiveBundle.Args :=
  ⟨"allow_intent.postcard", "allow_result.postcard", some (Vector.replicate 32 0xAB), 10042,
    1000000000⟩

theorem goldenVerifyArgv_read :
    VerifyLiveBundle.parseArgs goldenVerifyArgv = .ok goldenVerifyArgs := by decide

open BuildLiveScenario in
theorem tools_compose_golden : ∃ files live files',
    exec .reference policyDigest .reference goldenJson goldenServer (fun _ => false) goldenArgv ()
        files = (.printed live, (), files') ∧
      (VerifyLiveBundle.main .reference policyDigest files' goldenVerifyArgv).code = 0 := by
  have hpc := Postcard.reference_documented
  obtain ⟨files, htemplate⟩ := exists_template
  obtain ⟨live, hbuilt⟩ := exists_golden htemplate
  have hnone := (@writeAll_eq_none (fun _ => false) (live.writes goldenArgs) files).mpr
    fun _ _ => rfl
  have hexec := (@exec_printed Unit .reference policyDigest .reference goldenJson goldenServer
    (fun _ => false) goldenArgv () () files _ live).mpr ⟨goldenArgs, goldenFetch, goldenArgv_read,
      ⟨Kupo.fetch_eq_ok.mpr golden_fetched, hbuilt⟩, Prod.ext hnone rfl⟩
  obtain ⟨template, htemplate', hclean⟩ := tools_compose hpc hexec goldenArgv_read (by decide)
    .allow goldenVerifyArgv_read rfl rfl
  obtain rfl := htemplate'.unique htemplate
  exact ⟨files, live, _, hexec, hclean.mpr ⟨rfl, rfl, fun _ => ⟨_, rfl⟩⟩⟩

end OracleGuard
