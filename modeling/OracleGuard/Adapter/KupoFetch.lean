import OracleGuard.Adapter.HexCodecs
import OracleGuard.Trim

/-!
The datum of the oracle, fetched in two requests: the outputs at its address, and the
datum of the first one that carries the asset. The server acts on a state of its own,
and the parsing of JSON into records is a parameter.

* `fetch_eq_ok`: what a fetch returns, in terms of the two responses.
* `requests_of_fetch`: the second request is only made for a match of the first.
* `fetch_trailing_slashes`: slashes at the end of the base URL change nothing.
-/

namespace OracleGuard

open Wire

namespace Kupo

def HACKATHON_PREPROD_BASE_URL : String := "http://35.209.192.203:1442"

def CHARLI3_ADA_USD_ASSET_KEY : String :=
  "886dcb2363e160c944e63cf544ce6f6265b22ef7c4e2478dd975078e.43334153"

def CHARLI3_ADA_USD_ORACLE_ADDRESS : String :=
  "addr_test1wq3pacs7jcrlwehpuy3ryj8kwvsqzjp9z6dpmx8txnr0vkq6vqeuu"

structure KupoEndpoint where
  baseUrl : String
  deriving DecidableEq, Repr

def KupoEndpoint.hackathonPreprod : KupoEndpoint := ⟨HACKATHON_PREPROD_BASE_URL⟩

/-- `trim_end_matches('/')` -/
def KupoEndpoint.trimmed (endpoint : KupoEndpoint) : String :=
  String.ofList (Trim.trimEnd (· == '/') endpoint.baseUrl.toList)

def matchesUrl (endpoint : KupoEndpoint) (oracleAddress : String) : String :=
  endpoint.trimmed ++ "/matches/" ++ oracleAddress ++ "?unspent"

def datumUrl (endpoint : KupoEndpoint) (datumHash : String) : String :=
  endpoint.trimmed ++ "/datums/" ++ datumHash

/-! ## Responses -/

structure MatchRecordRaw where
  transactionId : String
  outputIndex : UInt32
  datumHash : Option String
  assets : List (String × UInt64)
  deriving DecidableEq, Repr

/-- `serde_json::from_slice` at the two types of a response. -/
structure KupoJson where
  records : Bytes → Option (List MatchRecordRaw)
  datum : Bytes → Option String

/-- `contains_key` -/
def MatchRecordRaw.carries (assetKey : String) (r : MatchRecordRaw) : Bool :=
  r.assets.any fun entry => entry.1 == assetKey

/-- The loop over the records. -/
def firstMatch (assetKey : String) : List MatchRecordRaw → Except KupoParseError MatchRecord
  | [] => .error .noMatchingUtxo
  | r :: records =>
    if r.carries assetKey then
      match r.datumHash with
      | none => .error .missingDatumHash
      | some datumHash =>
        .ok { transactionId := r.transactionId, outputIndex := r.outputIndex, datumHash }
    else firstMatch assetKey records

def findAggstateMatch (json : KupoJson) (matchesJson : Bytes) (assetKey : String) :
    Except KupoParseError MatchRecord :=
  match json.records matchesJson with
  | none => .error .malformedJson
  | some records => firstMatch assetKey records

def parseDatumResponse (json : KupoJson) (datumJson : Bytes) : Except KupoParseError Bytes :=
  match json.datum datumJson with
  | none => .error .malformedJson
  | some datum =>
    match hexDecode datum with
    | none => .error .hexInvalid
    | some bytes => .ok bytes

theorem firstMatch_eq_ok {assetKey : String} {records : List MatchRecordRaw}
    {record : MatchRecord} :
    firstMatch assetKey records = .ok record ↔
      ∃ r, records.find? (MatchRecordRaw.carries assetKey) = some r ∧
        r.datumHash = some record.datumHash ∧ r.transactionId = record.transactionId ∧
        r.outputIndex = record.outputIndex := by
  induction records with
  | nil => simp [firstMatch]
  | cons r records ih =>
    cases hcarries : r.carries assetKey with
    | false => simp [firstMatch, hcarries, ih]
    | true =>
      obtain ⟨transactionId, outputIndex, datumHash⟩ := record
      cases hhash : r.datumHash with
      | none => simp [firstMatch, hcarries, hhash]
      | some datumHash => simp [firstMatch, hcarries, hhash, and_comm, and_assoc]

theorem findAggstateMatch_eq_ok {json : KupoJson} {body : Bytes} {assetKey : String}
    {record : MatchRecord} :
    findAggstateMatch json body assetKey = .ok record ↔
      ∃ records r, json.records body = some records ∧
        records.find? (MatchRecordRaw.carries assetKey) = some r ∧
        r.datumHash = some record.datumHash ∧ r.transactionId = record.transactionId ∧
        r.outputIndex = record.outputIndex := by
  unfold findAggstateMatch
  cases json.records body with
  | none => simp
  | some records => simp [firstMatch_eq_ok]

theorem parseDatumResponse_eq_ok {json : KupoJson} {body cbor : Bytes} :
    parseDatumResponse json body = .ok cbor ↔ json.datum body = some (Hex.text cbor) := by
  unfold parseDatumResponse
  cases json.datum body with
  | none => simp
  | some datum =>
    rw [Option.some.injEq, ← hexDecode_eq_some]
    cases hdecode : hexDecode datum <;> simp [hdecode]

/-! ## Fetching -/

structure AggStateFetch where
  cborBytes : Bytes
  aggregatorUtxoRef : Bytes32
  deriving DecidableEq, Repr

inductive KupoFetchError where
  | http (err : String)
  | readBody (err : String)
  | parse (err : KupoParseError)
  deriving DecidableEq, Repr

/-- A request fails as a whole, or its body cannot be read. -/
inductive HttpError where
  | call (err : String)
  | body (err : String)
  deriving DecidableEq, Repr

def KupoFetchError.ofHttp : HttpError → KupoFetchError
  | .call err => .http err
  | .body err => .readBody err

/-- `agent.get(url).call()?.into_string()?` -/
abbrev Http (World : Type) := String → StateM World (Except HttpError String)

section Fetch

variable {World : Type} (json : KupoJson) (get : Http World) (endpoint : KupoEndpoint)
  (oracleAddress assetKey : String)

/-- The reading of the second response. -/
def readDatum (record : MatchRecord) (datumBody : String) :
    Except KupoParseError AggStateFetch := do
  let cborBytes ← parseDatumResponse json (utf8 datumBody)
  let aggregatorUtxoRef ← utxoRefBytes record
  return { cborBytes, aggregatorUtxoRef }

def fetchDatum (record : MatchRecord) : StateM World (Except KupoFetchError AggStateFetch) := do
  match ← get (datumUrl endpoint record.datumHash) with
  | .error err => return .error (.ofHttp err)
  | .ok datumBody => return (readDatum json record datumBody).mapError .parse

def fetchAggstateDatum : StateM World (Except KupoFetchError AggStateFetch) := do
  match ← get (matchesUrl endpoint oracleAddress) with
  | .error err => return .error (.ofHttp err)
  | .ok matchesBody =>
    match findAggstateMatch json (utf8 matchesBody) assetKey with
    | .error err => return .error (.parse err)
    | .ok record => fetchDatum json get endpoint record

variable {json get endpoint oracleAddress assetKey} {w w₁ w' : World}

theorem readDatum_eq_ok {record : MatchRecord} {body : String} {fetched : AggStateFetch} :
    readDatum json record body = .ok fetched ↔
      json.datum (utf8 body) = some (Hex.text fetched.cborBytes) ∧
        record.transactionId = Hex.text fetched.aggregatorUtxoRef.toList := by
  unfold readDatum
  simp only [Fallible.bind_eq_ok, parseDatumResponse_eq_ok, utxoRefBytes_eq_ok]
  constructor
  · rintro ⟨cborBytes, hcbor, ref, href, h⟩
    cases h
    exact ⟨hcbor, href⟩
  · rintro ⟨hcbor, href⟩
    exact ⟨_, hcbor, _, href, rfl⟩

theorem fetchDatum_failed {record : MatchRecord} {err : HttpError}
    (hget : (get (datumUrl endpoint record.datumHash)).run w = (.error err, w')) :
    (fetchDatum json get endpoint record).run w = (.error (.ofHttp err), w') := by
  simp only [fetchDatum, StateT.run_bind, hget]
  rfl

theorem fetchDatum_run {record : MatchRecord} {body : String}
    (hget : (get (datumUrl endpoint record.datumHash)).run w = (.ok body, w')) :
    (fetchDatum json get endpoint record).run w =
      ((readDatum json record body).mapError .parse, w') := by
  simp only [fetchDatum, StateT.run_bind, hget]
  rfl

theorem fetchDatum_eq_ok {record : MatchRecord} {fetched : AggStateFetch} :
    (fetchDatum json get endpoint record).run w = (.ok fetched, w') ↔
      ∃ body, (get (datumUrl endpoint record.datumHash)).run w = (.ok body, w') ∧
        readDatum json record body = .ok fetched := by
  constructor
  · intro h
    cases hget : (get (datumUrl endpoint record.datumHash)).run w with
    | mk result w₁ =>
      cases result with
      | error err =>
        rw [fetchDatum_failed hget] at h
        cases h
      | ok body =>
        rw [fetchDatum_run hget] at h
        cases hread : readDatum json record body with
        | error err =>
          rw [hread] at h
          cases h
        | ok fetched' =>
          rw [hread] at h
          cases h
          exact ⟨body, rfl, hread⟩
  · rintro ⟨body, hget, hread⟩
    rw [fetchDatum_run hget, hread]
    rfl

theorem fetch_failed {err : HttpError}
    (hget : (get (matchesUrl endpoint oracleAddress)).run w = (.error err, w')) :
    (fetchAggstateDatum json get endpoint oracleAddress assetKey).run w =
      (.error (.ofHttp err), w') := by
  simp only [fetchAggstateDatum, StateT.run_bind, hget]
  rfl

theorem fetch_unmatched {body : String} {err : KupoParseError}
    (hget : (get (matchesUrl endpoint oracleAddress)).run w = (.ok body, w'))
    (hfind : findAggstateMatch json (utf8 body) assetKey = .error err) :
    (fetchAggstateDatum json get endpoint oracleAddress assetKey).run w =
      (.error (.parse err), w') := by
  simp only [fetchAggstateDatum, StateT.run_bind, hget]
  show StateT.run (match findAggstateMatch json (utf8 body) assetKey with
    | .error err => return .error (.parse err)
    | .ok record => fetchDatum json get endpoint record) w' = _
  rw [hfind]
  rfl

theorem fetch_matched {body : String} {record : MatchRecord}
    (hget : (get (matchesUrl endpoint oracleAddress)).run w = (.ok body, w₁))
    (hfind : findAggstateMatch json (utf8 body) assetKey = .ok record) :
    (fetchAggstateDatum json get endpoint oracleAddress assetKey).run w =
      (fetchDatum json get endpoint record).run w₁ := by
  simp only [fetchAggstateDatum, StateT.run_bind, hget]
  show StateT.run (match findAggstateMatch json (utf8 body) assetKey with
    | .error err => return .error (.parse err)
    | .ok record => fetchDatum json get endpoint record) w₁ = _
  rw [hfind]

/-- The two responses that a fetch comes from. -/
structure Fetched (json : KupoJson) (get : Http World) (endpoint : KupoEndpoint)
    (oracleAddress assetKey : String) (w w' : World) (fetched : AggStateFetch) : Prop where
  responses : ∃ matchesBody w₁ records r datumHash datumBody,
    (get (matchesUrl endpoint oracleAddress)).run w = (.ok matchesBody, w₁) ∧
    json.records (utf8 matchesBody) = some records ∧
    records.find? (MatchRecordRaw.carries assetKey) = some r ∧
    r.datumHash = some datumHash ∧
    (get (datumUrl endpoint datumHash)).run w₁ = (.ok datumBody, w') ∧
    json.datum (utf8 datumBody) = some (Hex.text fetched.cborBytes) ∧
    r.transactionId = Hex.text fetched.aggregatorUtxoRef.toList

theorem fetch_eq_ok {fetched : AggStateFetch} :
    (fetchAggstateDatum json get endpoint oracleAddress assetKey).run w = (.ok fetched, w') ↔
      Fetched json get endpoint oracleAddress assetKey w w' fetched := by
  constructor
  · intro h
    cases hget : (get (matchesUrl endpoint oracleAddress)).run w with
    | mk result w₁ =>
      cases result with
      | error err =>
        rw [fetch_failed hget] at h
        cases h
      | ok body =>
        cases hfind : findAggstateMatch json (utf8 body) assetKey with
        | error err =>
          rw [fetch_unmatched hget hfind] at h
          cases h
        | ok record =>
          rw [fetch_matched hget hfind] at h
          obtain ⟨datumBody, hget', hread⟩ := fetchDatum_eq_ok.mp h
          obtain ⟨hcbor, href⟩ := readDatum_eq_ok.mp hread
          obtain ⟨records, r, hrecords, hfirst, hhash, hid, -⟩ := findAggstateMatch_eq_ok.mp hfind
          exact ⟨body, w₁, records, r, _, datumBody, hget, hrecords, hfirst, hhash, hget', hcbor,
            hid.trans href⟩
  · rintro ⟨body, w₁, records, r, hash, datumBody, hget, hrecords, hfirst, hhash, hget', hcbor,
      href⟩
    let record : MatchRecord := ⟨r.transactionId, r.outputIndex, hash⟩
    have hfind : findAggstateMatch json (utf8 body) assetKey = .ok record :=
      findAggstateMatch_eq_ok.mpr ⟨records, r, hrecords, hfirst, hhash, rfl, rfl⟩
    have hread : readDatum json record datumBody = .ok fetched := readDatum_eq_ok.mpr ⟨hcbor, href⟩
    rw [fetch_matched hget hfind]
    exact fetchDatum_eq_ok.mpr ⟨datumBody, hget', hread⟩

/-- The same server, with a log of its requests. -/
def recording (get : Http World) : Http (World × List String) :=
  fun url (w, log) => (((get url).run w).1, (((get url).run w).2, log ++ [url]))

theorem recording_run (url : String) (log : List String) :
    (recording get url).run (w, log) =
      (((get url).run w).1, (((get url).run w).2, log ++ [url])) := rfl

theorem fetchDatum_requests (record : MatchRecord) (log : List String) :
    ∃ result w', (fetchDatum json (recording get) endpoint record).run (w, log) =
        (result, (w', log ++ [datumUrl endpoint record.datumHash])) ∧
      (fetchDatum json get endpoint record).run w = (result, w') := by
  have hlogged := @recording_run _ get w (datumUrl endpoint record.datumHash) log
  cases hget : (get (datumUrl endpoint record.datumHash)).run w with
  | mk result w' =>
    rw [hget] at hlogged
    cases result with
    | error err => exact ⟨_, w', fetchDatum_failed hlogged, fetchDatum_failed hget⟩
    | ok body => exact ⟨_, w', fetchDatum_run hlogged, fetchDatum_run hget⟩

/-- Which requests a fetch makes. -/
theorem requests_of_fetch (log : List String) :
    ∃ result w' requests,
      (fetchAggstateDatum json (recording get) endpoint oracleAddress assetKey).run (w, log) =
        (result, (w', log ++ requests)) ∧
      (fetchAggstateDatum json get endpoint oracleAddress assetKey).run w = (result, w') ∧
      ((∃ body record, ((get (matchesUrl endpoint oracleAddress)).run w).1 = .ok body ∧
          findAggstateMatch json (utf8 body) assetKey = .ok record ∧
          requests = [matchesUrl endpoint oracleAddress, datumUrl endpoint record.datumHash]) ∨
        requests = [matchesUrl endpoint oracleAddress] ∧ ∃ err, result = .error err) := by
  have hlogged := @recording_run _ get w (matchesUrl endpoint oracleAddress) log
  cases hget : (get (matchesUrl endpoint oracleAddress)).run w with
  | mk result w₁ =>
    rw [hget] at hlogged
    cases result with
    | error err =>
      exact ⟨_, w₁, _, fetch_failed hlogged, fetch_failed hget, .inr ⟨rfl, _, rfl⟩⟩
    | ok body =>
      cases hfind : findAggstateMatch json (utf8 body) assetKey with
      | error err =>
        exact ⟨_, w₁, _, fetch_unmatched hlogged hfind, fetch_unmatched hget hfind,
          .inr ⟨rfl, _, rfl⟩⟩
      | ok record =>
        obtain ⟨result, w', hrun, hrun'⟩ := @fetchDatum_requests _ json get endpoint w₁ record
          (log ++ [matchesUrl endpoint oracleAddress])
        refine ⟨result, w', _, (fetch_matched hlogged hfind).trans (hrun.trans ?_),
          (fetch_matched hget hfind).trans hrun', .inl ⟨body, record, rfl, hfind, rfl⟩⟩
        rw [List.append_assoc]
        rfl

theorem trimmed_slashes (n : Nat) :
    KupoEndpoint.trimmed ⟨endpoint.baseUrl ++ String.ofList (List.replicate n '/')⟩ =
      endpoint.trimmed := by
  have hslashes : ∀ c ∈ List.replicate n '/', (c == '/') = true := by
    intro c hc
    rw [List.eq_of_mem_replicate hc]
    rfl
  rw [KupoEndpoint.trimmed, String.toList_append, String.toList_ofList,
    Trim.trimEnd_append hslashes, KupoEndpoint.trimmed]

theorem fetch_trailing_slashes (n : Nat) :
    fetchAggstateDatum json get ⟨endpoint.baseUrl ++ String.ofList (List.replicate n '/')⟩
        oracleAddress assetKey =
      fetchAggstateDatum json get endpoint oracleAddress assetKey := by
  unfold fetchAggstateDatum fetchDatum matchesUrl datumUrl
  rw [trimmed_slashes]

variable (json get endpoint oracleAddress assetKey)

/-- **The oracle fetch.** -/
theorem kupo_fetch_exact :
    (∀ w w' fetched,
      (fetchAggstateDatum json get endpoint oracleAddress assetKey).run w = (.ok fetched, w') ↔
        Fetched json get endpoint oracleAddress assetKey w w' fetched) ∧
    (∀ w log, ∃ result w' requests,
      (fetchAggstateDatum json (recording get) endpoint oracleAddress assetKey).run (w, log) =
        (result, (w', log ++ requests)) ∧
      (fetchAggstateDatum json get endpoint oracleAddress assetKey).run w = (result, w') ∧
      ((∃ body record, ((get (matchesUrl endpoint oracleAddress)).run w).1 = .ok body ∧
          findAggstateMatch json (utf8 body) assetKey = .ok record ∧
          requests = [matchesUrl endpoint oracleAddress, datumUrl endpoint record.datumHash]) ∨
        requests = [matchesUrl endpoint oracleAddress] ∧ ∃ err, result = .error err)) ∧
    ∀ n, fetchAggstateDatum json get ⟨endpoint.baseUrl ++ String.ofList (List.replicate n '/')⟩
        oracleAddress assetKey =
      fetchAggstateDatum json get endpoint oracleAddress assetKey :=
  ⟨fun _ _ _ => fetch_eq_ok, fun _ => requests_of_fetch, fetch_trailing_slashes⟩

end Fetch

end Kupo

end OracleGuard
