import OracleGuard.Adapter.HexCodecs

/-!
The programs that the adapter starts: it builds an argument vector, waits, and looks
at the exit code. What a program does is left to its `Command`.

* `capture_eq_ok`: only the output of a program that exits with zero is handed on.
* `command_lines_exact`: which configurations have the same argument vector. A path
  is shown in full exactly when it is UTF-8.
-/

namespace OracleGuard

open Wire

/-! ## Child processes -/

/-- A process that a signal ended has no exit code. -/
structure Output where
  exitCode : Option Int
  stdout : Bytes
  stderr : Bytes
  deriving DecidableEq, Repr

def Output.success (output : Output) : Bool := output.exitCode = some 0

/-- What starts a program with its arguments and waits for it. -/
abbrev Command (World : Type) := PathBuf → List String → StateM World (Except String Output)

/-- `SubmitError` and `AggregateError`, which have the same variants. -/
inductive ProcessError where
  | spawn (err : String)
  | nonZeroExit (exitCode : Option Int) (stdout stderr : Bytes)
  deriving DecidableEq, Repr

section Capture

variable {World : Type} (command : Command World)

/-- The body that the four callers have in common. -/
def capture (bin : PathBuf) (args : List String) : StateM World (Except ProcessError Bytes) := do
  match ← command bin args with
  | .error err => return .error (.spawn err)
  | .ok output =>
    if !output.success then
      return .error (.nonZeroExit output.exitCode output.stdout output.stderr)
    else return .ok output.stdout

variable {bin : PathBuf} {args : List String} {w w' : World}

theorem capture_spawn {err : String} (hrun : (command bin args).run w = (.error err, w')) :
    (capture command bin args).run w = (.error (.spawn err), w') := by
  simp only [capture, StateT.run_bind, hrun]
  rfl

theorem capture_output {output : Output} (hrun : (command bin args).run w = (.ok output, w')) :
    (capture command bin args).run w =
      (if output.exitCode = some 0 then .ok output.stdout
        else .error (.nonZeroExit output.exitCode output.stdout output.stderr), w') := by
  simp only [capture, StateT.run_bind, hrun]
  show (if (!decide (output.exitCode = some 0)) = true then _ else _ : StateM _ _).run w' = _
  by_cases hexit : output.exitCode = some 0 <;> simp [hexit] <;> rfl

theorem capture_eq_ok {stdout : Bytes} :
    (capture command bin args).run w = (.ok stdout, w') ↔
      ∃ stderr, (command bin args).run w = (.ok ⟨some 0, stdout, stderr⟩, w') := by
  constructor
  · intro h
    cases hrun : (command bin args).run w with
    | mk result w₁ =>
      cases result with
      | error err =>
        rw [capture_spawn command hrun] at h
        cases h
      | ok output =>
        rw [capture_output command hrun] at h
        split at h
        next hexit =>
          cases h
          exact ⟨output.stderr, by rw [← hexit]⟩
        next => cases h
  · rintro ⟨stderr, hrun⟩
    exact capture_output command hrun

end Capture

/-! ## Argument vectors -/

def DEFAULT_WAIT_TIMEOUT_SECS : UInt32 := 30

def DEFAULT_KEY_ID : String := "oracleguard-operator"

def DISBURSEMENT_OCU_ID : Bytes32 := #v[
  0xa4, 0x65, 0x60, 0x6b, 0xb1, 0xb1, 0xcd, 0x4a, 0x70, 0x14, 0x55, 0x04, 0x31, 0x1b, 0x67, 0x3b,
  0x40, 0x0e, 0x6c, 0x2d, 0xd2, 0xb0, 0xd0, 0xa8, 0x3c, 0x9f, 0x46, 0xc2, 0xc1, 0x18, 0x67, 0xc4]

structure SubmitConfig where
  payloadPath : PathBuf
  keyId : String
  objectId : Bytes32
  nodeHost : String
  nodePort : UInt16
  bootstrapBundlePath : PathBuf
  wait : Bool
  waitTimeoutSecs : UInt32
  devnetInsecure : Bool
  deriving DecidableEq, Repr

def SubmitConfig.newMvp (payloadPath : PathBuf) (nodeHost : String) (nodePort : UInt16)
    (bootstrapBundlePath : PathBuf) : SubmitConfig where
  payloadPath := payloadPath
  keyId := DEFAULT_KEY_ID
  objectId := DISBURSEMENT_OCU_ID
  nodeHost := nodeHost
  nodePort := nodePort
  bootstrapBundlePath := bootstrapBundlePath
  wait := true
  waitTimeoutSecs := DEFAULT_WAIT_TIMEOUT_SECS
  devnetInsecure := false

/-- The flags at the end of the vector. -/
def SubmitConfig.waitArgs (config : SubmitConfig) : List String :=
  (if config.wait then ["--wait", "--wait-timeout", config.waitTimeoutSecs.toNat.repr] else []) ++
    if config.devnetInsecure then ["--devnet-insecure"] else []

def buildCliArgs (config : SubmitConfig) : Option (List String) := do
  let objectId ← ZiranitySubmit.hexEncode config.objectId
  return ["intent", "submit",
    "--payload", config.payloadPath.toStringLossy,
    "--key", config.keyId,
    "--object_id", objectId,
    "--node", config.nodeHost ++ ":" ++ config.nodePort.toNat.repr,
    "--bootstrap-bundle", config.bootstrapBundlePath.toStringLossy] ++ config.waitArgs

structure AggregateConfig where
  configFile : PathBuf
  autoSubmit : Bool
  feedData : Option PathBuf
  deriving DecidableEq, Repr

def AggregateConfig.newMvp (configFile : PathBuf) : AggregateConfig where
  configFile := configFile
  autoSubmit := true
  feedData := none

def buildAggregateArgs (config : AggregateConfig) : List String :=
  ["aggregate", "--config", config.configFile.toStringLossy] ++
    (if config.autoSubmit then ["--auto-submit"] else []) ++
    match config.feedData with
    | some path => ["--feed-data", path.toStringLossy]
    | none => []

structure CardanoCliSettlementBackend where
  cardanoCliBin : PathBuf
  networkArgs : List String
  workDir : PathBuf
  deriving DecidableEq, Repr

/-- `Path::join` with a relative name. -/
def joinPath (dir : PathBuf) (name : String) : PathBuf :=
  if dir = [] ∨ dir.getLast? = some 0x2f then dir ++ utf8 name else dir ++ utf8 ("/" ++ name)

def CardanoCliSettlementBackend.signedTxPathFor (backend : CardanoCliSettlementBackend)
    (request : SettlementRequest) : Option PathBuf := do
  return joinPath backend.workDir (← Cardano.signedTxName request)

def CardanoCliSettlementBackend.txidCliArgs (backend : CardanoCliSettlementBackend)
    (request : SettlementRequest) : Option (List String) := do
  return ["transaction", "txid"] ++ backend.networkArgs ++
    ["--tx-file", (← backend.signedTxPathFor request).toStringLossy]

/-! ## What a vector says -/

/-- The last separator splits a list in one way. -/
theorem append_cons_inj {α : Type} {c : α} {l l' d d' : List α} (hd : c ∉ d) (hd' : c ∉ d')
    (h : l ++ c :: d = l' ++ c :: d') : l = l' ∧ d = d' := by
  induction l generalizing l' with
  | nil =>
    cases l' with
    | nil => simpa using h
    | cons b l' =>
      have htail := (List.cons.inj h).2
      simp [htail] at hd
  | cons a l ih =>
    cases l' with
    | nil =>
      have htail := (List.cons.inj h).2
      simp [← htail] at hd'
    | cons b l' =>
      obtain ⟨hhead, htail⟩ := List.cons.inj h
      obtain ⟨hl, hright⟩ := ih htail
      exact ⟨by rw [hhead, hl], hright⟩

theorem colon_not_mem_repr (n : Nat) : ':' ∉ n.repr.toList := by
  rw [Nat.toList_repr]
  intro hcolon
  have hdigit := Nat.isDigit_of_mem_toDigits (by decide) (by decide) hcolon
  revert hdigit
  decide

/-- A host may hold colons of its own: the port is behind the last one. -/
theorem node_inj {host host' : String} {port port' : Nat}
    (h : host ++ ":" ++ port.repr = host' ++ ":" ++ port'.repr) : host = host' ∧ port = port' := by
  have hlist := congrArg String.toList h
  simp only [String.toList_append, List.append_assoc] at hlist
  obtain ⟨hhost, hport⟩ :=
    append_cons_inj (colon_not_mem_repr port) (colon_not_mem_repr port') hlist
  exact ⟨String.toList_inj.mp hhost, repr_inj (String.toList_inj.mp hport)⟩

/-! ## Paths -/

def PathBuf.IsUtf8 (path : PathBuf) : Prop := ∃ s, path = utf8 s

theorem PathBuf.toStringLossy_inj {path path' : PathBuf} (h : path.IsUtf8) (h' : path'.IsUtf8) :
    path.toStringLossy = path'.toStringLossy ↔ path = path' := by
  obtain ⟨s, rfl⟩ := h
  obtain ⟨s', rfl⟩ := h'
  constructor
  · intro htext
    rw [toStringLossy, toStringLossy, lossy_utf8, lossy_utf8] at htext
    rw [htext]
  · intro hpath
    rw [hpath]

/-- Its text is that of another path. -/
theorem PathBuf.exists_confused {path : PathBuf} (h : ¬ path.IsUtf8) :
    ∃ path' : PathBuf, path' ≠ path ∧ path'.IsUtf8 ∧
      path'.toStringLossy = path.toStringLossy := by
  refine ⟨utf8 path.toStringLossy, ?_, ⟨_, rfl⟩, lossy_utf8 _⟩
  intro hpath
  exact h ⟨_, hpath.symm⟩

/-- The name of a signed file begins with a digit. -/
theorem startsAscii_signedTxName (intentId : Bytes32) :
    StartsAscii (utf8 (Hex.text intentId.toList ++ ".signed")) := by
  rw [utf8_append, Hex.utf8_text]
  cases hbytes : intentId.toList with
  | nil =>
    have hlength : intentId.toList.length = 32 := Vector.length_toList
    rw [hbytes] at hlength
    cases hlength
  | cons b bytes =>
    intro d hd
    have hdigit : ∀ n < 16, Hex.digitByte n < 0x80 := by decide
    rw [Hex.digitBytes_cons, List.cons_append, List.head?_cons, Option.mem_some] at hd
    rw [← hd]
    exact hdigit _ (Hex.halves b).1

theorem startsAscii_slash (name : String) : StartsAscii (utf8 ("/" ++ name)) := by
  rw [utf8_append, show utf8 "/" = [0x2f] by decide]
  intro b hb
  obtain rfl := Option.mem_some.mp hb
  decide

/-- Whatever stands in the directory is shown in the same way. -/
theorem joinPath_lossy_inj (dir : PathBuf) {name name' : String}
    (hname : StartsAscii (utf8 name)) (hname' : StartsAscii (utf8 name'))
    (h : (joinPath dir name).toStringLossy = (joinPath dir name').toStringLossy) :
    name = name' := by
  unfold joinPath PathBuf.toStringLossy at h
  split at h
  · rw [lossy_append _ hname, lossy_append _ hname'] at h
    exact (String.append_right_inj _).mp h
  · rw [lossy_append _ (startsAscii_slash _), lossy_append _ (startsAscii_slash _)] at h
    exact (String.append_right_inj _).mp ((String.append_right_inj _).mp h)

/-- The timeout is written only where it is waited for. -/
structure SubmitConfig.SameCommand (c c' : SubmitConfig) : Prop where
  payloadPath : c.payloadPath.toStringLossy = c'.payloadPath.toStringLossy
  keyId : c.keyId = c'.keyId
  objectId : c.objectId = c'.objectId
  nodeHost : c.nodeHost = c'.nodeHost
  nodePort : c.nodePort = c'.nodePort
  bootstrapBundlePath :
    c.bootstrapBundlePath.toStringLossy = c'.bootstrapBundlePath.toStringLossy
  wait : c.wait = c'.wait
  waitTimeoutSecs : c.wait = true → c.waitTimeoutSecs = c'.waitTimeoutSecs
  devnetInsecure : c.devnetInsecure = c'.devnetInsecure

theorem waitArgs_eq_iff (c c' : SubmitConfig) :
    c.waitArgs = c'.waitArgs ↔ c.wait = c'.wait ∧
      (c.wait = true → c.waitTimeoutSecs = c'.waitTimeoutSecs) ∧
      c.devnetInsecure = c'.devnetInsecure := by
  have hsecs : c.waitTimeoutSecs.toNat.repr = c'.waitTimeoutSecs.toNat.repr ↔
      c.waitTimeoutSecs = c'.waitTimeoutSecs :=
    ⟨fun h => UInt32.toNat_inj.mp (repr_inj h), fun h => by rw [h]⟩
  unfold SubmitConfig.waitArgs
  cases c.wait <;> cases c'.wait <;> cases c.devnetInsecure <;> cases c'.devnetInsecure <;>
    simp [hsecs]

theorem buildCliArgs_eq (config : SubmitConfig) :
    buildCliArgs config = some (["intent", "submit",
      "--payload", config.payloadPath.toStringLossy,
      "--key", config.keyId,
      "--object_id", Hex.text config.objectId.toList,
      "--node", config.nodeHost ++ ":" ++ config.nodePort.toNat.repr,
      "--bootstrap-bundle", config.bootstrapBundlePath.toStringLossy] ++ config.waitArgs) := by
  rw [buildCliArgs, objectId_eq]
  rfl

/-- The digits of the object id are always found. -/
def submitIntent {World : Type} (command : Command World) (ziranityBin : PathBuf)
    (config : SubmitConfig) : StateM World (Except ProcessError Bytes) :=
  capture command ziranityBin ((buildCliArgs config).get (by rw [buildCliArgs_eq]; rfl))

def aggregate {World : Type} (command : Command World) (binary : PathBuf)
    (config : AggregateConfig) : StateM World (Except ProcessError Bytes) :=
  capture command binary (buildAggregateArgs config)

theorem buildCliArgs_eq_iff (c c' : SubmitConfig) :
    buildCliArgs c = buildCliArgs c' ↔ c.SameCommand c' := by
  rw [buildCliArgs_eq, buildCliArgs_eq, Option.some_inj]
  simp only [List.cons_append, List.nil_append, List.cons.injEq, true_and, waitArgs_eq_iff]
  constructor
  · rintro ⟨hpayload, hkey, hobject, hnode, hbundle, hwait, htimeout, hdevnet⟩
    obtain ⟨hhost, hport⟩ := node_inj hnode
    exact
      { payloadPath := hpayload
        keyId := hkey
        objectId := Vector.toList_inj.mp (text_inj hobject)
        nodeHost := hhost
        nodePort := UInt16.toNat_inj.mp hport
        bootstrapBundlePath := hbundle
        wait := hwait
        waitTimeoutSecs := htimeout
        devnetInsecure := hdevnet }
  · intro h
    rw [h.payloadPath, h.keyId, h.objectId, h.nodeHost, h.nodePort, h.bootstrapBundlePath]
    exact ⟨rfl, rfl, rfl, rfl, rfl, h.wait, h.waitTimeoutSecs, h.devnetInsecure⟩

@[mk_iff]
structure AggregateConfig.SameCommand (c c' : AggregateConfig) : Prop where
  configFile : c.configFile.toStringLossy = c'.configFile.toStringLossy
  autoSubmit : c.autoSubmit = c'.autoSubmit
  feedData : c.feedData.map PathBuf.toStringLossy = c'.feedData.map PathBuf.toStringLossy

theorem buildAggregateArgs_eq_iff (c c' : AggregateConfig) :
    buildAggregateArgs c = buildAggregateArgs c' ↔ c.SameCommand c' := by
  obtain ⟨file, auto, feed⟩ := c
  obtain ⟨file', auto', feed'⟩ := c'
  rw [AggregateConfig.sameCommand_iff]
  cases auto <;> cases auto' <;> cases feed <;> cases feed' <;> simp [buildAggregateArgs]

theorem txidCliArgs_eq (backend : CardanoCliSettlementBackend) (request : SettlementRequest) :
    backend.txidCliArgs request = some (["transaction", "txid"] ++ backend.networkArgs ++
      ["--tx-file", (joinPath backend.workDir
        (Hex.text request.intentId.toList ++ ".signed")).toStringLossy]) := by
  rw [CardanoCliSettlementBackend.txidCliArgs, CardanoCliSettlementBackend.signedTxPathFor,
    signedTxName_eq]
  rfl

/-- The destination and the amount are in the signed file, not in the vector. -/
theorem txidCliArgs_eq_iff (backend : CardanoCliSettlementBackend)
    (request request' : SettlementRequest) :
    backend.txidCliArgs request = backend.txidCliArgs request' ↔
      request.intentId = request'.intentId := by
  rw [txidCliArgs_eq, txidCliArgs_eq, Option.some_inj]
  constructor
  · intro h
    have hpath := List.append_cancel_left h
    simp only [List.cons.injEq, true_and, and_true] at hpath
    have hname := joinPath_lossy_inj backend.workDir (startsAscii_signedTxName _)
      (startsAscii_signedTxName _) hpath
    exact Vector.toList_inj.mp (text_inj ((String.append_left_inj _).mp hname))
  · intro h
    rw [h]

/-- **Command lines.** The submission of an intent and the aggregation show all that
is configured, with the texts of the paths; the query for a transaction id shows the
intent alone. A text is that of one path among those that are UTF-8, and every other path
has the text of one of them. -/
theorem command_lines_exact :
    (∀ config, ∃ args, buildCliArgs config = some args) ∧
    (∀ c c' : SubmitConfig, buildCliArgs c = buildCliArgs c' ↔ c.SameCommand c') ∧
    (∀ c c' : AggregateConfig,
      buildAggregateArgs c = buildAggregateArgs c' ↔ c.SameCommand c') ∧
    (∀ path path' : PathBuf, path.IsUtf8 → path'.IsUtf8 →
      (path.toStringLossy = path'.toStringLossy ↔ path = path')) ∧
    (∀ path : PathBuf, ¬ path.IsUtf8 → ∃ path' : PathBuf, path' ≠ path ∧ path'.IsUtf8 ∧
      path'.toStringLossy = path.toStringLossy) ∧
    ∀ (backend : CardanoCliSettlementBackend) (request request' : SettlementRequest),
      (∃ args, backend.txidCliArgs request = some args) ∧
      (backend.txidCliArgs request = backend.txidCliArgs request' ↔
        request.intentId = request'.intentId) :=
  ⟨fun config => ⟨_, buildCliArgs_eq config⟩, buildCliArgs_eq_iff, buildAggregateArgs_eq_iff,
    fun _ _ => PathBuf.toStringLossy_inj, fun _ => PathBuf.exists_confused,
    fun backend request request' =>
      ⟨⟨_, txidCliArgs_eq backend request⟩, txidCliArgs_eq_iff backend request request'⟩⟩

end OracleGuard
