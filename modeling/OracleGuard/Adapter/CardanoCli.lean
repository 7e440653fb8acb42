import OracleGuard.Adapter.Closure
import OracleGuard.Adapter.Command
import OracleGuard.Trim

/-!
The settlement backends that start a program and read the transaction id that it
prints, and the one of them that asks `cardano-cli`.

* `parseCliTxidStdout_iff`: the outputs that are read as an id are the UTF-8 of its
  text, with white space around it.
* `cli_settled_iff`: what `cardano-cli` settles, and that it never sees the payment.
-/

namespace OracleGuard

open Fallible Wire

/-- The property `White_Space`. -/
def isWhitespace (c : Char) : Bool :=
  (0x09 ≤ c.toNat ∧ c.toNat ≤ 0x0D) ∨ c.toNat = 0x20 ∨ c.toNat = 0x85 ∨ c.toNat = 0xA0 ∨
    c.toNat = 0x1680 ∨ (0x2000 ≤ c.toNat ∧ c.toNat ≤ 0x200A) ∨ c.toNat = 0x2028 ∨
    c.toNat = 0x2029 ∨ c.toNat = 0x202F ∨ c.toNat = 0x205F ∨ c.toNat = 0x3000

inductive SettlementSubmitError where
  | spawn (err : String)
  | nonZeroExit (exitCode : Option Int) (stdout stderr : Bytes)
  | parseTxHash (err : TxHashParseError)
  deriving DecidableEq, Repr

def SettlementSubmitError.ofProcess : ProcessError → SettlementSubmitError
  | .spawn err => .spawn err
  | .nonZeroExit exitCode stdout stderr => .nonZeroExit exitCode stdout stderr

def parseCliTxidStdout (stdout : Bytes) : Except SettlementSubmitError CardanoTxHashV1 :=
  match ofUtf8 stdout with
  | none => .error (.parseTxHash .invalidChar)
  | some text =>
    let trimmed := String.ofList (Trim.trim isWhitespace text.toList)
    match CardanoTxHashV1.fromHex trimmed with
    | .error err => .error (.parseTxHash err)
    | .ok hash => .ok hash

section Backend

variable {World : Type} (command : Command World)

/-- The bodies of both backends. -/
def spawnTxid (bin : PathBuf) (args : List String) :
    StateM World (Except SettlementSubmitError CardanoTxHashV1) := do
  match (← capture command bin args).mapError SettlementSubmitError.ofProcess with
  | .error err => return .error err
  | .ok stdout => return parseCliTxidStdout stdout

/-- The digits of the file's name are always found. -/
def CardanoCliSettlementBackend.args (backend : CardanoCliSettlementBackend)
    (request : SettlementRequest) : List String :=
  (backend.txidCliArgs request).get (by rw [txidCliArgs_eq]; rfl)

def CardanoCliSettlementBackend.settlement (backend : CardanoCliSettlementBackend) :
    SettlementBackend World SettlementSubmitError where
  submit request := spawnTxid command backend.cardanoCliBin (backend.args request)

end Backend

/-! ## What is read -/

theorem isWhitespace_digit : ∀ n < 16, isWhitespace (Hex.digit n) = false := by decide

theorem isWhitespace_of_mem_chars {bs : Bytes} : ∀ c ∈ Hex.chars bs, isWhitespace c = false := by
  intro c hc
  obtain ⟨n, hn, rfl⟩ := (Hex.isDigit_of_mem_chars hc).exists_digit
  exact isWhitespace_digit n hn

theorem parseCliTxidStdout_eq_ok {stdout : Bytes} {hash : CardanoTxHashV1} :
    parseCliTxidStdout stdout = .ok hash ↔ ∃ text, ofUtf8 stdout = some text ∧
      Trim.trim isWhitespace text.toList = Hex.chars hash.bytes.toList := by
  unfold parseCliTxidStdout
  cases ofUtf8 stdout with
  | none => simp
  | some text =>
    have htrim : String.ofList (Trim.trim isWhitespace text.toList) =
        Hex.text hash.bytes.toList ↔
        Trim.trim isWhitespace text.toList = Hex.chars hash.bytes.toList := by
      rw [← String.toList_inj, String.toList_ofList, Hex.toList_text]
    simp only [Option.some.injEq, exists_eq_left', ← htrim, ← fromHex_eq_ok]
    cases CardanoTxHashV1.fromHex (String.ofList (Trim.trim isWhitespace text.toList)) <;> simp

/-- An id that is printed, with white space around it. -/
def PrintsTxid (stdout : Bytes) (hash : CardanoTxHashV1) : Prop :=
  ∃ before after : List Char, (∀ c ∈ before, isWhitespace c = true) ∧
    (∀ c ∈ after, isWhitespace c = true) ∧
    stdout = utf8
      (String.ofList before ++ Hex.text hash.bytes.toList ++ String.ofList after)

theorem parseCliTxidStdout_iff (stdout : Bytes) (hash : CardanoTxHashV1) :
    parseCliTxidStdout stdout = .ok hash ↔ PrintsTxid stdout hash := by
  have hne : Hex.chars hash.bytes.toList ≠ [] := by
    apply List.ne_nil_of_length_pos
    rw [Hex.length_chars, Vector.length_toList]
    decide
  simp only [PrintsTxid, parseCliTxidStdout_eq_ok, ofUtf8_eq_some,
    Trim.trim_eq_iff hne isWhitespace_of_mem_chars]
  constructor
  · rintro ⟨text, rfl, before, after, hbefore, hafter, htext⟩
    refine ⟨before, after, hbefore, hafter, congrArg utf8 (String.toList_inj.mp ?_)⟩
    simpa using htext
  · rintro ⟨before, after, hbefore, hafter, rfl⟩
    exact ⟨_, rfl, before, after, hbefore, hafter, by simp⟩

/-! ## What is settled -/

section Settled

variable {World : Type} {command : Command World} {bin : PathBuf} {args : List String}
  {w w' : World}

theorem spawnTxid_spawn {err : String} (hrun : (command bin args).run w = (.error err, w')) :
    (spawnTxid command bin args).run w = (.error (.spawn err), w') := by
  simp only [spawnTxid, StateT.run_bind, capture_spawn command hrun]
  rfl

theorem spawnTxid_output {output : Output}
    (hrun : (command bin args).run w = (.ok output, w')) :
    (spawnTxid command bin args).run w =
      (if output.exitCode = some 0 then parseCliTxidStdout output.stdout
        else .error (.nonZeroExit output.exitCode output.stdout output.stderr), w') := by
  simp only [spawnTxid, StateT.run_bind, capture_output command hrun]
  by_cases hexit : output.exitCode = some 0 <;> simp [hexit] <;> rfl

theorem spawnTxid_eq_ok {hash : CardanoTxHashV1} :
    (spawnTxid command bin args).run w = (.ok hash, w') ↔ ∃ stdout stderr,
      (command bin args).run w = (.ok ⟨some 0, stdout, stderr⟩, w') ∧
        PrintsTxid stdout hash := by
  have hparsed : (spawnTxid command bin args).run w = (.ok hash, w') ↔ ∃ stdout,
      (capture command bin args).run w = (.ok stdout, w') ∧
        parseCliTxidStdout stdout = .ok hash := by
    unfold spawnTxid
    simp only [StateT.run_bind]
    cases (capture command bin args).run w with
    | mk result w₁ =>
      cases result with
      | error err =>
        constructor
        · intro h
          cases h
        · rintro ⟨stdout, hrun, -⟩
          cases hrun
      | ok stdout =>
        show (parseCliTxidStdout stdout, w₁) = (.ok hash, w') ↔ _
        constructor
        · intro h
          obtain ⟨hparse, rfl⟩ := Prod.mk.inj h
          exact ⟨stdout, rfl, hparse⟩
        · rintro ⟨stdout, hrun, hparse⟩
          cases hrun
          rw [hparse]
  simp only [hparsed, capture_eq_ok, parseCliTxidStdout_iff]
  constructor
  · rintro ⟨stdout, ⟨stderr, hrun⟩, hprints⟩
    exact ⟨stdout, stderr, hrun, hprints⟩
  · rintro ⟨stdout, stderr, hrun, hprints⟩
    exact ⟨stdout, ⟨stderr, hrun⟩, hprints⟩

theorem CardanoCliSettlementBackend.submit_eq (backend : CardanoCliSettlementBackend)
    (request : SettlementRequest) : (backend.settlement command).submit request =
      spawnTxid command backend.cardanoCliBin
        (["transaction", "txid"] ++ backend.networkArgs ++ ["--tx-file",
          (joinPath backend.workDir
            (Hex.text request.intentId.toList ++ ".signed")).toStringLossy]) := by
  simp only [settlement, args, txidCliArgs_eq, Option.get_some]

/-- **What `cardano-cli` settles.** It is asked for the id of the file that is named after
the intent, so nothing of the payment is compared with what the file holds. -/
theorem cli_settled_iff (command : Command World) (backend : CardanoCliSettlementBackend)
    (receipt : IntentReceiptV1) (w w' : World) (hash : CardanoTxHashV1) :
    (fulfill receipt (backend.settlement command)).run w = (.ok (.settled hash), w') ↔
      (∃ request, requestOwed receipt = some request) ∧
      ∃ stdout stderr, (command backend.cardanoCliBin
          (["transaction", "txid"] ++ backend.networkArgs ++ ["--tx-file",
            (joinPath backend.workDir
              (Hex.text receipt.intentId.toList ++ ".signed")).toStringLossy])).run w =
          (.ok ⟨some 0, stdout, stderr⟩, w') ∧ PrintsTxid stdout hash := by
  rw [fulfill_eq_ok, ← spawnTxid_eq_ok]
  have howed : (∃ request, requestOwed receipt = some request) ↔
      ∃ effect, receipt.status = .committed ∧ receipt.output = .authorized effect ∧
        effect.asset = .ADA := by
    unfold requestOwed
    cases receipt.status <;> cases receipt.output <;> simp
  rw [howed]
  constructor
  · intro h
    cases h with
    | settled hstatus houtput hasset hsubmit =>
      rw [backend.submit_eq] at hsubmit
      exact ⟨⟨_, hstatus, houtput, hasset⟩, hsubmit⟩
  · rintro ⟨⟨effect, hstatus, houtput, hasset⟩, hspawn⟩
    refine .settled hstatus houtput hasset ?_
    rw [backend.submit_eq]
    exact hspawn

end Settled

end OracleGuard
