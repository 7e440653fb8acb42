import OracleGuard.Adapter.Artifacts
import OracleGuard.Canonical
import OracleGuard.Policy.Law
import OracleGuard.Policy.NonInterference
import OracleGuard.Verifier.Soundness
import OracleGuard.Boundary
import OracleGuard.Pipeline
import OracleGuard.Verifier.Law
import OracleGuard.Policy.Denial
import OracleGuard.Adapter.Intake
import OracleGuard.Ziranity.Handler
import OracleGuard.Ziranity.Config
import OracleGuard.Adapter.Charli3
import OracleGuard.Adapter.Framing
import OracleGuard.Adapter.Normalize
import OracleGuard.Json.Decimal
import OracleGuard.Json.Parser
import OracleGuard.Json.Rearrange
import OracleGuard.Json.StringLiteral
import OracleGuard.Schemas.Policy
import OracleGuard.Schemas.PolicyTokens
import OracleGuard.Policy.Monotone
import OracleGuard.Adapter.AggState
import OracleGuard.Adapter.Closure
import OracleGuard.Adapter.DenialGate
import OracleGuard.Adapter.Disburse
import OracleGuard.Ziranity.Loader
import OracleGuard.Policy.Cap
import OracleGuard.Adapter.HexCodecs
import OracleGuard.Ziranity.Agreement
import OracleGuard.Deployment.Schedule
import OracleGuard.Deployment.Audit
import OracleGuard.Verifier.Findings
import OracleGuard.Verifier.Tamper
import OracleGuard.Deployment.Ledger
import OracleGuard.Live.Tools
