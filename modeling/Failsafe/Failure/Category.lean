import Failsafe.Named

/-!
# Categories and severities

The closed list of what a failure can be (`Category`) and how serious it is (`Severity`, in ascending
order), with the names they are written by.
-/

namespace Failsafe

/-- What a failure is. -/
inductive Category where
  | rpcConnection
  | rpcTimeout
  | rpcRateLimit
  | transactionFailed
  | insufficientBalance
  | networkCongestion
  | externalSdk
  | poolLiquidity
  | slippageExceeded
  | unknown
deriving DecidableEq, Repr

namespace Category

def all : List Category :=
  [rpcConnection, rpcTimeout, rpcRateLimit, transactionFailed, insufficientBalance, networkCongestion,
   externalSdk, poolLiquidity, slippageExceeded, unknown]

def name : Category → String
  | rpcConnection => "RPC_CONNECTION"
  | rpcTimeout => "RPC_TIMEOUT"
  | rpcRateLimit => "RPC_RATE_LIMIT"
  | transactionFailed => "TRANSACTION_FAILED"
  | insufficientBalance => "INSUFFICIENT_BALANCE"
  | networkCongestion => "NETWORK_CONGESTION"
  | externalSdk => "EXTERNAL_SDK"
  | poolLiquidity => "POOL_LIQUIDITY"
  | slippageExceeded => "SLIPPAGE_EXCEEDED"
  | unknown => "UNKNOWN"

/-- The place of a category in `all`. -/
def index (c : Category) : Nat := all.idxOf c

end Category

instance : Named Category := ⟨Category.all, Category.name, fun a => by cases a <;> rfl⟩

/-- How serious a failure is. -/
inductive Severity where
  | low
  | medium
  | high
  | critical
deriving DecidableEq, Repr

namespace Severity

def all : List Severity := [low, medium, high, critical]

def name : Severity → String
  | low => "LOW"
  | medium => "MEDIUM"
  | high => "HIGH"
  | critical => "CRITICAL"

/-- Severities from low to critical. -/
def rank (s : Severity) : Nat := all.idxOf s

end Severity

instance : Named Severity := ⟨Severity.all, Severity.name, fun a => by cases a <;> rfl⟩

end Failsafe
