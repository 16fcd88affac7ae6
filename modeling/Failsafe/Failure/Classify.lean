import Failsafe.Failure
import Failsafe.Failure.Category
import Failsafe.Unicode.Lowercase

/-!
# Classification

`classify kind message` gives every failure one category and one severity. Connection failures and timeouts
are known by their kind. Any other failure falls under the first rule of `rules` whose keywords its text
holds, read in lower case, and under none by its kind alone: `fallback`. Only a category of last resort can
be critical, and a word such as "fatal" in the text makes it so.
-/

namespace Failsafe

/-- Whether a word stands somewhere in a text. -/
def occursIn (word : List Char) : List Char → Bool
  | [] => word.isEmpty
  | c :: rest => word.isPrefixOf (c :: rest) || occursIn word rest

/-- Whether a text holds a word. -/
def holds (text : List Char) (word : String) : Bool := occursIn word.toList text

/-- A rule on texts: every group must be present, a group by any one of its words. -/
structure KeywordRule where
  groups : List (List String)
  category : Category
  severity : Severity

namespace KeywordRule

/-- Whether a lower-case text falls under the rule. -/
def applies (rule : KeywordRule) (text : List Char) : Bool :=
  rule.groups.all fun words => words.any (holds text)

/-- The rules in the order they are tried. -/
def all : List KeywordRule :=
  [⟨[["rate limit", "too many requests", "429"]], .rpcRateLimit, .high⟩,
   ⟨[["insufficient"], ["balance"]], .insufficientBalance, .high⟩,
   ⟨[["liquidity"]], .poolLiquidity, .medium⟩,
   ⟨[["slippage"]], .slippageExceeded, .medium⟩,
   ⟨[["network", "congestion"]], .networkCongestion, .high⟩]

end KeywordRule

/-- Words that make a failure of last resort critical. -/
def criticalMarkers : List String := ["fatal", "critical", "corrupt", "panic"]

/-- The category of a failure whose text falls under no rule. -/
def FailureKind.fallback : FailureKind → Category
  | .sdk => .externalSdk
  | .transaction => .transactionFailed
  | .connection | .timeout | .other => .unknown

/-- The severity of a category of last resort. -/
def fallbackSeverity (category : Category) (text : List Char) : Severity :=
  if criticalMarkers.any (holds text) then .critical
  else if category = .transactionFailed then .high
  else .medium

/-- Category and severity of a failure whose kind does not settle it, from its text in lower case. -/
def classifyText (kind : FailureKind) (text : List Char) : Category × Severity :=
  match KeywordRule.all.find? (·.applies text) with
  | some rule => (rule.category, rule.severity)
  | none => (kind.fallback, fallbackSeverity kind.fallback text)

/-- Category and severity of a failure. -/
def classify (kind : FailureKind) (message : String) : Category × Severity :=
  match kind with
  | .connection => (.rpcConnection, .medium)
  | .timeout => (.rpcTimeout, .medium)
  | .sdk | .transaction | .other => classifyText kind (Unicode.lowerFrom [] message.toList)

end Failsafe
