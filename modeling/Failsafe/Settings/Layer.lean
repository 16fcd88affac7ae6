import Failsafe.Settings.Conversion
import Failsafe.Settings.Record

/-!
# Layers of settings

Settings come in layers, each a tree of tables and values: files and process variables. `overlay?` lays one over
another, key by key: where both give a value the later one wins, and tables are joined. Keys are the same in any
case. A key at the top of a layer may be a path into the tables and arrays below, such as `retry.max_retries` or
`retry[0]`. A place in an array may be counted from its end; one before its beginning does not exist, and then
the layer cannot be laid over anything.

`Settings.ofTree?` reads the settings out of what all layers give together; what no layer gives takes its
default, except that a pair of thresholds is given whole or not at all.
-/

namespace Failsafe

namespace Layer

/-! ## Laying a value over another -/

mutual

/-- Lays a value over what may be there already: a table is joined to it, any other value replaces it. -/
def join (old : Option Json) : Json → Json
  | .object fields => joinFields (old.getD (.object [])) fields
  | v => v

/-- Lays the fields of a table over a value, which becomes a table if it is none. -/
def joinFields (target : Json) : List (String × Json) → Json
  | [] => target
  | (key, v) :: rest =>
    let table := target.object?.getD []
    let key := Unicode.lowercase key
    joinFields (.object (Fields.set table key (join (Fields.get? table key) v))) rest

end

/-! ## Paths -/

/-- A step from a value to a part of it. A negative place counts from the end, where the last item is at -1. -/
inductive Step where
  | key (name : String)
  | item (place : Int)
deriving DecidableEq

def isNameChar (c : Char) : Bool := c.isAlphanum || c = ' ' || c = '_' || c = '-'

/-- A name, as much of it as there is. -/
def name? (cs : List Char) : Option (Step × List Char) :=
  let name := cs.takeWhile isNameChar
  if name.isEmpty then none else some (.key (String.ofList name), cs.drop name.length)

/-- A place of 64 bits, a minus in front perhaps. -/
def place? : List Char → Option Int
  | '-' :: digits => do
    let n ← wholeNumber? digits
    if n ≤ Nat.pow 2 63 then some (-(n : Int)) else none
  | digits => do
    let n ← wholeNumber? digits
    if n < Nat.pow 2 63 then some n else none

/-- The place of an item and the bracket behind it, with blanks and tabs around the place. -/
def item? (cs : List Char) : Option (Step × List Char) := do
  let isGap (c : Char) : Bool := c = ' ' || c = '\t'
  let cs := cs.dropWhile isGap
  let number := cs.takeWhile fun c => c.isDigit || c = '-'
  let place ← place? number
  match (cs.drop number.length).dropWhile isGap with
  | ']' :: rest => some (.item place, rest)
  | _ => none

/-- The steps after the first: a point and a name, or the place of an item in brackets. -/
def steps? : Nat → List Char → Option (List Step)
  | 0, _ => none
  | fuel + 1, cs =>
    match cs with
    | [] => some []
    | '.' :: rest => do
      let (step, rest) ← name? rest
      (steps? fuel rest).map (step :: ·)
    | '[' :: rest => do
      let (step, rest) ← item? rest
      (steps? fuel rest).map (step :: ·)
    | _ => none

/-- The path that a key writes, in lower case. -/
def path? (key : String) : Option (List Step) := do
  let (first, rest) ← name? (Unicode.lowercase key).toList
  (steps? (rest.length + 1) rest).map (first :: ·)

/-- No array has this many items. -/
def itemLimit : Nat := UInt32.size

/-- The index of a place in an array of some length. A place after the end is one that the array can grow to. -/
def index? (length : Nat) : Int → Option Nat
  | .ofNat n => if n < itemLimit then some n else none
  | .negSucc n => if n < length then some (length - (n + 1)) else none

/-- Puts a value in the place of an item; missing items before it are null. -/
def setItem (items : List Json) (index : Nat) (v : Json) : List Json :=
  (items ++ List.replicate (index + 1 - items.length) Json.null).set index v

/-- Lays a value over the part of another that a path leads to. What is in the way becomes a table or an
array, as the next step needs it. There is no answer when a place on the path does not exist. -/
def assign? (v : Json) : List Step → Json → Option Json
  | [], target => some (join (some target) v)
  | [.key name], target => some (joinFields target [(name, v)])
  | [.item place], target => do
    let items := (target.list? some).getD []
    let index ← index? items.length place
    some (.array (setItem items index v))
  | .key name :: path, target => do
    let table := target.object?.getD []
    let inner ← assign? v path ((Fields.get? table name).getD Json.null)
    some (.object (Fields.set table name inner))
  | .item place :: path, target => do
    let items := (target.list? some).getD []
    let index ← index? items.length place
    let inner ← assign? v path (items.getD index Json.null)
    some (.array (setItem items index inner))

/-! ## Layers -/

/-- Lays a layer over what the layers before it give together. -/
def overlay? (tree : Json) (layer : Fields) : Option Json :=
  layer.foldlM (fun tree (key, v) =>
    match path? key with
    | some path => assign? v path tree
    | none => some (joinFields tree [(key, v)])) tree

/-- The fields of a section: those of a table, or the items of an array in their order. -/
def section? (names : List String) : Json → Option Fields
  | .object fields => some fields
  | .array items => some (names.zip items)
  | _ => none

end Layer

/-! ## Sections -/

open Layer (section?)

def Thresholds.ofTree? (v : Json) : Option Thresholds := do
  let fields ← section? ["warning_percent", "critical_percent"] v
  let warning ← Fields.required? fields "warning_percent" Json.toFloat?
  let critical ← Fields.required? fields "critical_percent" Json.toFloat?
  some { warning, critical }

def RetrySettings.ofTree? (v : Json) : Option RetrySettings := do
  let fields ← section? fieldNames v
  let maxRetries ← fields.defaulted? "max_retries" Json.toUInt32? default.maxRetries
  let baseDelaySeconds ← fields.defaulted? "base_delay_seconds" Json.toFloat? default.baseDelaySeconds
  let maxDelaySeconds ← fields.defaulted? "max_delay_seconds" Json.toFloat? default.maxDelaySeconds
  let backoffMultiplier ← fields.defaulted? "backoff_multiplier" Json.toFloat? default.backoffMultiplier
  some { maxRetries, baseDelaySeconds, maxDelaySeconds, backoffMultiplier }

def BreakerSettings.ofTree? (v : Json) : Option BreakerSettings := do
  let fields ← section? fieldNames v
  let failureThreshold ← fields.defaulted? "failure_threshold" Json.toUInt32? default.failureThreshold
  let cooldownSeconds ← fields.defaulted? "cooldown_seconds" Json.toUInt64? default.cooldownSeconds
  some { failureThreshold, cooldownSeconds }

def ResourceSettings.ofTree? (v : Json) : Option ResourceSettings := do
  let fields ← section? fieldNames v
  let pollIntervalSeconds ←
    fields.defaulted? "poll_interval_seconds" Json.toUInt64? default.pollIntervalSeconds
  let cpu ← fields.defaulted? "cpu" Thresholds.ofTree? default.cpu
  let memory ← fields.defaulted? "memory" Thresholds.ofTree? default.memory
  let disk ← fields.defaulted? "disk" Thresholds.ofTree? default.disk
  let network ← fields.defaulted? "network" Thresholds.ofTree? default.network
  some { pollIntervalSeconds, cpu, memory, disk, network }

def SecuritySettings.ofTree? (v : Json) : Option SecuritySettings := do
  let fields ← section? fieldNames v
  let secureFailureMode ← fields.defaulted? "secure_failure_mode" Json.toFlag? default.secureFailureMode
  some { secureFailureMode }

def ValidationSettings.ofTree? (v : Json) : Option ValidationSettings := do
  let fields ← section? fieldNames v
  let checkIntervalSeconds ←
    fields.defaulted? "check_interval_seconds" Json.toUInt64? default.checkIntervalSeconds
  some { checkIntervalSeconds }

/-- The settings in what all layers give together. -/
def Settings.ofTree? (tree : Json) : Option Settings := do
  let fields ← section? fieldNames tree
  let retry ← fields.defaulted? "retry" RetrySettings.ofTree? .default
  let breaker ← fields.defaulted? "circuit_breaker" BreakerSettings.ofTree? .default
  let resources ← fields.defaulted? "resources" ResourceSettings.ofTree? .default
  let security ← fields.defaulted? "security" SecuritySettings.ofTree? .default
  let validation ← fields.defaulted? "validation" ValidationSettings.ofTree? .default
  some { retry, breaker, resources, security, validation }

end Failsafe
