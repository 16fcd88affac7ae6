import Failsafe.Json.Text
import Failsafe.Settings.Load
import Failsafe.Validator.Arguments

/-!
# The validator

Checks the settings of an environment before a service starts: `all` loads and checks them and prints a summary,
`show` prints them as a document, and `environments` lists the environments that have a file of their own.
-/

namespace Failsafe.Validator

/-- What a directory holds. -/
inductive Listing where
  | missing
  /-- There is something of that name, but it cannot be listed. -/
  | unreadable
  | names (names : List String)

/-- What a run can see. -/
structure Surroundings where
  vars : Variables
  files : Files
  listing : String → Listing

/-- How a run ends. -/
inductive Ending where
  | passed
  | failed
  /-- The settings could not be loaded. -/
  | notLoaded (error : SettingsError)
  /-- Loading broke off, or a delay in the settings is too long to be a duration. -/
  | brokenOff

def Ending.code : Ending → UInt32
  | .passed => 0
  | .failed | .notLoaded _ => 1
  | .brokenOff => 101

/-- What a run prints and how it ends. -/
structure Outcome where
  lines : List String
  ending : Ending

/-- The last line of a run whose settings could not be loaded. -/
def notLoadedLine (reason : String) : String := "❌ Failed to load configuration: " ++ reason

/-- Everything that is printed. -/
def Outcome.printed (o : Outcome) : List String :=
  match o.ending with
  | .notLoaded error => o.lines ++ [notLoadedLine error.message]
  | _ => o.lines

def Request.load (r : Request) (w : Surroundings) : Loading Configuration :=
  Configuration.load w.files w.vars r.directory r.environment (!r.filesOnly)

/-! ## The summary -/

/-- A line that shows a duration, if it is one. -/
def delayLine (label : String) (d : Option Duration) : Option String :=
  d.map fun d => label ++ d.text

def thresholdsLine (kind : ResourceKind) (t : Thresholds) : String :=
  "   " ++ kind.name ++ ": warning " ++ Decimal.plain.write t.warning ++ "% / critical "
    ++ Decimal.plain.write t.critical ++ "%"

/-- The lines of the summary; the first that cannot be printed ends it. -/
def summary (s : Settings) : List (Option String) :=
  [some "📋 Retry:",
   some ("   max_retries: " ++ toString s.retry.maxRetries.toNat),
   delayLine "   base_delay: " s.retry.baseDelay?,
   delayLine "   max_delay: " s.retry.maxDelay?,
   some ("   backoff_multiplier: " ++ Decimal.plain.write s.retry.backoffMultiplier),
   some "📋 Circuit breaker:",
   some ("   failure_threshold: " ++ toString s.breaker.failureThreshold.toNat),
   some ("   cooldown: " ++ s.breaker.cooldown.text),
   some ("📋 Resources (poll every " ++ s.resources.pollInterval.text ++ "):")]
  ++ ResourceKind.all.map (fun kind => some (thresholdsLine kind (s.resources.thresholds kind)))
  ++ [some "📋 Security:",
      some ("   secure_failure_mode: " ++ toString s.security.secureFailureMode)]
  ++ (if s.security.secureFailureMode then []
      else [some "   ⚠️  error messages will be logged without redaction"])
  ++ [some "📋 State validation:",
      some ("   check_interval: " ++ s.validation.checkInterval.text)]

/-! ## The tasks -/

def validateAll (w : Surroundings) (r : Request) : Outcome :=
  let opening := ["🔧 Validating Resilience Configuration", "Environment: " ++ r.environment]
  match (r.load w).run with
  | none => ⟨opening, .brokenOff⟩
  | some (.error e) => ⟨opening, .notLoaded e⟩
  | some (.ok c) =>
    let opening := opening ++
      ["Config Directory: " ++ c.directory, "✅ Configuration loaded and validated", ""]
    let lines := summary c.settings
    match lines.mapM id with
    | some lines => ⟨opening ++ lines ++ ["", "🎉 All configuration validation checks passed!"], .passed⟩
    | none => ⟨opening ++ (lines.takeWhile Option.isSome).filterMap id, .brokenOff⟩

def showSettings (w : Surroundings) (r : Request) : Outcome :=
  match (r.load w).run with
  | none => ⟨[], .brokenOff⟩
  | some (.error e) => ⟨[], .notLoaded e⟩
  | some (.ok c) => ⟨c.shown.pretty, .passed⟩

/-- The environment whose file has a name, if it is the file of one. -/
def environmentOf? (file : String) : Option String :=
  let front := "resilience.".toList
  let back := ".toml".toList
  let rest := file.toList.drop front.length
  if front.isPrefixOf file.toList && back.isSuffixOf rest then
    some (String.ofList (rest.take (rest.length - back.length)))
  else none

def listEnvironments (w : Surroundings) (r : Request) : Outcome :=
  let directory := r.directory.getD "config"
  let opening := ["📋 Available Environments in " ++ directory ++ ":"]
  match w.listing directory with
  | .missing => ⟨opening ++ ["❌ Configuration directory not found"], .failed⟩
  | .unreadable => ⟨opening, .failed⟩
  | .names names =>
    let environments := (names.filterMap environmentOf?).mergeSort
    let none := if environments.isEmpty then ["   (no environment overlays, base file only)"] else []
    ⟨opening ++ none ++ environments.map ("   • " ++ ·), .passed⟩

/-- Carries out a request. -/
def Request.perform (r : Request) (w : Surroundings) : Outcome :=
  match r.task with
  | .all => validateAll w r
  | .show => showSettings w r
  | .environments => listEnvironments w r

/-- The line that tells the version. -/
def versionLine : String := "config-validator 0.1.0"

/-- How to use the validator. -/
def helpLines : List String :=
  ["Validate resilience configuration files",
   "",
   "Usage: config-validator [OPTIONS] [COMMAND]",
   "",
   "Commands:",
   "  all           Validate every section and print a summary",
   "  show          Print the effective configuration as sanitized JSON",
   "  environments  List environment overlay files in the configuration directory",
   "  help          Print this message or the help of the given subcommand(s)",
   "",
   "Options:",
   "  -e, --environment <ENVIRONMENT>  Environment to validate (development, test, production, ...) [default: development]",
   "  -c, --config-dir <CONFIG_DIR>    Configuration directory path (default: config)",
   "      --files-only                 Ignore RESILIENCE__* environment overrides",
   "  -v, --verbose...                 Verbose output level (use multiple times for more verbosity)",
   "  -h, --help                       Print help",
   "  -V, --version                    Print version"]

/-- The exit code of a run whose arguments are not understood. -/
def refusedCode : UInt32 := 2

end Failsafe.Validator
