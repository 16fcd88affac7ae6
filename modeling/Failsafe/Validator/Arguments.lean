/-!
# Arguments of the validator

Options come before the task, and each option is given once; `-v` alone may be repeated. An option's value is the
next argument, unless it is attached to the option, and does not begin with a hyphen. Short options may share
one hyphen.
-/

namespace Failsafe.Validator

/-- What the validator can be asked to do. -/
inductive Task where
  | all
  | show
  | environments
deriving DecidableEq, Repr

/-- A complete request. -/
structure Request where
  environment : String
  /-- Where the settings are, if not in the usual place. -/
  directory : Option String
  /-- Whether process variables are left out. -/
  filesOnly : Bool
  verbosity : Nat
  task : Task
deriving DecidableEq, Repr

/-- What arguments ask for. -/
inductive Invocation where
  | run (request : Request)
  | version
  | help
  /-- The arguments are not understood. -/
  | refused
deriving DecidableEq, Repr

/-- Options that take a value. -/
inductive Setting where
  | environment
  | directory

/-- The options seen so far. -/
structure Options where
  environment : Option String
  directory : Option String
  filesOnly : Bool
  verbosity : Nat

namespace Options

def none : Options := ⟨.none, .none, false, 0⟩

/-- Sets an option that has no value yet; a directory has to have a name. -/
def set? (o : Options) : Setting → String → Option Options
  | .environment, value =>
    if o.environment.isSome then .none else some { o with environment := value }
  | .directory, value =>
    if o.directory.isSome || value.isEmpty then .none else some { o with directory := value }

def request (o : Options) (task : Task) : Request :=
  { environment := o.environment.getD "development"
    directory := o.directory
    filesOnly := o.filesOnly
    verbosity := o.verbosity
    task }

end Options

/-- What one argument does. -/
inductive Step where
  | next (options : Options)
  /-- The next argument is the value of an option. -/
  | wants (setting : Setting) (options : Options)
  | stop (invocation : Invocation)

/-- The step of an option that has a value attached, or wants one. -/
def Step.ofSetting (o : Options) (setting : Setting) : Option String → Step
  | none => .wants setting o
  | some value =>
    match o.set? setting value with
    | some o => .next o
    | none => .stop .refused

/-- An option with a long name, and the value attached to it. -/
def longOption (o : Options) (name : String) (value : Option String) : Step :=
  match name, value with
  | "environment", value => .ofSetting o .environment value
  | "config-dir", value => .ofSetting o .directory value
  | "files-only", none => if o.filesOnly then .stop .refused else .next { o with filesOnly := true }
  | "verbose", none => .next { o with verbosity := o.verbosity + 1 }
  | "version", none => .stop .version
  | "help", none => .stop .help
  | _, _ => .stop .refused

/-- A value attached to a short option, perhaps after an equals sign. -/
def attached : List Char → Option String
  | [] => none
  | '=' :: value => some (String.ofList value)
  | value => some (String.ofList value)

/-- Short options behind one hyphen. -/
def shortOptions (o : Options) : List Char → Step
  | [] => .next o
  | 'v' :: more => shortOptions { o with verbosity := o.verbosity + 1 } more
  | 'e' :: more => .ofSetting o .environment (attached more)
  | 'c' :: more => .ofSetting o .directory (attached more)
  | 'V' :: _ => .stop .version
  | 'h' :: _ => .stop .help
  | _ => .stop .refused

/-- Whether an argument is an option and no value. -/
def isOption (arg : String) : Bool := arg.startsWith "-" && arg ≠ "-"

/-- What follows a task: at most a question for help. -/
def afterTask (invocation : Invocation) : List String → Invocation
  | [] | ["--"] => invocation
  | arg :: _ => if arg = "--help" || arg.startsWith "-h" then .help else .refused

def Task.ofName? : String → Option Task
  | "all" => some .all
  | "show" => some .show
  | "environments" => some .environments
  | _ => none

/-- The task and what follows it. -/
def taskArgument (o : Options) (arg : String) (rest : List String) : Invocation :=
  match Task.ofName? arg with
  | some task => afterTask (.run (o.request task)) rest
  | none =>
    match rest with
    | [] => if arg = "help" then .help else .refused
    | [topic] =>
      if arg = "help" && (topic = "help" || (Task.ofName? topic).isSome) then .help else .refused
    | _ => .refused

/-- An option. -/
def optionArgument (o : Options) (arg : String) : Step :=
  match arg.toList with
  | '-' :: '-' :: cs =>
    let name := cs.takeWhile (· ≠ '=')
    let value := match cs.drop name.length with
      | [] => none
      | _ :: value => some (String.ofList value)
    longOption o (String.ofList name) value
  | cs => shortOptions o (cs.drop 1)

/-- Reads arguments after some options. -/
def readArguments (o : Options) : List String → Invocation
  | [] => .run (o.request .all)
  | "--" :: rest => if rest.isEmpty then .run (o.request .all) else .refused
  | arg :: rest =>
    if isOption arg then
      match optionArgument o arg, rest with
      | .next o, rest => readArguments o rest
      | .stop invocation, _ => invocation
      | .wants setting o, value :: rest =>
        if isOption value then .refused
        else match o.set? setting value with
          | some o => readArguments o rest
          | none => .refused
      | .wants _ _, [] => .refused
    else taskArgument o arg rest

/-- What a list of arguments asks for. -/
def Invocation.ofArguments (args : List String) : Invocation := readArguments .none args

end Failsafe.Validator
