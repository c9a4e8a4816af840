import ModelServing.Config
import ModelServing.Table
import ModelServing.Text.Blank
import ModelServing.Text.Digits

/-!
# Options

The command line of the operator, with environment variables behind some of the options.

* `Options.parse` reads words and variables, `UsageError` says what is wrong with them, or that only help or the version
  was asked for;
* `Options.config` is the configuration of the controller, `ConfigError` what can be wrong with it.

An option takes the next word as its value, or what follows an equals sign. Its value is looked at when the next option
is met, or at the end: a word that is not known is therefore refused before a bad value in front of it.
-/

namespace ModelServing

/-- What the program is asked to do; to run the controller is also what it does unasked. -/
inductive Command where
  | controller
deriving DecidableEq

/-- What the command line says. -/
structure Options where
  crd : Bool := false
  ingressDomain : String := "example.com"
  urlScheme : String := "http"
  clusterDomain : String := "cluster.local"
  watchNamespace : Option String := none
  errorRequeueBaseSecs : UInt64 := 5
  errorRequeueMaxSecs : UInt64 := 300
  logText : Bool := false
  command : Option Command := none
deriving DecidableEq

/-- Why the command line does not lead to a run. -/
inductive UsageError where
  | invalidValue
  | valueValidation
  | unknownArgument
  | invalidSubcommand
  | argumentConflict
  | tooManyValues
  | displayHelp
  | displayVersion
deriving DecidableEq

/-- Why there is no configuration. -/
inductive ConfigError where
  /-- The domain is blank. -/
  | blankDomain
  /-- The first delay is zero, or longer than the longest one. -/
  | requeueBounds (max : UInt64)
deriving DecidableEq

/-- The text of a configuration error. -/
def ConfigError.message : ConfigError → String
  | blankDomain => "--ingress-domain must not be empty"
  | requeueBounds max =>
    "--error-requeue-base-secs must be between 1 and --error-requeue-max-secs (" ++ toString max.toNat ++ ")"

namespace Options

/-- The configuration that the options ask for. -/
def config (o : Options) : Except ConfigError Config :=
  if Text.isBlank o.ingressDomain then .error .blankDomain
  else if o.errorRequeueBaseSecs = 0 ∨ o.errorRequeueMaxSecs < o.errorRequeueBaseSecs then
    .error (.requeueBounds o.errorRequeueMaxSecs)
  else .ok {
    ingress := ⟨o.ingressDomain, o.urlScheme⟩
    clusterDomain := o.clusterDomain
    requeueBase := Duration.ofSecs o.errorRequeueBaseSecs
    requeueMax := Duration.ofSecs o.errorRequeueMaxSecs }

/-! ### single options -/

/-- The options. -/
inductive Name where
  | crd
  | ingressDomain
  | urlScheme
  | clusterDomain
  | watchNamespace
  | errorRequeueBaseSecs
  | errorRequeueMaxSecs
  | logText
deriving DecidableEq

namespace Name

/-- Every option. -/
def all : List Name :=
  [crd, ingressDomain, urlScheme, clusterDomain, watchNamespace, errorRequeueBaseSecs, errorRequeueMaxSecs, logText]

/-- The option as a word, without dashes. -/
def long : Name → String
  | crd => "crd"
  | ingressDomain => "ingress-domain"
  | urlScheme => "url-scheme"
  | clusterDomain => "cluster-domain"
  | watchNamespace => "watch-namespace"
  | errorRequeueBaseSecs => "error-requeue-base-secs"
  | errorRequeueMaxSecs => "error-requeue-max-secs"
  | logText => "log-text"

/-- The variable behind an option. -/
def envVar? : Name → Option String
  | ingressDomain => some "INGRESS_DOMAIN"
  | urlScheme => some "INGRESS_URL_SCHEME"
  | clusterDomain => some "CLUSTER_DOMAIN"
  | watchNamespace => some "WATCH_NAMESPACE"
  | logText => some "LOG_TEXT"
  | _ => none

/-- Whether the option stands alone. -/
def isFlag : Name → Bool
  | crd => true
  | logText => true
  | _ => false

end Name

/-- A yes or no. -/
def bool? (s : String) : Except UsageError Bool :=
  if s = "true" then .ok true else if s = "false" then .ok false else .error .invalidValue

/-- A number of seconds. -/
def secs? (s : String) : Except UsageError UInt64 :=
  match Text.word? s with
  | some n => .ok (UInt64.ofNat n)
  | none => .error .valueValidation

/-- The options with one of them set. -/
def set (o : Options) (name : Name) (value : String) : Except UsageError Options :=
  match name with
  | .crd => do return { o with crd := ← bool? value }
  | .ingressDomain => .ok { o with ingressDomain := value }
  | .urlScheme =>
    if value = "http" ∨ value = "https" then .ok { o with urlScheme := value } else .error .invalidValue
  | .clusterDomain => .ok { o with clusterDomain := value }
  | .watchNamespace => .ok { o with watchNamespace := some value }
  | .errorRequeueBaseSecs => do return { o with errorRequeueBaseSecs := ← secs? value }
  | .errorRequeueMaxSecs => do return { o with errorRequeueMaxSecs := ← secs? value }
  | .logText => do return { o with logText := ← bool? value }

/-! ### words -/

/-- A word of the command line by its dashes. -/
inductive Word where
  /-- Two dashes alone. -/
  | escape
  /-- Two dashes, a name, and what follows an equals sign. -/
  | long (name : String) (value : Option String)
  /-- One dash and letters. -/
  | short (letters : List Char)
  /-- Anything else. -/
  | plain (word : String)

/-- A word taken apart. -/
def Word.of (s : String) : Word :=
  match s.toList with
  | ['-', '-'] => .escape
  | '-' :: '-' :: r =>
    let name := String.ofList (r.takeWhile (· ≠ '='))
    match r.dropWhile (· ≠ '=') with
    | _ :: value => .long name (some (String.ofList value))
    | [] => .long name none
  | '-' :: c :: r => .short (c :: r)
  | _ => .plain s

/-- The options read so far, those that were given, and one whose value is still to be looked at. -/
structure Progress where
  options : Options := {}
  given : List Name := []
  pending : Option (Name × Option String) := none

namespace Progress

/-- An option given with a value. -/
def accept (p : Progress) (name : Name) (value : String) : Except UsageError Progress :=
  if name ∈ p.given then .error .argumentConflict
  else do
    let options ← p.options.set name value
    return { p with options := options, given := name :: p.given }

/-- The value of the pending option looked at. -/
def settle (p : Progress) : Except UsageError Progress :=
  match p.pending with
  | none => .ok p
  | some (_, none) => .error .invalidValue
  | some (name, some value) => { p with pending := none }.accept name value

/-- Ends with help or version, after the value of the pending option was looked at. -/
def display (p : Progress) (e : UsageError) : Except UsageError Progress := do
  let _ ← p.settle
  .error e

/-- A word with two dashes. -/
def long (p : Progress) (name : String) (value : Option String) : Except UsageError Progress :=
  match Name.all.find? (·.long == name) with
  | some o =>
    match o.isFlag, value with
    | true, some _ => .error .tooManyValues
    | true, none => do (← p.settle).accept o "true"
    | false, some value => do (← p.settle).accept o value
    | false, none => do return { (← p.settle) with pending := some (o, none) }
  | none =>
    if name = "help" ∨ name = "version" then
      match value with
      | some _ => .error .tooManyValues
      | none => p.display (if name = "help" then .displayHelp else .displayVersion)
    else .error .unknownArgument

/-- A word with one dash. -/
def short (p : Progress) : List Char → Except UsageError Progress
  | 'h' :: _ => p.display .displayHelp
  | 'V' :: _ => p.display .displayVersion
  | _ => .error .unknownArgument

end Progress

/-- The names of the subcommands; `help` is one of them. -/
def subcommands : List String := ["controller", "help"]

/-- The words behind two dashes alone: there is nothing that they could be. -/
def trailing : List String → Except UsageError Unit
  | [] => .ok ()
  | w :: _ => .error (if w ∈ subcommands then .unknownArgument else .invalidSubcommand)

/-- The words behind the subcommand `controller`, which knows only its own help. -/
def controllerWords : List String → Except UsageError Unit
  | [] => .ok ()
  | w :: rest =>
    match Word.of w with
    | .escape => if rest.isEmpty then .ok () else .error .unknownArgument
    | .long "help" none => .error .displayHelp
    | .long "help" (some _) => .error .tooManyValues
    | .short ('h' :: _) => .error .displayHelp
    | _ => .error .unknownArgument

/-- The words behind the subcommand `help`: subcommands to be explained. -/
def helpWords : List String → UsageError
  | [] => .displayHelp
  | "controller" :: rest => if rest.isEmpty then .displayHelp else .invalidSubcommand
  | "help" :: rest => if rest.isEmpty then .displayHelp else .invalidSubcommand
  | _ => .invalidSubcommand

/-- The words up to the end or to a subcommand. -/
def words : List String → Progress → Except UsageError Progress
  | [], p => p.settle
  | w :: rest, p =>
    match Word.of w with
    | .escape => do
      trailing rest
      p.settle
    | .long name value => do words rest (← p.long name value)
    | .short letters => do words rest (← p.short letters)
    | .plain w =>
      match p.pending with
      | some (name, none) => words rest { p with pending := some (name, some w) }
      | _ =>
        if w = "controller" then do
          controllerWords rest
          let p ← p.settle
          return { p with options := { p.options with command := some .controller } }
        else if w = "help" then .error (helpWords rest)
        else .error .invalidSubcommand

/-- The variables of options that were not given. -/
def supply (env : String → Option String) (p : Progress) : List Name → Except UsageError Options
  | [] => .ok p.options
  | name :: rest =>
    match name.envVar?.bind env with
    | some value =>
      if name ∈ p.given then supply env p rest
      else do
        let options ← p.options.set name value
        supply env { p with options := options } rest
    | none => supply env p rest

/-- The options of a command line, with the environment behind it. -/
def parse (args : List String) (env : String → Option String) : Except UsageError Options := do
  let p ← words args {}
  supply env p Name.all

end Options

end ModelServing
