import ModelServing.Api.Client
import ModelServing.Options

/-!
# The program

The operator from its command line to the controller.

* `Program.version` is what it says about itself;
* `Program.plan` is what a command line leads to: an early end, or a controller to be run;
* `Program.setUp` prepares the cluster for the controller.
-/

namespace ModelServing.Program

/-- The name and version of the program. -/
def version : String := "inference-operator 0.1.0\n"

/-- What a command line leads to. -/
inductive Plan where
  /-- The command line itself ends the run. -/
  | usage (e : UsageError)
  /-- The resource definition is printed. -/
  | definition
  /-- The configuration does not do. -/
  | refused (e : ConfigError)
  /-- The controller runs, in one namespace or in all. -/
  | run (config : Config) (watch : Option String)

/-- What a command line leads to; the definition is printed whatever the configuration. -/
def plan (args : List String) (env : String → Option String) : Plan :=
  match Options.parse args env with
  | .error e => .usage e
  | .ok o =>
    if o.crd then .definition
    else
      match o.config with
      | .error e => .refused e
      | .ok config => .run config o.watchNamespace

/-- Whether the command line asked for nothing but information. -/
def informs : UsageError → Bool
  | .displayHelp => true
  | .displayVersion => true
  | _ => false

/-- The text of the failure to reach a cluster, up to its cause. -/
def noClient : String := "failed to create Kubernetes client: "

/-- How a run without a cluster ends: its exit code, what it prints, and what it complains about. -/
structure Ending where
  exit : Nat
  stdout : Option String := none
  stderr : Option String := none

/-- The end of a run without a cluster. A run that is asked for help ends well; the page of help is not set here. -/
def alone (args : List String) (env : String → Option String) : Ending :=
  match plan args env with
  | .usage .displayVersion => { exit := 0, stdout := some version }
  | .usage .displayHelp => { exit := 0 }
  | .usage _ => { exit := 2 }
  | .definition => { exit := 0, stdout := some (Manifest.yaml ++ "\n") }
  | .refused e => { exit := 1, stderr := some ("Error: " ++ e.message) }
  | .run _ _ => { exit := 1, stderr := some ("Error: " ++ noClient) }

/-- How the program ends that finds its cluster, or does not: `none` if the command line ended it. -/
def setUp (reachable : Bool) (args : List String) (env : String → Option String) :
    Exchange (Option (Except String (Option (Config × Option String)))) :=
  match plan args env with
  | .usage _ => .done none
  | .definition => .done (some (.ok none))
  | .refused e => .done (some (.error e.message))
  | .run config watch =>
    if reachable then
      Client.install.bind fun
        | .error m => .done (some (.error m))
        | .ok () => .done (some (.ok (some (config, watch))))
    else .done (some (.error noClient))

end ModelServing.Program
