import TagSync.TagFilter
import TagSync.Text.Blank
import TagSync.Text.Numeral

/-!
# Settings

The settings come from the variables of the environment. A variable that holds a set lists its
names between commas; blanks around a name do not count and neither do empty names.
-/

set_option autoImplicit false

namespace TagSync

open TagSync.Text

/-- The names in a list between commas. -/
def NameSet.parse (value : String) : NameSet :=
  .ofList (((pieces ',' value.toList).map trim).filter (!·.isEmpty) |>.map String.ofList)

/-- How the program is set up. -/
structure Settings where
  /-- The path of the kubeconfig file. -/
  kubeconfig : String
  /-- The path of the file with the credentials for pulling images. -/
  pullSecretPath : String
  /-- The clusters to use; none means all. -/
  clusters : NameSet := ∅
  /-- Which tags are kept in step. -/
  filter : TagFilter := {}
  /-- The seconds after which a failed reaction is repeated. -/
  requeueSeconds : Nat := 60
  deriving Inhabited

/-- Why there are no settings. -/
inductive SettingsError where
  /-- A variable is not set. -/
  | missing (name : String)
  /-- The repetition interval is no number. -/
  | badRequeue (value : String) (fault : NumeralFault)
  deriving DecidableEq, Repr

namespace SettingsError

/-- The text of an error. -/
def message : SettingsError → String
  | .missing name => s!"{name} environment variable not set"
  | .badRequeue value _ => s!"REQUEUE_SECS is not a number: {value}"

/-- The texts of what caused an error. -/
def causes : SettingsError → List String
  | .missing _ => []
  | .badRequeue _ fault => [fault.message]

end SettingsError

namespace Settings

/-- The variable, which has to be set. -/
def required (environment : String → Option String) (name : String) :
    Except SettingsError String :=
  match environment name with
  | some value => .ok value
  | none => .error (.missing name)

/-- The set that a variable lists; a variable that is not set lists none. -/
def names (environment : String → Option String) (name : String) : NameSet :=
  .parse ((environment name).getD "")

/-- The repetition interval. -/
def requeue (environment : String → Option String) : Except SettingsError Nat :=
  match environment "REQUEUE_SECS" with
  | none => .ok 60
  | some value =>
    match unsignedBelow (bitValues 64) value.toList with
    | .ok n => .ok n
    | .error fault => .error (.badRequeue value fault)

/-- The settings that an environment holds. -/
def ofEnvironment (environment : String → Option String) : Except SettingsError Settings := do
  let kubeconfig ← required environment "KUBECONFIG"
  let pullSecretPath ← required environment "PULL_SECRET_PATH"
  let requeueSeconds ← requeue environment
  .ok {
    kubeconfig, pullSecretPath, requeueSeconds
    clusters := names environment "CLUSTERS"
    filter := {
      tags := names environment "IMAGE_STREAM_TAGS"
      streams := names environment "IMAGE_STREAMS"
      beginnings := names environment "IMAGE_STREAM_PREFIXES"
      namespaces := names environment "IMAGE_STREAM_NAMESPACES"
      denied := names environment "DENIED_IMAGE_STREAMS" } }

/-- Whether a cluster is to be used. -/
def wants (s : Settings) (cluster : String) : Bool :=
  s.clusters.isEmpty || s.clusters.contains cluster

end Settings

end TagSync
