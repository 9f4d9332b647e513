import Mailroom.Command.Failure
import Mailroom.Command.Invocation
import Mailroom.Options.Environment

/-! The properties that the command works with: those of a file or of the environment, and overrides laid
over them. -/
namespace Mailroom.Command

structure Surroundings where
  /-- The variables of the environment. -/
  lookup : String → Option String
  files : Files
  /-- The home directory of the account, for when the environment names none. -/
  accountHome : Option String := none

namespace Surroundings

def home? (s : Surroundings) : Option String :=
  ((s.lookup "HOME").filter fun h => !h.isEmpty).or s.accountHome

def configDirectory (s : Surroundings) : String :=
  (((s.lookup "XDG_CONFIG_HOME").filter Files.isAbsolute).or
    (s.home?.map fun h => Files.join h ".config")).getD "."

/-- The file that is read if it is there and no other is given. -/
def defaultPath (s : Surroundings) : String :=
  Files.join (Files.join s.configDirectory "postline") "options.json"

end Surroundings

def fileBag (files : Files) (path : String) : Except Failure PropertyBag := do
  let text ← (files.text path).mapError (.unreadableFile path)
  let value ← (Json.ofText text).mapError (.notJson path)
  (PropertyBag.ofJson value).mapError (.refusedFile path)

/-- The bag that overrides are laid over: of the file that is given, else of the default file if it is
there, else of the environment. -/
def baseBag (s : Surroundings) (optionsFile : Option String) : Except Failure PropertyBag :=
  match optionsFile with
  | some path => fileBag s.files path
  | none =>
    if s.files.has s.defaultPath then fileBag s.files s.defaultPath
    else .ok (Options.environmentBag s.lookup)

def addOverride (bag : PropertyBag) (text : String) : Except Failure PropertyBag :=
  match Text.cutFirst? (· == '=') text.toList with
  | none => .error (.bareOverride text)
  | some (key, value) =>
    (bag.set (.ofList key) (.ofList value)).mapError (.refusedOverride text)

/-- The bag of overrides, of which the first bad one counts. -/
def overrideBag (texts : List String) : Except Failure PropertyBag :=
  texts.foldlM addOverride .empty

def Sources.bag (sources : Sources) (s : Surroundings) : Except Failure PropertyBag := do
  let base ← baseBag s sources.optionsFile
  return base.merge (← overrideBag sources.overrides)

def Sources.options (sources : Sources) (s : Surroundings) : Except Failure Options := do
  (Options.ofBag (← sources.bag s)).mapError .invalidOptions

end Mailroom.Command
