import Mailroom.Command.Run

/-! The command line: variables and files are read here, and what the command leaves is written here.
There is no network, so every connection is refused. -/
namespace Mailroom.Command

def variableNames : List String :=
  ["HOME", "XDG_CONFIG_HOME"] ++
    (Options.environmentKeys none).map fun (_, name) => Options.variableName name

def Invocation.paths (i : Invocation) (defaultPath : String) : List String :=
  let textFile := match i.action with
    | .send r => r.textFile
    | _ => none
  i.sources.optionsFile.toList ++ textFile.toList ++ [defaultPath]

/-- The fault of a code of the system, at a path that is there or not; a code may come negated. -/
def faultOfCode (found : Bool) (code : UInt32) (detail : String) : FileFault :=
  let number := if code < 0x80000000 then code.toNat else (0 - code).toNat
  match number with
  | 2 => .absent
  | 20 => .notDirectory
  | 21 => .directory
  | 36 => .longName
  | number => if found then .system detail.capitalize number else .unreachable detail.capitalize number

def faultOf (found : Bool) : IO.Error → FileFault
  | .noFileOrDirectory .. => .absent
  | .inappropriateType _ code detail => faultOfCode found code detail
  | .permissionDenied _ code detail => faultOfCode found code detail
  | .invalidArgument _ code detail => faultOfCode found code detail
  | .otherError code detail => faultOfCode found code detail
  | e => if found then .system (toString e) 0 else .unreachable (toString e) 0

/-- The path can be followed to its end, whether or not what is there can be read. -/
def isFound (path : String) : IO Bool := do
  try
    let _ ← IO.FS.realPath path
    return true
  catch _ => return false

def readContents (path : String) : IO (Except FileFault (List UInt8)) := do
  try return .ok (← IO.FS.readBinFile path).toList
  catch e => return .error (faultOf (← isFound path) e)

def readVariables : IO (List (String × String)) :=
  variableNames.filterMapM fun name => do return (← IO.getEnv name).map (name, ·)

def readSurroundings (arguments : List String) : IO Surroundings := do
  let known ← readVariables
  let bare : Surroundings :=
    { lookup := (known.lookup ·), files := fun _ => .error .absent }
  match parse arguments with
  | .error _ => return bare
  | .ok i =>
    let contents ← (i.paths bare.defaultPath).mapM fun path => do
      return (path, ← readContents path)
    return { bare with files := fun path => (contents.lookup path).getD (.error .absent) }

end Mailroom.Command

def main (arguments : List String) : IO UInt32 := do
  let surroundings ← Mailroom.Command.readSurroundings arguments
  let caller := { name := "localhost", date := "Thu, 01 Jan 1970 00:00:00 +0000" }
  let (outcome, _) := Mailroom.Command.run arguments surroundings caller {}
  (← IO.getStdout).putStr outcome.output
  (← IO.getStderr).putStr outcome.errors
  return outcome.exitCode.toUInt32
