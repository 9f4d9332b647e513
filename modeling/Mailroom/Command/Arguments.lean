import Mailroom.Command.Invocation
import Mailroom.Text.Split

/-! The arguments of the command. They are read from left to right, and the first one that ends the
reading decides. -/
namespace Mailroom.Command

inductive Stop where
  | usage
  | help
  | version
  deriving DecidableEq, Repr

def Stop.exitCode : Stop → UInt8
  | usage => 2
  | help | version => 0

inductive Verb where
  | send
  | properties
  | options
  | check
  deriving DecidableEq, Repr

def Verb.ofName? : String → Option Verb
  | "send" => some .send
  | "properties" => some .properties
  | "options" => some .options
  | "check" => some .check
  | _ => none

inductive Field where
  | optionsFile
  | override
  | sender
  | primary
  | cc
  | bcc
  | subject
  | text
  | textFile
  | format
  | dryRun
  deriving DecidableEq, Repr

inductive Arity where
  | none
  | one
  | many
  deriving DecidableEq, Repr

namespace Field

def arity : Field → Arity
  | dryRun => .none
  | primary | cc | bcc => .many
  | _ => .one

def repeats : Field → Bool
  | override | primary | cc | bcc => true
  | _ => false

def isPath : Field → Bool
  | optionsFile | textFile => true
  | _ => false

/-- The options that stand before and after the name of an action. -/
def shared? : String → Option Field
  | "options-file" => some optionsFile
  | "set" => some override
  | _ => none

def ofMessage? : String → Option Field
  | "from" => some sender
  | "to" => some primary
  | "cc" => some cc
  | "bcc" => some bcc
  | "subject" | "subj" => some subject
  | "text" => some text
  | "text-file" => some textFile
  | "subtype" => some format
  | "dry-run" => some dryRun
  | _ => none

/-- The option of a name, before the name of an action or after it. -/
def ofName? (verb : Option Verb) (name : String) : Option Field :=
  (shared? name).or (if verb = some .send then ofMessage? name else none)

end Field

structure Given where
  field : Field
  values : List String
  deriving DecidableEq, Repr

structure Reading where
  /-- The options that are complete, in order. -/
  given : List Given := []
  /-- The option that was read last, until the next one completes it. -/
  pending : Option Given := none
  /-- The option that was read last takes the next word. -/
  takesWord : Bool := false
  deriving DecidableEq, Repr, Inhabited

namespace Reading

def has (s : Reading) (field : Field) : Bool := s.given.any (·.field == field)

def values (s : Reading) (field : Field) : List String :=
  (s.given.filter (·.field == field)).flatMap Given.values

def value? (s : Reading) (field : Field) : Option String := (s.values field).head?

def pieces (s : Reading) (field : Field) : List String :=
  (s.values field).flatMap fun v => (Text.splitAt (· == ',') v.toList).map String.ofList

def complete (s : Reading) (g : Given) : Except Stop Reading :=
  if !g.field.repeats && s.has g.field then .error .usage
  else if g.field.isPath && g.values.contains "" then .error .usage
  else .ok { given := s.given ++ [g] }

/-- Completes the option that was read last. -/
def settle (s : Reading) : Except Stop Reading :=
  match s.pending with
  | none => .ok s
  | some g => if g.values.isEmpty then .error .usage else complete { given := s.given } g

def halt (s : Reading) (stop : Stop) : Except Stop Reading := do
  let _ ← s.settle
  throw stop

def takeField (s : Reading) (field : Field) (value : Option String) : Except Stop Reading := do
  match field.arity, value with
  | .none, some _ => throw .usage
  | .none, none => (← s.settle).complete ⟨field, []⟩
  | _, some v => (← s.settle).complete ⟨field, [v]⟩
  | _, none =>
    return { given := (← s.settle).given, pending := some ⟨field, []⟩, takesWord := true }

def takeLong (verb : Option Verb) (s : Reading) (written : List Char) : Except Stop Reading :=
  let (name, value) := match Text.cutFirst? (· == '=') written with
    | some (name, value) => (name, some (String.ofList value))
    | none => (written, none)
  match String.ofList name, value with
  | "help", none => s.halt .help
  | "version", none => if verb.isNone then s.halt .version else .error .usage
  | name, value =>
    match Field.ofName? verb name with
    | some field => s.takeField field value
    | none => .error .usage

/-- Takes in the letter of an option; what follows the letter is not reached. -/
def takeShort (verb : Option Verb) (s : Reading) (letter : Char) : Except Stop Reading :=
  if letter = 'h' then s.halt .help
  else if letter = 'V' ∧ verb.isNone then s.halt .version
  else .error .usage

def takeWord (s : Reading) (word : String) : Except Stop Reading :=
  match s.pending with
  | some g =>
    if s.takesWord then
      .ok { s with
        pending := some { g with values := g.values ++ [word] }
        takesWord := g.field.arity == .many }
    else .error .usage
  | none => .error .usage

def take (verb : Option Verb) (s : Reading) (argument : String) : Except Stop Reading :=
  match argument.toList with
  | '-' :: '-' :: written => s.takeLong verb written
  | '-' :: letter :: _ => s.takeShort verb letter
  | _ => s.takeWord argument

end Reading

def explain : List String → Stop
  | [] => .help
  | [name] => if name = "help" ∨ (Verb.ofName? name).isSome then .help else .usage
  | _ => .usage

/-- The name of an action at the head of the arguments, where an option does not take it for a value. -/
def verbAhead? (verb : Option Verb) (s : Reading) (argument : String) : Option Verb :=
  if verb.isNone && !s.takesWord then Verb.ofName? argument else none

/-- Reads the options before the name of an action, and then gives that name and what follows it; or
reads the options after it. Two hyphens end the options, and nothing may follow. -/
def readFields (verb : Option Verb) (s : Reading) :
    List String → Except Stop (Reading × Option (Verb × List String))
  | [] => .ok (s, none)
  | a :: r =>
    match verbAhead? verb s a with
    | some next => .ok (s, some (next, r))
    | none =>
      if verb.isNone && !s.takesWord && a == "help" then .error (explain r)
      else if a = "--" then if r.isEmpty then .ok (s, none) else .error .usage
      else do readFields verb (← s.take verb a) r

def sendRequest (s : Reading) : Except Stop SendRequest := do
  let some sender := s.value? .sender | throw .usage
  if s.has .text && s.has .textFile then throw .usage
  return {
    sender
    primary := s.pieces .primary
    cc := s.pieces .cc
    bcc := s.pieces .bcc
    subject := (s.value? .subject).getD ""
    text := s.value? .text
    textFile := s.value? .textFile
    format := (s.value? .format).getD "plain"
    dryRun := s.has .dryRun }

def action (verb : Verb) (s : Reading) : Except Stop Action :=
  match verb with
  | .send => return .send (← sendRequest s)
  | .properties => .ok .properties
  | .options => .ok .options
  | .check => .ok .check

/-- The values of an option that may stand before and after the name of an action: those after it, if
there are any, take the place of those before it. -/
def sharedValues (before after : Reading) (field : Field) : List String :=
  if after.has field then after.values field else before.values field

def parse (arguments : List String) : Except Stop Invocation := do
  let (before, next) ← readFields none {} arguments
  let some (verb, rest) := next | throw .usage
  let (after, _) ← readFields (some verb) {} rest
  let after ← after.settle
  let action ← action verb after
  let before ← before.settle
  return {
    sources :=
      { optionsFile := (sharedValues before after .optionsFile).head?
        overrides := sharedValues before after .override }
    action }

end Mailroom.Command
