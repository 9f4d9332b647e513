import Mailroom.Command.Arguments
import Mailroom.Command.Settings
import Mailroom.Json.Printer
import Mailroom.Outbox
import Mailroom.Smtp.Transport

/-! The actions of the command. What they print is printed when they succeed. -/
namespace Mailroom.Command

/-- The text of the message: the one that is given, else that of the file, else none. -/
def SendRequest.body (r : SendRequest) (files : Files) : Except Failure String :=
  match r.text, r.textFile with
  | some text, _ => .ok text
  | none, some path => (files.text path).mapError (.unreadableFile path)
  | none, none => .ok ""

def SendRequest.sendBy {σ : Type} (r : SendRequest) (body : Body) (client : Client σ) (s : σ) :
    Except Error Unit × σ :=
  client.send r.sender r.recipients r.subject body.text body.format s

def rehearse (o : Options) (r : SendRequest) (body : Body) : Except Failure String := do
  let client ← (Client.create o Outbox.transport).mapError .mail
  let (result, box) := r.sendBy body client {}
  let _ ← result.mapError .mail
  return box.last?.elim "" fun m => m.shown.block ++ "\n"

def dispatch (o : Options) (r : SendRequest) (body : Body) (caller : Smtp.Caller)
    (net : Smtp.Network) : Except Failure String × Smtp.Network :=
  match Smtp.client o caller with
  | .error e => (.error (.mail e), net)
  | .ok client =>
    let (result, net) := r.sendBy body client net
    ((result.mapError .notSent).map fun _ => "sent\n", net)

/-- Sends the message that is asked for, or only shows it. -/
def sendMail (o : Options) (r : SendRequest) (files : Files) (caller : Smtp.Caller)
    (net : Smtp.Network) : Except Failure String × Smtp.Network :=
  let read : Except Failure Body := do
    let format ← (BodyFormat.parse r.format).mapError .mail
    return { text := ← r.body files, format }
  match read with
  | .error f => (.error f, net)
  | .ok body => if r.dryRun then (rehearse o r body, net) else dispatch o r body caller net

def propertiesText (o : Options) : String := o.toBag.toJson.pretty ++ "\n"

def optionsText (o : Options) : String :=
  let lines :=
    [ "protocol: " ++ o.protocol.name,
      "host:     " ++ o.host,
      "port:     " ++ toString o.port.toNat,
      "security: " ++ o.security.displayName,
      "auth:     " ++ (if o.auth then "true" else "false"),
      "user:     " ++ o.user.getD "-",
      "timeout:  " ++ toString o.timeout.millis ++ "ms" ] ++
    o.extra.entries.map fun (key, value) => "extra:    " ++ key ++ "=" ++ value
  .join (lines.map (· ++ "\n"))

def checkServer (o : Options) (caller : Smtp.Caller) (net : Smtp.Network) :
    Except Failure String × Smtp.Network :=
  match Smtp.client o caller with
  | .error e => (.error (.mail e), net)
  | .ok client =>
    match client.check net with
    | (.error e, net) => (.error (.mail e), net)
    | (.ok true, net) => (.ok (o.host ++ ": ok\n"), net)
    | (.ok false, net) => (.error (.notAccepted o.host), net)

def Action.perform (action : Action) (o : Options) (files : Files) (caller : Smtp.Caller)
    (net : Smtp.Network) : Except Failure String × Smtp.Network :=
  match action with
  | .send r => sendMail o r files caller net
  | .properties => (.ok (propertiesText o), net)
  | .options => (.ok (optionsText o), net)
  | .check => checkServer o caller net

def Invocation.perform (i : Invocation) (s : Surroundings) (caller : Smtp.Caller)
    (net : Smtp.Network) : Except Failure String × Smtp.Network :=
  match i.sources.options s with
  | .error f => (.error f, net)
  | .ok o => i.action.perform o s.files caller net

structure Outcome where
  exitCode : UInt8
  output : String := ""
  errors : String := ""
  deriving DecidableEq, Repr

def versionText : String := "postline 0.1.0\n"

def usageText : String :=
  "Usage: postline [--options-file <FILE>] [--set <KEY=VALUE>]... <send|properties|options|check>\n"

def Stop.outcome : Stop → Outcome
  | usage => { exitCode := Stop.usage.exitCode, errors := usageText }
  | help => { exitCode := Stop.help.exitCode, output := usageText }
  | version => { exitCode := Stop.version.exitCode, output := versionText }

def outcome : Except Failure String → Outcome
  | .ok output => { exitCode := 0, output }
  | .error f => { exitCode := 1, errors := f.report }

def run (arguments : List String) (s : Surroundings) (caller : Smtp.Caller) (net : Smtp.Network) :
    Outcome × Smtp.Network :=
  match parse arguments with
  | .error stop => (stop.outcome, net)
  | .ok i =>
    let (result, net) := i.perform s caller net
    (outcome result, net)

end Mailroom.Command
