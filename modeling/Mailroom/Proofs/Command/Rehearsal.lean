import Mathlib.Control.Monad.Basic
import Mailroom.Command.Run
import Mailroom.Proofs.Client
import Mailroom.Proofs.Message.Composed

/-! A rehearsal of a request against the run that it stands for: both come to the same message, or fail for the
same reason. -/
namespace Mailroom

def Transport.listed {σ : Type} (t : Transport σ) : Transport (σ × List Message) where
  deliver m s :=
    let (result, s') := t.deliver m s.1
    (result, s', s.2 ++ [m])
  check s :=
    let (result, s') := t.check s.1
    (result, s', s.2)

namespace Command

def SendRequest.readBody (r : SendRequest) (files : Files) : Except Failure Body := do
  let format ← (BodyFormat.parse r.format).mapError .mail
  return { text := ← r.body files, format }

def SendRequest.sendOver {σ : Type} (r : SendRequest) (o : Options) (files : Files) (t : Transport σ) (s : σ) :
    Except Failure String × σ :=
  match r.readBody files with
  | .error f => (.error f, s)
  | .ok body =>
    match Client.create o t with
    | .error e => (.error (.mail e), s)
    | .ok client =>
      let (result, s) := r.sendBy body client s
      ((result.mapError .notSent).map fun _ => "sent\n", s)

def SendRequest.rehearsalBox (r : SendRequest) (o : Options) (files : Files) : Outbox :=
  match r.readBody files, Client.create o Outbox.transport with
  | .ok body, .ok client => (r.sendBy body client {}).2
  | _, _ => {}

def SendRequest.listedRun (r : SendRequest) (o : Options) (files : Files) (caller : Smtp.Caller)
    (net : Smtp.Network) : (Except Failure String × Smtp.Network) × List Message :=
  let listed := r.sendOver o files (Smtp.transport o caller).listed (net, [])
  ((listed.1, listed.2.1), listed.2.2)

/-- A failure, or its error again as one that was met in sending. -/
inductive Failure.IsInContext : Failure → Failure → Prop
  | same (f : Failure) : IsInContext f f
  | sending (e : Error) : IsInContext (.mail e) (.notSent e)

/-- What a rehearsal tells of a run in which these messages are handed over. -/
structure Foretells (net : Smtp.Network) (box : Outbox) (rehearsal run : Except Failure String × Smtp.Network)
    (handed : List Message) : Prop where
  /-- The rehearsal connects nothing. -/
  network_eq : rehearsal.2 = net
  /-- It succeeds exactly if the run comes to the delivery of a message. -/
  succeeds_iff : (∃ text, rehearsal.1 = .ok text) ↔ ∃ m, m ∈ handed
  /-- What is kept and shown is the one message that is handed over. -/
  same_message : ∀ text, rehearsal.1 = .ok text →
    ∃ m, box.sent = [m] ∧ text = m.shown.block ++ "\n" ∧ handed = [m]
  /-- If it fails, the run fails for the same reason and connects nothing. -/
  same_failure : ∀ f, rehearsal.1 = .error f →
    handed = [] ∧ run.2 = net ∧ ∃ f', run.1 = .error f' ∧ f.IsInContext f'

/-! ### How far a request comes -/

def SendRequest.compose (r : SendRequest) (body : Body) : Except Error Message :=
  Message.compose r.sender r.recipients r.subject body.text body.format

inductive ComesTo (o : Options) (r : SendRequest) (files : Files) (m : Message) : Prop
  | intro {body : Body} (hbody : r.readBody files = .ok body) (hoptions : o.problems = [])
      (h : r.compose body = .ok m)

/-- The request comes to no message, with the failure of a rehearsal and that of a run. -/
inductive StopsWith (o : Options) (r : SendRequest) (files : Files) : Failure → Failure → Prop
  | body {f : Failure} (h : r.readBody files = .error f) : StopsWith o r files f f
  | options {body : Body} {e : Error} (hbody : r.readBody files = .ok body) (h : o.validate = .error e) :
      StopsWith o r files (.mail e) (.mail e)
  | message {body : Body} {e : Error} (hbody : r.readBody files = .ok body) (hoptions : o.problems = [])
      (h : r.compose body = .error e) : StopsWith o r files (.mail e) (.notSent e)

section
variable {σ : Type} {o : Options} {r : SendRequest} {files : Files} {m : Message} {f f' : Failure}

theorem comesTo_or_stopsWith (o : Options) (r : SendRequest) (files : Files) :
    (∃ m, ComesTo o r files m) ∨ ∃ f f', StopsWith o r files f f' := by
  cases hbody : r.readBody files with
  | error f => exact .inr ⟨f, f, .body hbody⟩
  | ok body =>
    cases hvalid : o.validate with
    | error e => exact .inr ⟨_, _, .options hbody hvalid⟩
    | ok =>
      have hoptions := Options.validate_eq_ok_iff.1 hvalid
      cases hcompose : r.compose body with
      | error e => exact .inr ⟨_, _, .message hbody hoptions hcompose⟩
      | ok m => exact .inl ⟨m, .intro hbody hoptions hcompose⟩

private theorem StopsWith.isInContext (h : StopsWith o r files f f') : f.IsInContext f' := by
  cases h with
  | body => exact .same f
  | options => exact .same _
  | message => exact .sending _

private theorem readBody_dryRun (r : SendRequest) (files : Files) (dryRun : Bool) :
    SendRequest.readBody { r with dryRun } files = r.readBody files := rfl

private theorem sendBy_dryRun (r : SendRequest) (body : Body) (c : Client σ) (s : σ)
    (dryRun : Bool) :
    SendRequest.sendBy { r with dryRun } body c s = r.sendBy body c s := rfl

private theorem rehearse_dryRun (o : Options) (r : SendRequest) (dryRun : Bool) :
    rehearse o { r with dryRun } = rehearse o r := by
  funext body
  simp only [rehearse, sendBy_dryRun]

private theorem sendOver_dryRun (r : SendRequest) (o : Options) (files : Files) (t : Transport σ)
    (s : σ) (dryRun : Bool) :
    SendRequest.sendOver { r with dryRun } o files t s = r.sendOver o files t s := by
  simp only [SendRequest.sendOver, readBody_dryRun, sendBy_dryRun]

private theorem create_of_validate_eq_error {e : Error} (h : o.validate = .error e)
    (t : Transport σ) :
    Client.create o t = .error e := by
  simp [Client.create, h, bind, Except.bind]

private theorem sendBy_of_compose_eq_error {body : Body} {e : Error} (h : r.compose body = .error e)
    (c : Client σ) (s : σ) : r.sendBy body c s = (.error e, s) := by
  have hcompose : Message.compose r.sender r.recipients r.subject body.text body.format = .error e := h
  simp only [SendRequest.sendBy, Client.send, hcompose]

/-- A composed message has a recipient, so it is always given to the transport. -/
private theorem sendBy_of_compose_eq_ok {body : Body} (h : r.compose body = .ok m) (c : Client σ)
    (s : σ) :
    r.sendBy body c s =
      ((c.transport.deliver m s).1.mapError .delivery, (c.transport.deliver m s).2) := by
  have hcompose : Message.compose r.sender r.recipients r.subject body.text body.format = .ok m := h
  have hrecipients : m.allRecipients.isEmpty = false := by
    simpa using (Message.wellFormed_of_compose hcompose).2
  simp only [SendRequest.sendBy, Client.send, hcompose, Client.deliver, hrecipients, Bool.false_eq_true, if_false]

/-- A request that comes to no message leaves every transport alone. -/
private theorem StopsWith.sendOver_eq (h : StopsWith o r files f f') (t : Transport σ) (s : σ) :
    r.sendOver o files t s = (.error f', s) := by
  cases h with
  | body hbody => simp only [SendRequest.sendOver, hbody]
  | options hbody hvalid =>
    simp only [SendRequest.sendOver, hbody, create_of_validate_eq_error hvalid]
  | message hbody hoptions hcompose =>
    simp only [SendRequest.sendOver, hbody, Client.create_eq_ok_iff.2 ⟨hoptions, rfl⟩,
      sendBy_of_compose_eq_error hcompose]
    rfl

private theorem ComesTo.sendOver_eq (h : ComesTo o r files m) (t : Transport σ) (s : σ) :
    r.sendOver o files t s =
      ((((t.deliver m s).1.mapError .delivery).mapError .notSent).map fun _ => "sent\n", (t.deliver m s).2) := by
  obtain ⟨hbody, hoptions, hcompose⟩ := h
  simp only [SendRequest.sendOver, hbody, Client.create_eq_ok_iff.2 ⟨hoptions, rfl⟩,
    sendBy_of_compose_eq_ok hcompose]

/-- The list does not change what happens. -/
private theorem sendOver_listed (r : SendRequest) (o : Options) (files : Files) (t : Transport σ)
    (s : σ) (handed : List Message) :
    ((r.sendOver o files t.listed (s, handed)).1, (r.sendOver o files t.listed (s, handed)).2.1) =
      r.sendOver o files t s := by
  rcases comesTo_or_stopsWith o r files with ⟨m, h⟩ | ⟨f, f', h⟩
  · simp only [h.sendOver_eq, Transport.listed]
  · simp only [h.sendOver_eq]

end

/-! ### Rehearsals and runs -/

section
variable {o : Options} {r : SendRequest} {files : Files} {m : Message} {f f' : Failure}

private theorem listedRun_fst (r : SendRequest) (o : Options) (files : Files) (caller : Smtp.Caller)
    (net : Smtp.Network) :
    (r.listedRun o files caller net).1 = r.sendOver o files (Smtp.transport o caller) net :=
  sendOver_listed r o files _ net []

private theorem sendMail_eq (o : Options) (r : SendRequest) (files : Files) (caller : Smtp.Caller)
    (net : Smtp.Network) :
    sendMail o r files caller net =
      match r.readBody files with
      | .error f => (.error f, net)
      | .ok body => if r.dryRun then (rehearse o r body, net) else dispatch o r body caller net := by
  cases hbody : r.readBody files with
  | error f =>
    unfold SendRequest.readBody at hbody
    simp only [sendMail, hbody]
  | ok body =>
    unfold SendRequest.readBody at hbody
    simp only [sendMail, hbody]

private theorem sendMail_of_not_dryRun (h : r.dryRun = false) (o : Options) (files : Files)
    (caller : Smtp.Caller) (net : Smtp.Network) :
    sendMail o r files caller net = r.sendOver o files (Smtp.transport o caller) net := by
  simp only [sendMail_eq, h, Bool.false_eq_true, if_false, dispatch, Smtp.client, SendRequest.sendOver]
  cases r.readBody files with
  | error f => rfl
  | ok body =>
    cases Client.create o (Smtp.transport o caller) with
    | error e => rfl
    | ok client => rfl

private theorem sendMail_of_dryRun (h : r.dryRun = true) (o : Options) (files : Files)
    (caller : Smtp.Caller) (net : Smtp.Network) :
    sendMail o r files caller net = (r.readBody files >>= rehearse o r, net) := by
  simp only [sendMail_eq, h, if_true]
  cases r.readBody files with
  | error f => rfl
  | ok body => rfl

private theorem StopsWith.rehearse_eq (h : StopsWith o r files f f') :
    (r.readBody files >>= rehearse o r) = .error f := by
  cases h with
  | body hbody => simp only [hbody, bind, Except.bind]
  | options hbody hvalid =>
    simp only [hbody, rehearse, create_of_validate_eq_error hvalid, bind, Except.bind, Except.mapError]
  | message hbody hoptions hcompose =>
    simp only [hbody, rehearse, Client.create_eq_ok_iff.2 ⟨hoptions, rfl⟩, sendBy_of_compose_eq_error hcompose,
      bind, Except.bind, Except.mapError]

private theorem ComesTo.rehearse_eq (h : ComesTo o r files m) :
    (r.readBody files >>= rehearse o r) = .ok (m.shown.block ++ "\n") := by
  obtain ⟨hbody, hoptions, hcompose⟩ := h
  simp only [hbody, rehearse, Client.create_eq_ok_iff.2 ⟨hoptions, rfl⟩, sendBy_of_compose_eq_ok hcompose,
    bind, Except.bind, Except.mapError]
  rfl

private theorem ComesTo.sent_rehearsalBox (h : ComesTo o r files m) :
    (r.rehearsalBox o files).sent = [m] := by
  obtain ⟨hbody, hoptions, hcompose⟩ := h
  simp only [SendRequest.rehearsalBox, hbody, Client.create_eq_ok_iff.2 ⟨hoptions, rfl⟩,
    sendBy_of_compose_eq_ok hcompose]
  rfl

theorem ComesTo.foretells (h : ComesTo o r files m) (caller : Smtp.Caller) (net : Smtp.Network)
    (run : Except Failure String × Smtp.Network) :
    Foretells net (r.rehearsalBox o files) (r.readBody files >>= rehearse o r, net) run
      (r.listedRun o files caller net).2 := by
  have hhanded : (r.listedRun o files caller net).2 = [m] := by
    rw [SendRequest.listedRun, h.sendOver_eq]
    rfl
  rw [h.rehearse_eq, hhanded]
  refine ⟨rfl, ?_, ?_, ?_⟩
  · exact ⟨fun _ => ⟨m, List.mem_singleton_self m⟩, fun _ => ⟨_, rfl⟩⟩
  · intro text htext
    exact ⟨m, h.sent_rehearsalBox, (Except.ok.inj htext).symm, rfl⟩
  · intro f hf
    cases hf

theorem StopsWith.foretells (h : StopsWith o r files f f') (caller : Smtp.Caller) (net : Smtp.Network) :
    Foretells net (r.rehearsalBox o files) (r.readBody files >>= rehearse o r, net)
      (r.sendOver o files (Smtp.transport o caller) net) (r.listedRun o files caller net).2 := by
  rw [h.rehearse_eq, h.sendOver_eq, SendRequest.listedRun, h.sendOver_eq]
  refine ⟨rfl, ?_, ?_, ?_⟩
  · simp
  · intro text htext
    cases htext
  · intro g hg
    obtain rfl := Except.error.inj hg
    exact ⟨rfl, rfl, f', rfl, h.isInContext⟩

private theorem run_of_dryRun {arguments : List String} {sources : Sources}
    (harguments : parse arguments = .ok ⟨sources, .send r⟩) (h : r.dryRun = true) (s : Surroundings)
    (caller : Smtp.Caller) (net : Smtp.Network) : (run arguments s caller net).2 = net := by
  unfold run
  simp only [harguments, Invocation.perform]
  cases sources.options s with
  | error f => rfl
  | ok o => simp only [Action.perform, sendMail_of_dryRun h]

end

/-- A rehearsal succeeds exactly if the run gives a message to the transport, and shows that message; if it
fails, the run fails for the same reason before it connects. To know what the run gives to the transport, its
transport is listed, which changes nothing else. A command that asks for a rehearsal connects nothing, whatever
options and files it finds. -/
theorem dryRun_foretells (o : Options) (r : SendRequest) (files : Files) (caller : Smtp.Caller)
    (net : Smtp.Network) :
    (r.listedRun o files caller net).1 = sendMail o { r with dryRun := false } files caller net ∧
      Foretells net (r.rehearsalBox o files) (sendMail o { r with dryRun := true } files caller net)
        (sendMail o { r with dryRun := false } files caller net) (r.listedRun o files caller net).2 ∧
      ∀ (arguments : List String) (sources : Sources) (s : Surroundings),
        parse arguments = .ok ⟨sources, .send r⟩ → r.dryRun = true → (run arguments s caller net).2 = net := by
  have hdry : sendMail o { r with dryRun := true } files caller net = (r.readBody files >>= rehearse o r, net) := by
    rw [sendMail_of_dryRun rfl, readBody_dryRun, rehearse_dryRun]
  have hrun : sendMail o { r with dryRun := false } files caller net =
      r.sendOver o files (Smtp.transport o caller) net := by
    rw [sendMail_of_not_dryRun rfl, sendOver_dryRun]
  refine ⟨?_, ?_, fun arguments sources s harguments h => run_of_dryRun harguments h s caller net⟩
  · exact (listedRun_fst r o files caller net).trans hrun.symm
  · rw [hdry, hrun]
    rcases comesTo_or_stopsWith o r files with ⟨m, h⟩ | ⟨f, f', h⟩
    · exact h.foretells caller net _
    · exact h.foretells caller net

def noteRequest (recipient : String) : SendRequest where
  sender := "me <me@example.com>"
  primary := [recipient]
  bcc := ["b@example.com"]
  subject := "Hi"
  textFile := some "note.txt"
  dryRun := true

def noteSurroundings : Surroundings where
  lookup _ := none
  files path := if path = "note.txt" then .ok (Text.utf8 "Body".toList) else .error .absent

def note : Message where
  sender := ⟨some "me", ⟨"me", "example.com"⟩⟩
  primary := [⟨"a", "example.com"⟩]
  cc := []
  bcc := [⟨"b", "example.com"⟩]
  subject := "Hi"
  body := ⟨"Body", .plain⟩

def noteArguments : List String :=
  ["send", "--from=me <me@example.com>", "--to=a@example.com", "--bcc=b@example.com", "--subject=Hi",
    "--text-file=note.txt", "--dry-run"]

/-- The message that is shown is the one that the network is asked to deliver, and a recipient who cannot be
read keeps the run from connecting. -/
theorem noteRequest_is_foretold :
    (parse noteArguments = .ok ⟨{}, .send (noteRequest "a@example.com")⟩ ∧
        (run noteArguments noteSurroundings ⟨"client", ""⟩ {}).2 = {}) ∧
      ((sendMail default (noteRequest "a@example.com") noteSurroundings.files ⟨"client", ""⟩ {}).1 =
          .ok (note.shown.block ++ "\n") ∧
        ((noteRequest "a@example.com").listedRun default noteSurroundings.files ⟨"client", ""⟩ {}).2 = [note]) ∧
      (sendMail default (noteRequest "a") noteSurroundings.files ⟨"client", ""⟩ {}).1 =
          .error (.mail (.invalidAddress ⟨"a", .noSign⟩)) ∧
        (sendMail default { noteRequest "a" with dryRun := false } noteSurroundings.files ⟨"client", ""⟩ {}).2 =
          {} := by
  have hparse : parse noteArguments = .ok ⟨{}, .send (noteRequest "a@example.com")⟩ := by decide +kernel
  have hshown : (sendMail default (noteRequest "a@example.com") noteSurroundings.files ⟨"client", ""⟩ {}).1 =
      .ok (note.shown.block ++ "\n") := by decide +kernel
  have hbox : ((noteRequest "a@example.com").rehearsalBox default noteSurroundings.files).sent = [note] := by
    decide +kernel
  have hfails : (sendMail default (noteRequest "a") noteSurroundings.files ⟨"client", ""⟩ {}).1 =
      .error (.mail (.invalidAddress ⟨"a", .noSign⟩)) := by decide +kernel
  have ⟨_, hforetells, hrun⟩ :=
    dryRun_foretells default (noteRequest "a@example.com") noteSurroundings.files ⟨"client", ""⟩ {}
  obtain ⟨m, hm, -, hhanded⟩ := hforetells.same_message _ hshown
  obtain rfl : m = note := by simpa using hm.symm.trans hbox
  have ⟨_, hfailing, _⟩ := dryRun_foretells default (noteRequest "a") noteSurroundings.files ⟨"client", ""⟩ {}
  obtain ⟨-, hnetwork, -⟩ := hfailing.same_failure _ hfails
  exact ⟨⟨hparse, hrun noteArguments {} noteSurroundings hparse rfl⟩, ⟨hshown, hhanded⟩, hfails, hnetwork⟩

end Command

end Mailroom
