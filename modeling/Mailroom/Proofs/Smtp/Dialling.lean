import Mailroom.Proofs.Client
import Mailroom.Proofs.Options.Failure
import Mailroom.Proofs.Smtp.Fidelity

/-! When a call comes to the network, and which failures come before it. -/
namespace Mailroom.Smtp

def IsOfInput : Error → Prop
  | .invalidProperty .. | .configuration _ | .invalidAddress _ | .noRecipients
  | .delivery (.message _) => True
  | _ => False

def IsReady (source : OptionsSource) (caller : Caller) (sender : String) (recipients : Recipients)
    (subject text : String) (format : BodyFormat) (o : Options) : Prop :=
  source.options = .ok o ∧ o.problems = [] ∧ ∃ m letter,
    Message.compose sender recipients subject text format = .ok m ∧
      Mime.Letter.ofMessage m caller.date = .ok letter

private theorem failsOnly_options (source : OptionsSource) :
    FailsOnly IsOfInput source.options := by
  cases source with
  | given o => exact failsOnly_ok o
  | environment lookup =>
    refine (Options.failsOnly_ofBag _).mono ?_
    rintro e ⟨key, fault, rfl⟩
    trivial

private theorem failsOnly_clientOf (source : OptionsSource) (caller : Caller) :
    FailsOnly IsOfInput (clientOf source caller) := by
  refine (failsOnly_options source).bind fun o => Client.failsOnly_create.mono ?_
  rintro e rfl
  trivial

theorem clientOf_eq_ok_iff {source : OptionsSource} {caller : Caller} {c : Client Network} :
    clientOf source caller = .ok c ↔
      ∃ o, source.options = .ok o ∧ o.problems = [] ∧ c = ⟨o, transport o caller⟩ := by
  simp only [clientOf, bind_eq_ok_iff, client, Client.create_eq_ok_iff]

/-- What fails between the parties is not the caller's fault. -/
theorem not_isOfInput_converse {o : Options} {caller : Caller} {letter : Mime.Letter} {net : Network}
    {e : Error}
    (h : ((converse o caller (Session.deliver letter) net).1.mapError Fault.delivery).mapError
      Error.delivery = .error e) : ¬IsOfInput e := by
  obtain ⟨failure, hfailure, rfl⟩ := mapError_eq_error_iff.1 h
  obtain ⟨f, -, rfl⟩ := mapError_eq_error_iff.1 hfailure
  cases f <;> exact id

section
variable {source : OptionsSource} {caller : Caller} {sender subject text : String}
  {recipients : Recipients} {format : BodyFormat} {net : Network}

/-- A call that is ready dials once, and then fails, if at all, for reasons that lie there. -/
theorem sendOnce_of_isReady {o : Options}
    (h : IsReady source caller sender recipients subject text format o) :
    (sendOnce source caller sender recipients subject text format net).2.dials =
        net.dials ++ [(o.host, o.port)] ∧
      FailsOnly (fun e => ¬IsOfInput e)
        (sendOnce source caller sender recipients subject text format net).1 := by
  obtain ⟨hoptions, hproblems, m, letter, hcompose, hletter⟩ := h
  have hclient : clientOf source caller = .ok ⟨o, transport o caller⟩ :=
    clientOf_eq_ok_iff.2 ⟨o, hoptions, hproblems, rfl⟩
  simp only [sendOnce, hclient, Client.send, hcompose, deliver_of_client hletter]
  exact ⟨dials_converse .., fun e he => not_isOfInput_converse he⟩

/-- A call that is not ready fails for reasons that lie in what the caller has given, and leaves the
network alone. -/
theorem sendOnce_of_not_isReady
    (h : ¬∃ o, IsReady source caller sender recipients subject text format o) :
    (∃ e, (sendOnce source caller sender recipients subject text format net).1 = .error e ∧
        IsOfInput e) ∧
      (sendOnce source caller sender recipients subject text format net).2 = net := by
  unfold sendOnce
  cases hclient : clientOf source caller with
  | error e => exact ⟨⟨e, rfl, failsOnly_clientOf source caller e hclient⟩, rfl⟩
  | ok c =>
    obtain ⟨o, hoptions, hproblems, rfl⟩ := clientOf_eq_ok_iff.1 hclient
    dsimp only [Client.send]
    cases hcompose : Message.compose sender recipients subject text format with
    | error e =>
      refine ⟨⟨e, rfl, ?_⟩, rfl⟩
      rcases Message.failsOnly_compose _ _ _ _ _ e hcompose with rfl | ⟨refusal, rfl⟩
      · trivial
      · trivial
    | ok m =>
      have hrecipients : m.allRecipients.isEmpty = false := by
        simpa using (Message.wellFormed_of_compose hcompose).2
      cases hletter : Mime.Letter.ofMessage m caller.date with
      | error f =>
        simp only [Client.deliver, hrecipients, Bool.false_eq_true, if_false, transport, hletter]
        exact ⟨⟨_, rfl, trivial⟩, trivial⟩
      | ok letter => exact absurd ⟨o, hoptions, hproblems, m, letter, hcompose, hletter⟩ h

end

/-- A call ends with an error of what the caller has given exactly if it is not ready for the network,
which it then leaves alone; otherwise it dials once, to the server of its options. -/
theorem sendOnce_dials_iff (source : OptionsSource) (caller : Caller) (sender : String)
    (recipients : Recipients) (subject text : String) (format : BodyFormat) (net : Network) :
    ((∃ e, (sendOnce source caller sender recipients subject text format net).1 = .error e ∧
        IsOfInput e) ↔ ¬∃ o, IsReady source caller sender recipients subject text format o) ∧
      (∀ e, (sendOnce source caller sender recipients subject text format net).1 = .error e →
        IsOfInput e → (sendOnce source caller sender recipients subject text format net).2 = net) ∧
      ∀ o, IsReady source caller sender recipients subject text format o →
        (sendOnce source caller sender recipients subject text format net).2.dials =
          net.dials ++ [(o.host, o.port)] := by
  have hinput : ∀ e, (sendOnce source caller sender recipients subject text format net).1 = .error e →
      IsOfInput e → ¬∃ o, IsReady source caller sender recipients subject text format o := by
    rintro e he hinput ⟨o, hready⟩
    exact (sendOnce_of_isReady hready).2 e he hinput
  refine ⟨⟨fun ⟨e, he, h⟩ => hinput e he h, fun h => (sendOnce_of_not_isReady h).1⟩, ?_, ?_⟩
  · intro e he h
    exact (sendOnce_of_not_isReady (hinput e he h)).2
  · intro o hready
    exact (sendOnce_of_isReady hready).1

def portEnvironment (name : String) : Option String :=
  if name = Options.variableName "SMTP_PORT" then some "2525" else none

def portOptions : Options := { (default : Options) with port := 2525 }

/-- With a good request the server of the environment is dialled, and with a bad recipient after a good one
it is not. -/
theorem portEnvironment_dials :
    IsReady (.environment portEnvironment) ⟨"client", ""⟩ "me <me@example.com>" circularRecipients "Hi"
        "Body" .html portOptions ∧
      (sendOnce (.environment portEnvironment) ⟨"client", ""⟩ "me <me@example.com>" circularRecipients
        "Hi" "Body" .html {}).2.dials = [("localhost", 2525)] ∧
      (∃ e, (sendOnce (.environment portEnvironment) ⟨"client", ""⟩ "me@example.com"
        (.list ["a@example.com", "b"]) "Hi" "Body" .html {}).1 = .error e ∧ IsOfInput e) ∧
      (sendOnce (.environment portEnvironment) ⟨"client", ""⟩ "me@example.com"
        (.list ["a@example.com", "b"]) "Hi" "Body" .html {}).2 = {} := by
  have hoptions : Options.ofEnvironment portEnvironment = .ok portOptions := by decide +kernel
  have hcompose : Message.compose "me <me@example.com>" circularRecipients "Hi" "Body" .html =
      .ok circular := by decide +kernel
  have hwritten : (Mime.Letter.ofMessage circular "").isOk = true := by decide +kernel
  have hready : IsReady (.environment portEnvironment) ⟨"client", ""⟩ "me <me@example.com>"
      circularRecipients "Hi" "Body" .html portOptions := by
    cases hletter : Mime.Letter.ofMessage circular "" with
    | error f =>
      rw [hletter] at hwritten
      cases hwritten
    | ok letter => exact ⟨hoptions, rfl, circular, letter, hcompose, hletter⟩
  have hbad : (sendOnce (.environment portEnvironment) ⟨"client", ""⟩ "me@example.com"
      (.list ["a@example.com", "b"]) "Hi" "Body" .html {}).1 =
      .error (.invalidAddress ⟨"b", .noSign⟩) := by decide +kernel
  refine ⟨hready, ?_, ⟨_, hbad, trivial⟩, ?_⟩
  · exact (sendOnce_dials_iff _ _ _ _ _ _ _ {}).2.2 portOptions hready
  · exact (sendOnce_dials_iff _ _ _ _ _ _ _ {}).2.1 _ hbad trivial

end Mailroom.Smtp
