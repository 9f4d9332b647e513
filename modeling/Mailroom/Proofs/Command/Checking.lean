import Mailroom.Command.Run
import Mailroom.Proofs.Smtp.Checking

/-! The check of a server on the command line. The command succeeds, and says so, exactly if the client is let in
and the server answers. -/
namespace Mailroom.Command

def Makes (sources : Sources) (s : Surroundings) (caller : Smtp.Caller) (o : Options)
    (c : Client Smtp.Network) : Prop :=
  sources.options s = .ok o ∧ Smtp.client o caller = .ok c

def Accepts (sources : Sources) (s : Surroundings) (caller : Smtp.Caller) (net : Smtp.Network)
    (host : String) : Prop :=
  ∃ o c, Makes sources s caller o c ∧ (c.check net).1 = .ok true ∧ o.host = host

/-- The command succeeds if a host accepts the client, and prints which one does; otherwise it prints nothing. -/
structure ReportsCheck (Accepted : String → Prop) (x : Outcome) : Prop where
  success : x.exitCode = 0 ↔ ∃ host, Accepted host
  printed : ∀ host, x.output = host ++ ": ok\n" ↔ Accepted host
  failure : (¬∃ host, Accepted host) → x.exitCode = 1 ∧ x.output = ""

def verdict (host : String) : Except Error Bool → Except Failure String
  | .error e => .error (.mail e)
  | .ok true => .ok (host ++ ": ok\n")
  | .ok false => .error (.notAccepted host)

variable {Accepted : String → Prop} {sources : Sources} {s : Surroundings} {caller : Smtp.Caller}
  {net : Smtp.Network} {o : Options} {c : Client Smtp.Network}

private theorem reportsCheck_error (f : Failure) (h : ∀ host, ¬Accepted host) :
    ReportsCheck Accepted (outcome (.error f)) where
  success := iff_of_false (fun hzero : (1 : UInt8) = 0 => nomatch hzero) (not_exists.2 h)
  printed host := iff_of_false (fun hout => by simp [outcome] at hout) (h host)
  failure _ := ⟨rfl, rfl⟩

private theorem reportsCheck_verdict (host : String) (r : Except Error Bool) :
    ReportsCheck (fun host' => r = .ok true ∧ host = host') (outcome (verdict host r)) := by
  match r with
  | .error e => exact reportsCheck_error _ (by simp)
  | .ok false => exact reportsCheck_error _ (by simp)
  | .ok true =>
    refine ⟨iff_of_true rfl ⟨host, rfl, rfl⟩, fun host' => ?_, fun hnone => absurd ⟨host, rfl, rfl⟩ hnone⟩
    rw [eq_self, true_and]
    exact String.append_left_inj ": ok\n"

/-! ### Runs -/

/-- The sources make one client at most. -/
theorem Makes.accepts_iff (h : Makes sources s caller o c) {host : String} :
    Accepts sources s caller net host ↔ (c.check net).1 = .ok true ∧ o.host = host := by
  constructor
  · rintro ⟨o', c', ⟨ho', hc'⟩, haccepted⟩
    obtain rfl := Except.ok.inj (h.1.symm.trans ho')
    obtain rfl := Except.ok.inj (h.2.symm.trans hc')
    exact haccepted
  · exact fun haccepted => ⟨o, c, h, haccepted⟩

theorem Makes.perform_eq (h : Makes sources s caller o c) :
    Invocation.perform ⟨sources, .check⟩ s caller net = (verdict o.host (c.check net).1, (c.check net).2) := by
  simp only [Invocation.perform, h.1, Action.perform, checkServer, h.2]
  rcases c.check net with ⟨e | b, net'⟩
  · rfl
  · cases b <;> rfl

private theorem exists_perform_eq_error (h : ∀ o c, ¬Makes sources s caller o c)
    (net : Smtp.Network) :
    ∃ f, Invocation.perform ⟨sources, .check⟩ s caller net = (.error f, net) := by
  cases ho : sources.options s with
  | error f => exact ⟨f, by simp only [Invocation.perform, ho]⟩
  | ok o =>
    cases hc : Smtp.client o caller with
    | error e => exact ⟨.mail e, by simp only [Invocation.perform, ho, Action.perform, checkServer, hc]⟩
    | ok c => exact absurd ⟨ho, hc⟩ (h o c)

/-- What a run that checks the server leaves. The network is the one that the check leaves, if it comes to one. -/
structure IsCheckRun (sources : Sources) (s : Surroundings) (caller : Smtp.Caller) (net : Smtp.Network)
    (result : Outcome × Smtp.Network) : Prop where
  reports : ReportsCheck (Accepts sources s caller net) result.1
  checked : ∀ o c, Makes sources s caller o c → result.2 = (c.check net).2
  unchecked : (∀ o c, ¬Makes sources s caller o c) → result.2 = net

theorem isCheckRun_run {arguments : List String} (h : parse arguments = .ok ⟨sources, .check⟩) (s : Surroundings)
    (caller : Smtp.Caller) (net : Smtp.Network) :
    IsCheckRun sources s caller net (run arguments s caller net) := by
  have hrun : run arguments s caller net =
      (outcome (Invocation.perform ⟨sources, .check⟩ s caller net).1,
        (Invocation.perform ⟨sources, .check⟩ s caller net).2) := by
    simp only [run, h]
  rw [hrun]
  by_cases hmakes : ∃ o c, Makes sources s caller o c
  · obtain ⟨o, c, hmakes⟩ := hmakes
    have haccepts : Accepts sources s caller net =
        fun host => (c.check net).1 = .ok true ∧ o.host = host :=
      funext fun _ => propext hmakes.accepts_iff
    refine ⟨?_, fun o' c' h' => ?_, fun hnone => absurd hmakes (hnone o c)⟩
    · rw [haccepts, hmakes.perform_eq]
      exact reportsCheck_verdict _ _
    · rw [h'.perform_eq]
  · simp only [not_exists] at hmakes
    obtain ⟨f, hf⟩ := exists_perform_eq_error hmakes net
    rw [hf]
    refine ⟨reportsCheck_error f ?_, fun o c h' => absurd h' (hmakes o c), fun _ => rfl⟩
    rintro host ⟨o, c, h', -⟩
    exact hmakes o c h'

/-- What a client in the clear finds out by a check is told by the replies of the server, and nothing is handed
over for it. The command that checks the server succeeds, and prints its host, exactly if the check finds that
the server lets the client in and answers. -/
theorem check_tells_truth :
    (∀ o caller c, Smtp.client o caller = .ok c → o.security = .none →
      ∀ net, Smtp.IsCheck o caller net (c.check net)) ∧
      ∀ arguments sources, parse arguments = .ok ⟨sources, .check⟩ →
        ∀ s caller net, IsCheckRun sources s caller net (run arguments s caller net) :=
  ⟨fun _ _ _ hclient ho net => Smtp.isCheck_of_client hclient ho net, fun _ _ h => isCheckRun_run h⟩

def loginServer (answer : String) : Smtp.Network where
  listener := some ⟨[Options.defaultHost], 25, ["220 hi", "250-mx\r\n250 AUTH LOGIN", "334 VXNlcm5hbWU6",
    "334 UGFzc3dvcmQ6", "235 welcome", answer, "221 bye"].map String.toList⟩

def loginSurroundings : Surroundings where
  lookup
    | "POSTLINE_MAIL_SMTP_AUTH" => some "yes"
    | "POSTLINE_MAIL_USERNAME" => some "me"
    | "POSTLINE_MAIL_PASSWORD" => some "secret"
    | _ => none
  files _ := .error .absent

/-- The server accepts the client if it answers. If it refuses to, the check has a result too, but the command
fails. -/
theorem loginServer_has_to_answer :
    ∃ c, Smtp.client Smtp.loginOptions ⟨"client", ""⟩ = .ok c ∧ Smtp.loginOptions.security = .none ∧
      parse ["check"] = .ok ⟨{}, .check⟩ ∧
      (c.check (loginServer "250 ok")).1 = .ok true ∧ (c.check (loginServer "451 later")).1 = .ok false ∧
      Smtp.IsCheck Smtp.loginOptions ⟨"client", ""⟩ (loginServer "451 later")
        (c.check (loginServer "451 later")) ∧
      (run ["check"] loginSurroundings ⟨"client", ""⟩ (loginServer "250 ok")).1.exitCode = 0 ∧
      (run ["check"] loginSurroundings ⟨"client", ""⟩ (loginServer "250 ok")).1.output = "localhost: ok\n" ∧
      (run ["check"] loginSurroundings ⟨"client", ""⟩ (loginServer "451 later")).1.exitCode ≠ 0 := by
  have hclient : Smtp.client Smtp.loginOptions ⟨"client", ""⟩ =
      .ok ⟨Smtp.loginOptions, Smtp.transport Smtp.loginOptions ⟨"client", ""⟩⟩ := rfl
  have hparse : parse ["check"] = .ok ⟨{}, .check⟩ := by decide +kernel
  have ho : Sources.options {} loginSurroundings = .ok Smtp.loginOptions := by decide +kernel
  have hready : (Client.check ⟨Smtp.loginOptions, Smtp.transport Smtp.loginOptions ⟨"client", ""⟩⟩
      (loginServer "250 ok")).1 = .ok true := by decide +kernel
  have hlater : (Client.check ⟨Smtp.loginOptions, Smtp.transport Smtp.loginOptions ⟨"client", ""⟩⟩
      (loginServer "451 later")).1 = .ok false := by decide +kernel
  have ⟨hcheck, hrun⟩ := check_tells_truth
  have hmakes : Makes {} loginSurroundings ⟨"client", ""⟩ Smtp.loginOptions _ := ⟨ho, hclient⟩
  have haccepts : Accepts {} loginSurroundings ⟨"client", ""⟩ (loginServer "250 ok") "localhost" :=
    ⟨_, _, hmakes, hready, rfl⟩
  have hreports := (hrun ["check"] {} hparse loginSurroundings ⟨"client", ""⟩ (loginServer "250 ok")).reports
  have hreports' :=
    (hrun ["check"] {} hparse loginSurroundings ⟨"client", ""⟩ (loginServer "451 later")).reports
  refine ⟨_, hclient, rfl, hparse, hready, hlater, hcheck _ _ _ hclient rfl _, hreports.success.2 ⟨_, haccepts⟩,
    (hreports.printed "localhost").2 haccepts, fun hzero => ?_⟩
  obtain ⟨host, haccepted⟩ := hreports'.success.1 hzero
  rw [hmakes.accepts_iff, hlater] at haccepted
  cases haccepted.1

end Mailroom.Command
