import Mailroom.Proofs.Smtp.Verdict

/-! When a client sends a name and a password: never unless the options ask for a login, and otherwise
before it hands over anything. -/
namespace Mailroom.Smtp

variable {α : Type}

def isLoginPart : Command → Bool
  | .authPlain .. | .authLogin | .answer _ => true
  | _ => false

/-! ### What a client adds to the log -/

def asResult (r : Except Fault α) : Except Error α := (r.mapError Fault.delivery).mapError .delivery

theorem asResult_map {β : Type} (r : Except Fault α) (f : α → β) : asResult (r.map f) = (asResult r).map f := by
  cases r <;> rfl

/-- Whatever a client is asked for, what it adds to the log satisfies `Q` together with the result. -/
structure Keeps (c : Client Network) (Q : ∀ {α : Type}, List Event → Except Error α → Prop) : Prop where
  deliver : ∀ m net, Adds Q net (c.deliver m net)
  send : ∀ sender recipients subject text format net,
    Adds Q net (c.send sender recipients subject text format net)
  check : ∀ net, Adds Q net (c.check net)

section
variable {o : Options} {caller : Caller} {Q : ∀ {α : Type}, List Event → Except Error α → Prop}

/-- A client keeps to what its conversations keep to, and nothing at all. -/
theorem keeps_of_logs (hnone : ∀ {α : Type} (e : Error), Q [] (.error e : Except Error α))
    (hdeliver : ∀ letter, Logs (enter o caller >>= Session.deliver letter) fun es r => Q es (asResult r))
    (hprobe : Logs (enter o caller >>= Session.probe) fun es r => Q es (asResult r)) :
    Keeps ⟨o, transport o caller⟩ Q := by
  have hmessage (m : Message) (net : Network) :
      Adds Q net (Client.deliver ⟨o, transport o caller⟩ m net) := by
    cases hletter : Mime.Letter.ofMessage m caller.date with
    | ok letter =>
      rw [deliver_of_client hletter]
      exact (hdeliver letter).adds (hnone _) net
    | error f =>
      -- nothing is connected for what cannot be written down
      unfold Client.deliver
      split
      · exact ⟨[], by simp, hnone _⟩
      · simp only [transport, hletter]
        exact ⟨[], by simp, hnone _⟩
  refine ⟨hmessage, ?_, ?_⟩
  · intro sender recipients subject text format net
    unfold Client.send
    split
    · exact ⟨[], by simp, hnone _⟩
    · exact hmessage _ net
  · intro net
    exact hprobe.adds (hnone _) net

end

/-! ### Without a login -/

/-- The clients do the same, whatever they are asked for and however the server behaves. -/
structure ActsAlike (c c' : Client Network) : Prop where
  deliver : ∀ m net, c.deliver m net = c'.deliver m net
  send : ∀ sender recipients subject text format net,
    c.send sender recipients subject text format net = c'.send sender recipients subject text format net
  check : ∀ net, c.check net = c'.check net

private theorem actsAlike_of_transport {c c' : Client Network} (h : c.transport = c'.transport) :
    ActsAlike c c' := by
  have hdeliver : c.deliver = c'.deliver := by
    funext m net
    simp only [Client.deliver, h]
  refine ⟨fun m net => by rw [hdeliver], ?_, ?_⟩
  · intro sender recipients subject text format net
    simp only [Client.send, hdeliver]
  · intro net
    simp only [Client.check, h]

section
variable {o : Options}

private theorem credentials?_of_not_auth (h : o.auth = false) : credentials? o = none := by
  simp [credentials?, h]

/-- Without a login, it does not matter which name and which password the options hold. -/
theorem transport_eq_of_not_auth (h : o.auth = false) (user password : Option String)
    (caller : Caller) :
    transport { o with user := user, password := password } caller = transport o caller := by
  have henter : enter { o with user := user, password := password } caller = enter o caller := by
    have hlogin (c : Capabilities) :
        logInIfAsked { o with user := user, password := password } c = logInIfAsked o c := by
      rw [logInIfAsked, logInIfAsked, credentials?_of_not_auth h, credentials?_of_not_auth (by exact h)]
    simp only [enter, hlogin]
    rfl
  have hconverse {α : Type} (action : Capabilities → Session α) :
      converse { o with user := user, password := password } caller action =
        converse o caller action := by
    funext net
    simp only [converse, henter]
  simp only [transport, hconverse]

/-- Without a login, no command takes part in one. -/
private theorem keeps_of_not_auth (h : o.auth = false) (caller : Caller) :
    Keeps ⟨o, transport o caller⟩ fun es _ => ∀ k ∈ commandsIn es, isLoginPart k = false := by
  have henter : Sends (fun k => isLoginPart k = false) (enter o caller) := by
    refine sends_enter rfl rfl rfl fun cs hcs => ?_
    rw [IsLoginOf, credentials?_of_not_auth h] at hcs
    subst hcs
    exact List.forall_mem_nil _
  apply keeps_of_logs
  · intro _ e
    exact List.forall_mem_nil _
  · intro letter
    refine henter.bind fun c => Sends.of_takes (takes_deliver letter c) rfl fun _ _ hts => ⟨_, ?_, hts⟩
    intro k hk
    simp only [handOverCommands, List.mem_cons, List.mem_append, List.mem_map, List.not_mem_nil,
      or_false] at hk
    rcases hk with rfl | ⟨a, -, rfl⟩ | rfl | rfl <;> rfl
  · refine henter.bind fun c => ?_
    refine (takes_probe c).logs.mono ?_
    rintro es r ⟨p, _, rfl, x, y, vs, rfl, -, hvs, -⟩
    rw [commandsIn_transcript, List.map_cons, List.map_cons]
    refine List.forall_mem_cons.2 ⟨rfl, List.forall_mem_cons.2 ⟨rfl, fun k hk => ?_⟩⟩
    obtain ⟨t, ht, rfl⟩ := List.mem_map.1 hk
    rw [hvs.command_eq ht]
    rfl

end

/-! ### With a login -/

/-- Turns answer the challenges that begin with a reply, each as the mechanism has it, until a positive
reply is no challenge. -/
inductive Answers (m : Mechanism) (user password : String) : Reply → List Turn → Prop where
  | done {r : Reply} : r.code ≠ 334 → Answers m user password r []
  | challenge {r next : Reply} {text : String} {ts : List Turn} :
    r.code = 334 → Session.challengeOf r >>= Session.answerTo m user password = .ok text →
      next.isPositive = true → Answers m user password next ts →
        Answers m user password r (⟨.answer text, .ok next⟩ :: ts)

/-- Turns log in under a name and with a password, and the server goes along with all of them. -/
def LogsIn (user password : String) (ts : List Turn) : Prop :=
  ∃ m r us, ts = ⟨Session.opening m user password, .ok r⟩ :: us ∧ r.isPositive = true ∧
    Answers m user password r us

section
variable {user password : String}

theorem takes_answers {m : Mechanism} (left : Nat) (r : Reply) :
    Takes (Session.answerChallenges m user password left r)
      fun ts result => result = .ok () → Answers m user password r ts := by
  -- on the challenges that may still be answered; the reply at hand changes with each
  induction left generalizing r with
  | zero => exact Takes.throw (by simp)
  | succ left ih =>
    unfold Session.answerChallenges
    split
    · next h => exact Takes.pure fun _ => .done h
    · next h =>
      apply Takes.ofExcept_bind
      · intro e _ hok
        cases hok
      · intro text htext
        apply (takes_exchange_outcome (.answer text)).orHangUp.bind
        · intro ts e _ hok
          cases hok
        · rintro ts next ⟨us, vs, rfl, ⟨x, rfl, hx⟩, -, hvs⟩
          obtain rfl := hvs next rfl
          obtain ⟨rfl, hpositive⟩ := outcome_eq_ok_iff.1 hx.symm
          exact (ih next).mono fun us result hus hok =>
            .challenge (not_not.1 h) htext hpositive (hus hok)

/-- A login that succeeds is one in which the server goes along. -/
theorem takes_logIn_logsIn (c : Capabilities) : Takes (Session.logIn c user password)
    fun ts r => r = .ok () → LogsIn user password ts := by
  unfold Session.logIn
  split
  · exact Takes.throw (by simp)
  · next m _ =>
    apply (takes_exchange_outcome (Session.opening m user password)).bind
    · intro ts e _ hok
      cases hok
    · rintro ts r ⟨x, rfl, hx⟩
      obtain ⟨rfl, hpositive⟩ := outcome_eq_ok_iff.1 hx.symm
      exact (takes_answers _ r).mono fun us result hus hok => ⟨m, r, us, rfl, hpositive, hus hok⟩

/-- What is logged holds no sender of a letter until a login has succeeded, and an action that succeeds
has logged in. -/
inductive LogsInFirst (user password : String) {ε : Type} (es : List Event) : Except ε α → Prop where
  | refused (e : ε) : (∀ k ∈ commandsIn es, isSender k = false) →
    LogsInFirst user password es (.error e)
  | admitted (before : List Event) (isProtected : Bool) (login : List Turn) (after : List Event)
    (r : Except ε α) : es = before ++ (Turn.transcript isProtected login ++ after) →
      (∀ k ∈ commandsIn before, isSender k = false) → LogsIn user password login →
        LogsInFirst user password es r

theorem LogsInFirst.mapError {ε ε' : Type} {es : List Event} {r : Except ε α}
    (h : LogsInFirst user password es r) (f : ε → ε') :
    LogsInFirst user password es (r.mapError f) := by
  cases h with
  | refused e h => exact .refused (f e) h
  | admitted before p login after r hes hbefore hlogin =>
    exact .admitted before p login after _ hes hbefore hlogin

variable {o : Options} {caller : Caller}

/-- The way to a delivery ends with a login. -/
private theorem logs_enter (h : credentials? o = some (user, password)) :
    Logs (enter o caller) fun es r => (∀ k ∈ commandsIn es, isSender k = false) ∧ ∀ c, r = .ok c →
      ∃ before p login, es = before ++ Turn.transcript p login ∧ LogsIn user password login := by
  -- where the login fails, what matters is what was sent; where it succeeds, where it stands on the log
  refine Logs.and ?_ ?_
  · exact sends_enter rfl rfl rfl fun _ hcs => hcs.forall_of (fun _ _ => rfl) rfl fun _ => rfl
  · have happroach : Sends (fun _ => True) (approach o caller) := sends_approach trivial trivial trivial
    rw [enter_eq]
    apply Logs.bind happroach
    · exact fun _ _ _ _ => nofun
    · intro before c _
      rw [logInIfAsked, h]
      apply (takes_logIn_logsIn c).logs.bind
      · exact fun _ _ _ _ => nofun
      · rintro _ ⟨⟩ ⟨p, login, rfl, hlogin⟩
        exact Logs.pure fun _ _ => ⟨before, p, login, by simp, hlogin rfl⟩

/-- Whatever follows, the login comes first. -/
theorem logsInFirst_of_takes {action : Capabilities → Session α}
    {Q : Capabilities → List Turn → Except Fault α → Prop}
    (h : credentials? o = some (user, password)) (haction : ∀ c, Takes (action c) (Q c)) :
    Logs (enter o caller >>= action) (LogsInFirst user password) := by
  apply (logs_enter h).bind
  · rintro es e ⟨hes, -⟩
    exact .refused e hes
  · rintro es c ⟨hes, hentered⟩
    obtain ⟨before, p, login, rfl, hlogin⟩ := hentered c rfl
    refine (haction c).logs.mono ?_
    rintro _ r ⟨q, ts, rfl, -⟩
    refine .admitted before p login (Turn.transcript q ts) r (List.append_assoc ..) ?_ hlogin
    intro k hk
    exact hes k (by simp [hk])

end

/-! ### Clients -/

/-- A client whose options do not ask for a login does the same under any name and password, and logs in
nowhere. One whose options do has a name and a password, and logs in with them before it names a sender;
where it cannot, it fails and names none. -/
theorem credentials_of_client {o : Options} {caller : Caller} {c : Client Network}
    (h : client o caller = .ok c) :
    (o.auth = false →
      (∀ o' c', client o' caller = .ok c' → o' = { o with user := o'.user, password := o'.password } →
        ActsAlike c' c) ∧
      Keeps c fun es _ => ∀ k ∈ commandsIn es, isLoginPart k = false) ∧
    (o.auth = true → ∃ user password, o.user = some user ∧ o.password = some password ∧
      Keeps c (LogsInFirst user password)) := by
  obtain ⟨hproblems, rfl⟩ := Client.create_eq_ok_iff.1 h
  constructor
  · intro hauth
    refine ⟨?_, keeps_of_not_auth hauth caller⟩
    intro o' c' h' ho'
    obtain ⟨-, rfl⟩ := Client.create_eq_ok_iff.1 h'
    apply actsAlike_of_transport
    rw [ho']
    exact transport_eq_of_not_auth hauth _ _ caller
  · intro hauth
    obtain ⟨user, password, huser, hpassword⟩ := Options.exists_credentials hproblems hauth
    have hcredentials : credentials? o = some (user, password) := by
      simp [credentials?, hauth, huser, hpassword]
    refine ⟨user, password, huser, hpassword, ?_⟩
    apply keeps_of_logs
    · exact fun e => .refused e (List.forall_mem_nil _)
    · intro letter
      exact (logsInFirst_of_takes hcredentials (takes_deliver letter)).mono fun _ _ h =>
        (h.mapError _).mapError _
    · exact (logsInFirst_of_takes hcredentials takes_probe).mono fun _ _ h =>
        (h.mapError _).mapError _

def idleOptions : Options := { loginOptions with auth := false }

/-- The same server hears nothing of the name and the password, or hears them before all else. -/
theorem busyServer_hears_credentials_if_asked :
    ∃ c c' d, client default ⟨"client", ""⟩ = .ok c ∧ client idleOptions ⟨"client", ""⟩ = .ok c' ∧
      client loginOptions ⟨"client", ""⟩ = .ok d ∧
      ActsAlike c' c ∧ (Keeps c fun es _ => ∀ k ∈ commandsIn es, isLoginPart k = false) ∧
      Keeps d (LogsInFirst "me" "secret") ∧
      (c'.deliver circular busyServer).2.sent.take 2 =
        [.hello "client", .sender ⟨"me", "example.com"⟩ false false] ∧
      (d.deliver circular busyServer).2.sent.take 5 =
        [.hello "client", .authLogin, .answer "me", .answer "secret",
          .sender ⟨"me", "example.com"⟩ false false] := by
  have hdefault : client default ⟨"client", ""⟩ =
      .ok ⟨default, transport default ⟨"client", ""⟩⟩ := rfl
  have hidle : client idleOptions ⟨"client", ""⟩ =
      .ok ⟨idleOptions, transport idleOptions ⟨"client", ""⟩⟩ := rfl
  have hlogin : client loginOptions ⟨"client", ""⟩ =
      .ok ⟨loginOptions, transport loginOptions ⟨"client", ""⟩⟩ := rfl
  obtain ⟨hsame, hquiet⟩ := (credentials_of_client hdefault).1 rfl
  obtain ⟨user, password, huser, hpassword, hfirst⟩ := (credentials_of_client hlogin).2 rfl
  obtain rfl : "me" = user := Option.some.inj huser
  obtain rfl : "secret" = password := Option.some.inj hpassword
  exact ⟨_, _, _, hdefault, hidle, hlogin, hsame _ _ hidle rfl, hquiet, hfirst, by decide +kernel,
    by decide +kernel⟩

end Mailroom.Smtp
