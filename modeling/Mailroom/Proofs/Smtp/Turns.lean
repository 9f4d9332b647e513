import Mailroom.Proofs.Outcome
import Mailroom.Proofs.Smtp.Trace

/-! Conversations as turns: the client sends a command, and reads one answer. A plan is a list of
commands; the main statements say which plan each part of a conversation follows, and where it stops. -/
namespace Mailroom.Smtp

variable {α β : Type}

/-- A command, and what the client reads in answer. -/
structure Turn where
  command : Command
  answer : Except ReplyFault Reply

namespace Turn

def events (isProtected : Bool) (t : Turn) : List Event :=
  [.sent t.command isProtected, .ofReading t.answer]

def transcript (isProtected : Bool) (ts : List Turn) : List Event :=
  ts.flatMap (events isProtected)

@[simp] theorem transcript_append (p : Bool) (ts us : List Turn) :
    transcript p (ts ++ us) = transcript p ts ++ transcript p us :=
  List.flatMap_append

/-- Of what turns leave on the log, the commands are looked for. -/
theorem filterMap_transcript {γ : Type} {find : Event → Option γ} (h : ∀ x, find (.ofReading x) = none)
    (p : Bool) (ts : List Turn) :
    (transcript p ts).filterMap find = ts.filterMap fun t => find (.sent t.command p) := by
  induction ts with
  | nil => rfl
  | cons t ts ih =>
    rw [transcript, List.flatMap_cons, List.filterMap_append, ← transcript, ih, List.filterMap_cons]
    cases hfind : find (.sent t.command p) with
    | none => simp [events, h, hfind]
    | some x => simp [events, h, hfind]

@[simp] theorem filterMap_command?_transcript (p : Bool) (ts : List Turn) :
    (transcript p ts).filterMap Event.command? = ts.map command := by
  rw [filterMap_transcript Event.command?_ofReading]
  exact congrFun List.filterMap_eq_map ts

end Turn

def IsReading (x : Except ReplyFault Reply) : Prop := ∃ unread, x = (readReply unread).1

/-- A part of a conversation consists of turns, which satisfy `Q` together with the outcome, wherever the
server stands. It neither begins protection nor ends it. -/
def Takes (s : Session α) (Q : List Turn → Except Fault α → Prop) : Prop :=
  ∀ w, ∃ ts, (play s w).2.log = w.log ++ Turn.transcript w.isProtected ts ∧
    (play s w).2.isProtected = w.isProtected ∧ Q ts (play s w).1

namespace Takes

variable {s : Session α} {f : α → Session β} {P Q : List Turn → Except Fault α → Prop}
  {R : List Turn → Except Fault β → Prop}

theorem mono (h : Takes s P) (hPQ : ∀ ts r, P ts r → Q ts r) : Takes s Q := by
  intro w
  obtain ⟨ts, hlog, hprotected, hP⟩ := h w
  exact ⟨ts, hlog, hprotected, hPQ ts _ hP⟩

theorem pure {a : α} (h : Q [] (.ok a)) : Takes (pure a) Q :=
  fun w => ⟨[], by simp [Turn.transcript], rfl, h⟩

theorem throw {e : Fault} (h : Q [] (.error e)) : Takes (throw e) Q :=
  fun w => ⟨[], by simp [Turn.transcript], rfl, h⟩

theorem bind (hs : Takes s P) (herror : ∀ ts e, P ts (.error e) → R ts (.error e))
    (hf : ∀ ts a, P ts (.ok a) → Takes (f a) fun us r => R (ts ++ us) r) : Takes (s >>= f) R := by
  intro w
  obtain ⟨ts, hlog, hprotected, hP⟩ := hs w
  rw [play_bind]
  cases hplay : play s w with
  | mk r w' =>
    rw [hplay] at hlog hprotected hP
    cases r with
    | error e => exact ⟨ts, hlog, hprotected, herror ts e hP⟩
    | ok a =>
      obtain ⟨us, hlog', hprotected', hR⟩ := hf ts a hP w'
      refine ⟨ts ++ us, ?_, hprotected'.trans hprotected, hR⟩
      rw [hlog', hlog, hprotected, List.append_assoc, Turn.transcript_append]

theorem tryCatch {handle : Fault → Session α} (hs : Takes s P) (hok : ∀ ts a, P ts (.ok a) → Q ts (.ok a))
    (herror : ∀ ts e, P ts (.error e) → Takes (handle e) fun us r => Q (ts ++ us) r) :
    Takes (tryCatch s handle) Q := by
  intro w
  obtain ⟨ts, hlog, hprotected, hP⟩ := hs w
  rw [play_tryCatch]
  cases hplay : play s w with
  | mk r w' =>
    rw [hplay] at hlog hprotected hP
    cases r with
    | ok a => exact ⟨ts, hlog, hprotected, hok ts a hP⟩
    | error e =>
      obtain ⟨us, hlog', hprotected', hQ⟩ := herror ts e hP w'
      refine ⟨ts ++ us, ?_, hprotected'.trans hprotected, hQ⟩
      rw [hlog', hlog, hprotected, List.append_assoc, Turn.transcript_append]

/-- A part that fails at once in some cases. -/
theorem throwIf {p : Prop} [Decidable p] {e : Fault} {f : Unit → Session β}
    (herror : R [] (.error e)) (hf : Takes (f ()) R) :
    Takes (if p then MonadExcept.throw e >>= f else f ()) R := by
  split
  · intro w
    exact ⟨[], by simp [Turn.transcript], rfl, herror⟩
  · exact hf

/-- A part that takes up a value, if there is one. -/
theorem ofExcept_bind {x : Except Fault α} (herror : ∀ e, x = .error e → R [] (.error e))
    (hf : ∀ a, x = .ok a → Takes (f a) R) : Takes (MonadExcept.ofExcept x >>= f) R := by
  cases x with
  | error e => exact fun w => ⟨[], by simp [Turn.transcript, MonadExcept.ofExcept], by
      simp [MonadExcept.ofExcept], herror e rfl⟩
  | ok a => exact hf a rfl

theorem exchange {c : Command} {Q : List Turn → Except Fault Reply → Prop}
    (h : ∀ x, IsReading x → Q [⟨c, x⟩] (outcome x)) : Takes (Session.exchange c) Q := by
  intro w
  simp only [Session.exchange, play_bind, Session.send, play_modify, play_receive]
  exact ⟨[⟨c, _⟩], by simp [Turn.transcript, Turn.events], trivial, h _ ⟨_, rfl⟩⟩

/-- What is sent are the commands of the turns. -/
theorem emits (h : Takes s Q) : Emits s fun cs r => ∃ ts, cs = ts.map Turn.command ∧ Q ts r := by
  intro w
  obtain ⟨ts, hlog, -, hQ⟩ := h w
  refine ⟨_, ?_, ts, rfl, hQ⟩
  rw [Wire.sent, hlog, List.filterMap_append, Turn.filterMap_command?_transcript]
  rfl

end Takes

/-- Taking leave is an exchange of which the outcome does not matter. -/
theorem play_hangUp_eq (w : Wire) :
    play Session.hangUp w = (.ok (), (play (Session.exchange .quit) w).2) := by
  have hread : (discard Session.receive : Session Unit) = Session.receive >>= fun _ => pure () := rfl
  simp only [Session.hangUp, Session.exchange, play_bind, Session.send, play_modify, play_tryCatch,
    hread, play_receive]
  cases outcome _ with
  | error e => rfl
  | ok r => rfl

/-! ### Where a conversation stops -/

def IsPositive (x : Except ReplyFault Reply) : Prop := ∃ r, x = .ok r ∧ r.isPositive = true

/-- The answer that an outcome complains of. Other failures are the client's own. -/
def blamed? : Except Fault α → Option (Except ReplyFault Reply)
  | .error (.rejected r) => some (.ok r)
  | .error (.badReply f) => some (.error f)
  | _ => none

/-- Answers account for an outcome: all are positive, but for the one that the outcome complains of, which
is the last one. -/
def AccountsFor (xs : List (Except ReplyFault Reply)) (r : Except Fault α) : Prop :=
  ∃ ys, xs = ys ++ (blamed? r).toList ∧ (∀ y ∈ ys, IsPositive y) ∧
    ∀ x ∈ blamed? r, IsReading x ∧ ¬IsPositive x

theorem AccountsFor.append {xs ys : List (Except ReplyFault Reply)} {r : Except Fault α}
    (hxs : ∀ x ∈ xs, IsPositive x) (h : AccountsFor ys r) : AccountsFor (xs ++ ys) r := by
  obtain ⟨zs, rfl, hzs, hblamed⟩ := h
  refine ⟨xs ++ zs, by simp, ?_, hblamed⟩
  intro x hx
  exact (List.mem_append.1 hx).elim (hxs x) (hzs x)

theorem AccountsFor.forall_isPositive {xs : List (Except ReplyFault Reply)} {a : α}
    (h : AccountsFor xs (.ok a)) : ∀ x ∈ xs, IsPositive x := by
  obtain ⟨ys, rfl, hys, -⟩ := h
  simpa [blamed?] using hys

/-- Where no refusal is complained of, none was read. -/
theorem AccountsFor.isPositive_of_ok {xs : List (Except ReplyFault Reply)} {r : Except Fault α}
    {reply : Reply} (h : AccountsFor xs r) (hr : .ok reply ∉ blamed? r) (hreply : .ok reply ∈ xs) :
    reply.isPositive = true := by
  obtain ⟨ys, rfl, hys, -⟩ := h
  rcases List.mem_append.1 hreply with hreply | hreply
  · simpa [IsPositive] using hys _ hreply
  · exact absurd (Option.mem_toList.1 hreply) hr

/-- Nothing has been read, and nothing that was read is complained of. -/
private theorem accountsFor_nil {r : Except Fault α} (h : blamed? r = none) : AccountsFor [] r :=
  ⟨[], by simp [h], by simp, by simp [h]⟩

theorem outcome_eq_ok_iff {x : Except ReplyFault Reply} {r : Reply} :
    outcome x = .ok r ↔ x = .ok r ∧ r.isPositive = true := by
  cases x with
  | error f => simp [outcome]
  | ok r' =>
    cases hr : r'.isPositive with
    | true => simpa [outcome, hr] using fun h : r' = r => h ▸ hr
    | false => simpa [outcome, hr] using fun h : r' = r => h ▸ hr

theorem isPositive_iff_outcome (x : Except ReplyFault Reply) :
    IsPositive x ↔ ∃ r, outcome x = .ok r :=
  exists_congr fun _ => outcome_eq_ok_iff.symm

theorem isOk_outcome_iff {x : Except ReplyFault Reply} : (outcome x).isOk = true ↔ IsPositive x := by
  rw [isPositive_iff_outcome]
  cases outcome x with
  | error e => simp [Except.isOk, Except.toBool]
  | ok r => simp [Except.isOk, Except.toBool]

theorem accountsFor_outcome {x : Except ReplyFault Reply} (h : IsReading x) :
    AccountsFor [x] (outcome x) := by
  by_cases hx : IsPositive x
  · obtain ⟨r, hr⟩ := (isPositive_iff_outcome x).1 hx
    rw [hr]
    exact ⟨[x], rfl, by simpa using hx, by simp [blamed?]⟩
  · have hblamed : blamed? (outcome x) = some x := by
      cases x with
      | error f => rfl
      | ok r =>
        have hr : r.isPositive = false := by simpa [IsPositive] using hx
        simp [outcome, hr, blamed?]
    exact ⟨[], by simp [hblamed], by simp, by simpa [hblamed] using ⟨h, hx⟩⟩

/-- The failure of a part is that of the whole. -/
theorem AccountsFor.of_error {xs : List (Except ReplyFault Reply)} {e : Fault}
    (h : AccountsFor xs (.error e : Except Fault α)) : AccountsFor xs (.error e : Except Fault β) := by
  cases e <;> exact h

theorem AccountsFor.map {xs : List (Except ReplyFault Reply)} {r : Except Fault α} (h : AccountsFor xs r)
    (f : α → β) : AccountsFor xs (r.map f) := by
  cases r with
  | error e => exact h.of_error
  | ok a => exact h

/-- Turns carry out a plan, or a beginning of it if they fail. -/
structure Follows (plan : List Command) (ts : List Turn) (r : Except Fault α) : Prop where
  ahead : ts.map Turn.command <+: plan
  complete : ∀ a, r = .ok a → ts.map Turn.command = plan
  accounts : AccountsFor (ts.map Turn.answer) r

namespace Follows

variable {plan plan' : List Command} {ts us : List Turn}

/-- A failure that the client finds itself before anything is sent. -/
private theorem nil_error {e : Fault} (h : blamed? (.error e : Except Fault α) = none) :
    Follows plan [] (.error e : Except Fault α) :=
  ⟨List.nil_prefix, by simp, accountsFor_nil h⟩

private theorem nil_ok (a : α) : Follows [] [] (.ok a : Except Fault α) :=
  ⟨List.nil_prefix, fun _ _ => rfl, accountsFor_nil rfl⟩

theorem of_error {e : Fault} (h : Follows plan ts (.error e : Except Fault α)) :
    Follows (plan ++ plan') ts (.error e : Except Fault β) :=
  ⟨h.ahead.trans (List.prefix_append _ _), by simp, h.accounts.of_error⟩

theorem append {a : α} {r : Except Fault β} (h : Follows plan ts (.ok a : Except Fault α))
    (h' : Follows plan' us r) : Follows (plan ++ plan') (ts ++ us) r := by
  have hall := h.complete a rfl
  refine ⟨?_, ?_, ?_⟩
  · rw [List.map_append, hall]
    exact (List.prefix_append_right_inj plan).2 h'.ahead
  · intro b hb
    rw [List.map_append, hall, h'.complete b hb]
  · rw [List.map_append]
    exact h'.accounts.append h.accounts.forall_isPositive

end Follows

def IsFarewell (ts : List Turn) : Prop := ts = [] ∨ ∃ x, ts = [⟨.quit, x⟩]

theorem IsFarewell.command_eq {ts : List Turn} (h : IsFarewell ts) {t : Turn} (ht : t ∈ ts) :
    t.command = .quit := by
  rcases h with rfl | ⟨x, rfl⟩
  · cases ht
  · rw [List.mem_singleton.1 ht]

/-- Turns follow a plan, and at most take leave after it. -/
def Closes (plan : List Command) (ts : List Turn) (r : Except Fault α) : Prop :=
  ∃ us vs, ts = us ++ vs ∧ Follows plan us r ∧ IsFarewell vs

/-- Turns follow a plan, and take leave only if they fail. -/
def Stays (plan : List Command) (ts : List Turn) (r : Except Fault α) : Prop :=
  ∃ us vs, ts = us ++ vs ∧ Follows plan us r ∧ IsFarewell vs ∧ ∀ a, r = .ok a → vs = []

section
variable {plan plan' : List Command} {ts us : List Turn}

theorem Stays.follows {a : α} (h : Stays plan ts (.ok a : Except Fault α)) :
    Follows plan ts (.ok a : Except Fault α) := by
  obtain ⟨us, vs, rfl, hfollows, -, hnone⟩ := h
  rw [hnone a rfl, List.append_nil]
  exact hfollows

theorem Follows.stays {r : Except Fault α} (h : Follows plan ts r) : Stays plan ts r :=
  ⟨ts, [], by simp, h, .inl rfl, fun _ _ => rfl⟩

theorem Stays.of_error {e : Fault} (h : Stays plan ts (.error e : Except Fault α)) :
    Stays (plan ++ plan') ts (.error e : Except Fault β) := by
  obtain ⟨us, vs, rfl, hfollows, hvs, -⟩ := h
  exact ⟨us, vs, rfl, hfollows.of_error, hvs, by simp⟩

theorem Stays.append {a : α} {r : Except Fault β} (h : Stays plan ts (.ok a : Except Fault α))
    (h' : Stays plan' us r) : Stays (plan ++ plan') (ts ++ us) r := by
  obtain ⟨us, vs, rfl, hfollows, hvs, hnone⟩ := h'
  exact ⟨ts ++ us, vs, by simp, h.follows.append hfollows, hvs, hnone⟩

theorem Stays.ok {a : α} (b : β) (h : Stays plan ts (.ok a : Except Fault α)) :
    Stays plan ts (.ok b : Except Fault β) := by
  simpa using h.append (Follows.nil_ok b).stays

theorem Stays.closes {r : Except Fault α} (h : Stays plan ts r) : Closes plan ts r := by
  obtain ⟨us, vs, hts, hfollows, hvs, -⟩ := h
  exact ⟨us, vs, hts, hfollows, hvs⟩

/-- Besides the commands of the plan, only a farewell is sent. -/
theorem Closes.mem_or_quit {r : Except Fault α} (h : Closes plan ts r) {t : Turn} (ht : t ∈ ts) :
    t.command ∈ plan ∨ t.command = .quit := by
  obtain ⟨us, vs, rfl, hfollows, hvs⟩ := h
  rcases List.mem_append.1 ht with ht | ht
  · exact .inl (hfollows.ahead.subset (List.mem_map_of_mem ht))
  · exact .inr (hvs.command_eq ht)

theorem Stays.append_closes {a : α} {r : Except Fault β} (h : Stays plan ts (.ok a : Except Fault α))
    (h' : Closes plan' us r) : Closes (plan ++ plan') (ts ++ us) r := by
  obtain ⟨us, vs, rfl, hfollows, hvs⟩ := h'
  exact ⟨ts ++ us, vs, by simp, h.follows.append hfollows, hvs⟩

end

/-! ### What each part does -/

theorem takes_exchange (c : Command) : Takes (Session.exchange c) (Follows [c]) :=
  Takes.exchange fun _ h => ⟨List.prefix_refl _, fun _ _ => rfl, accountsFor_outcome h⟩

/-- The outcome of an exchange is what the client makes of the answer. -/
theorem takes_exchange_outcome (c : Command) :
    Takes (Session.exchange c) fun ts r => ∃ x, ts = [⟨c, x⟩] ∧ r = outcome x :=
  Takes.exchange fun x _ => ⟨x, rfl, rfl⟩

/-- Parts that follow plans follow them one after the other. -/
theorem Takes.follows_bind {s : Session α} {f : α → Session β} {plan plan' : List Command}
    (hs : Takes s (Follows plan)) (hf : ∀ a, Takes (f a) (Follows plan')) :
    Takes (s >>= f) (Follows (plan ++ plan')) :=
  hs.bind (fun _ _ h => h.of_error) fun _ a h => (hf a).mono fun _ _ h' => h.append h'

theorem takes_hangUp : Takes Session.hangUp fun ts r => IsFarewell ts ∧ r = .ok () := by
  intro w
  obtain ⟨ts, hlog, hprotected, x, hts, -⟩ := takes_exchange_outcome .quit w
  rw [play_hangUp_eq]
  exact ⟨ts, hlog, hprotected, .inr ⟨x, hts⟩, rfl⟩

/-- A part that takes leave if it fails has the turns of the part, and then perhaps a farewell. -/
theorem Takes.orHangUp {s : Session α} {Q : List Turn → Except Fault α → Prop} (hs : Takes s Q) :
    Takes (Session.orHangUp s) fun ts r => ∃ us vs, ts = us ++ vs ∧ Q us r ∧ IsFarewell vs ∧
      ∀ a, r = .ok a → vs = [] := by
  apply hs.tryCatch
  · intro ts a h
    exact ⟨ts, [], by simp, h, .inl rfl, fun _ _ => rfl⟩
  · intro ts e h
    apply takes_hangUp.bind
    · rintro vs e' ⟨-, hok⟩
      cases hok
    · rintro vs u ⟨hvs, -⟩
      apply Takes.throw
      exact ⟨ts, vs, by simp, h, hvs, by simp⟩

theorem takes_orHangUp {s : Session α} {plan : List Command} (hs : Takes s (Follows plan)) :
    Takes (Session.orHangUp s) (Stays plan) :=
  hs.orHangUp

theorem takes_hello (name : String) : Takes (Session.hello name) (Stays [.hello name]) := by
  apply takes_orHangUp
  change Takes _ (Follows ([.hello name] ++ []))
  refine (takes_exchange (.hello name)).follows_bind fun r => ?_
  split
  · exact Takes.pure (.nil_ok _)
  · exact Takes.throw (.nil_error rfl)

/-! ### Logging in -/

/-- What the client answers to challenges are its credentials. -/
theorem answerTo_eq_ok {m : Mechanism} {user password text : String} {challenge : List Char}
    (h : Session.answerTo m user password challenge = .ok text) :
    m = .login ∧ (text = user ∨ text = password) := by
  unfold Session.answerTo at h
  cases m with
  | plain => cases h
  | login =>
    dsimp only at h
    split at h
    · exact ⟨rfl, .inl (by simpa using h.symm)⟩
    · split at h
      · exact ⟨rfl, .inr (by simpa using h.symm)⟩
      · cases h

/-- A challenge that cannot be answered is the client's own failure. -/
private theorem blamed?_of_challenge {m : Mechanism} {user password : String} {r : Reply}
    {e : Fault} (h : Session.challengeOf r >>= Session.answerTo m user password = .error e) :
    blamed? (.error e : Except Fault α) = none := by
  rcases bind_eq_error_iff.1 h with h | ⟨challenge, -, h⟩
  · unfold Session.challengeOf at h
    split at h
    · cases h
      rfl
    · rcases bind_eq_error_iff.1 h with h | ⟨bytes, -, h⟩
      · obtain ⟨f, -, rfl⟩ := mapError_eq_error_iff.1 h
        rfl
      · obtain ⟨f, -, rfl⟩ := mapError_eq_error_iff.1 h
        rfl
  · unfold Session.answerTo at h
    cases m with
    | plain =>
      cases h
      rfl
    | login =>
      dsimp only at h
      split at h
      · cases h
      · split at h
        · cases h
        · cases h
          rfl

/-- The commands answer challenges of a mechanism, at most so many of them. -/
structure IsAnswers (m : Mechanism) (user password : String) (left : Nat) (cs : List Command) :
    Prop where
  length_le : cs.length ≤ left
  credentials : ∀ c ∈ cs, m = .login ∧ (c = .answer user ∨ c = .answer password)

section
variable {m : Mechanism} {user password text : String} {left : Nat}

private theorem isAnswers_nil : IsAnswers m user password left [] := ⟨Nat.zero_le _, by simp⟩

theorem IsAnswers.cons {cs : List Command} (hm : m = .login) (htext : text = user ∨ text = password)
    (h : IsAnswers m user password left cs) :
    IsAnswers m user password (left + 1) (.answer text :: cs) where
  length_le := Nat.succ_le_succ h.length_le
  credentials := by
    intro c hc
    rcases List.mem_cons.1 hc with rfl | hc
    · simpa [hm] using htext
    · exact h.credentials c hc

theorem takes_answerChallenges (r : Reply) : Takes (Session.answerChallenges m user password left r)
    fun ts r => ∃ plan, IsAnswers m user password left plan ∧ Stays plan ts r := by
  induction left generalizing r with
  | zero => exact Takes.throw ⟨[], isAnswers_nil, (Follows.nil_error rfl).stays⟩
  | succ left ih =>
    unfold Session.answerChallenges
    split
    · exact Takes.pure ⟨[], isAnswers_nil, (Follows.nil_ok _).stays⟩
    · apply Takes.ofExcept_bind
      · intro e he
        exact ⟨[], isAnswers_nil, (Follows.nil_error (blamed?_of_challenge he)).stays⟩
      · intro text htext
        obtain ⟨challenge, -, htext⟩ := bind_eq_ok_iff.1 htext
        obtain ⟨hm, htext⟩ := answerTo_eq_ok htext
        apply (takes_orHangUp (takes_exchange (.answer text))).bind
        · intro ts e h
          exact ⟨_, isAnswers_nil.cons hm htext, h.of_error⟩
        · intro ts r' h
          refine (ih r').mono ?_
          rintro us r'' ⟨plan, hplan, hstays⟩
          exact ⟨_, hplan.cons hm htext, h.append hstays⟩

end

inductive IsLogin (user password : String) : List Command → Prop where
  | plain : IsLogin user password [.authPlain user password]
  | login {answers : List Command} :
    IsAnswers .login user password Session.maxChallenges answers →
      IsLogin user password (.authLogin :: answers)

private theorem isLogin_opening {m : Mechanism} {user password : String} {answers : List Command}
    (h : IsAnswers m user password Session.maxChallenges answers) :
    IsLogin user password (Session.opening m user password :: answers) := by
  cases m with
  | plain =>
    obtain rfl : answers = [] :=
      List.eq_nil_iff_forall_not_mem.2 fun c hc => nomatch (h.credentials c hc).1
    exact .plain
  | login => exact .login h

theorem takes_logIn (c : Capabilities) (user password : String) :
    Takes (Session.logIn c user password)
      fun ts r => ∃ plan, IsLogin user password plan ∧ Stays plan ts r := by
  unfold Session.logIn
  split
  · exact Takes.throw ⟨_, .plain, (Follows.nil_error rfl).stays⟩
  · next m _ =>
    apply (takes_exchange (Session.opening m user password)).bind
    · intro ts e h
      exact ⟨_, isLogin_opening isAnswers_nil, h.stays.of_error⟩
    · intro ts r h
      refine (takes_answerChallenges r).mono ?_
      rintro us r' ⟨plan, hplan, hstays⟩
      exact ⟨_, isLogin_opening hplan, h.stays.append hstays⟩

/-- The commands log in as options ask for it. -/
def IsLoginOf (o : Options) (cs : List Command) : Prop :=
  match credentials? o with
  | some (user, password) => IsLogin user password cs
  | none => cs = []

/-- Commands that log in open a login, or answer in one. -/
theorem IsLoginOf.forall_of {o : Options} {cs : List Command} {P : Command → Prop}
    (h : IsLoginOf o cs) (hplain : ∀ user password, P (.authPlain user password))
    (hlogin : P .authLogin) (hanswer : ∀ text, P (.answer text)) : ∀ c ∈ cs, P c := by
  unfold IsLoginOf at h
  split at h
  · cases h with
    | plain => simpa using hplain _ _
    | login h =>
      refine List.forall_mem_cons.2 ⟨hlogin, fun c hc => ?_⟩
      rcases (h.credentials c hc).2 with rfl | rfl
      · exact hanswer _
      · exact hanswer _
  · subst h
    exact List.forall_mem_nil P

theorem takes_logInIfAsked (o : Options) (c : Capabilities) :
    Takes (logInIfAsked o c) fun ts r => ∃ plan, IsLoginOf o plan ∧ Stays plan ts r := by
  unfold logInIfAsked IsLoginOf
  cases credentials? o with
  | some credentials => exact takes_logIn c _ _
  | none => exact Takes.pure ⟨[], rfl, (Follows.nil_ok _).stays⟩

/-! ### Delivery -/

def handOverCommands (letter : Mime.Letter) : List Command :=
  .sender letter.sender (Session.needsUtf8 letter) (Session.needsEightBit letter) ::
    (letter.recipients.map .recipient ++ [.data, .payload letter.content])

private theorem takes_recipients (as : List Address) :
    Takes (forIn as PUnit.unit fun a _ => do
        let _ ← Session.exchange (.recipient a)
        pure (ForInStep.yield PUnit.unit))
      (Follows (as.map .recipient)) := by
  induction as with
  | nil => exact Takes.pure (.nil_ok _)
  | cons a as ih =>
    rw [List.forIn_cons]
    simp only [bind_assoc, pure_bind]
    exact (takes_exchange (.recipient a)).follows_bind fun _ => ih

theorem takes_handOver (letter : Mime.Letter) :
    Takes (Session.handOver letter) (Follows (handOverCommands letter)) := by
  have hpayload : Takes (do let _ ← Session.exchange (.payload letter.content))
      (Follows ([.payload letter.content] ++ [])) :=
    (takes_exchange _).follows_bind fun _ => Takes.pure (.nil_ok _)
  have hdata := (takes_exchange .data).follows_bind fun _ => hpayload
  have hrecipients := (takes_recipients letter.recipients).follows_bind fun _ => hdata
  exact (takes_exchange _).follows_bind fun _ => hrecipients

theorem takes_deliver (letter : Mime.Letter) (c : Capabilities) :
    Takes (Session.deliver letter c) (Closes (handOverCommands letter)) := by
  apply Takes.throwIf (Follows.nil_error rfl).stays.closes
  apply Takes.throwIf (Follows.nil_error rfl).stays.closes
  apply (takes_orHangUp (takes_handOver letter)).bind
  · intro ts e h
    exact h.closes
  · intro ts u h
    refine takes_hangUp.mono ?_
    rintro vs r ⟨hvs, rfl⟩
    exact ⟨ts, vs, rfl, h.follows, hvs⟩

/-- A probe asks whether the server answers, and takes leave; a second time if the first is refused. The server
answers if it goes along, but there is a result only if it goes along with the farewell too. -/
theorem takes_probe (c : Capabilities) :
    Takes (Session.probe c) fun ts r => ∃ x y vs, ts = ⟨.noop, x⟩ :: ⟨.quit, y⟩ :: vs ∧ IsReading y ∧
      IsFarewell vs ∧ (IsPositive y → vs = []) ∧ r = (outcome y).map fun _ => (outcome x).isOk := by
  -- a refusal is caught, so that asking cannot fail
  have hask : Takes (try
      let _ ← Session.exchange .noop
      pure true
      catch _ => pure false) fun ts r => ∃ x, ts = [⟨.noop, x⟩] ∧ r = .ok (outcome x).isOk := by
    have htry : Takes (do
        let _ ← Session.exchange .noop
        pure true) fun ts r => ∃ x, ts = [⟨.noop, x⟩] ∧ r = (outcome x).map fun _ => true := by
      apply (takes_exchange_outcome .noop).bind
      · rintro ts e ⟨x, rfl, hx⟩
        exact ⟨x, rfl, by rw [← hx]; rfl⟩
      · rintro ts r ⟨x, rfl, hx⟩
        exact Takes.pure ⟨x, rfl, by rw [← hx]; rfl⟩
    apply htry.tryCatch
    · rintro ts b ⟨x, rfl, hx⟩
      obtain ⟨r, hr, rfl⟩ := map_eq_ok_iff.1 hx.symm
      exact ⟨x, rfl, by rw [hr]; rfl⟩
    · rintro ts e ⟨x, rfl, hx⟩
      refine Takes.pure ⟨x, rfl, ?_⟩
      cases hr : outcome x with
      | ok r => rw [hr] at hx; cases hx
      | error f => rfl
  have hleave : Takes (Session.exchange .quit)
      fun ts r => ∃ y, ts = [⟨.quit, y⟩] ∧ IsReading y ∧ r = outcome y :=
    Takes.exchange fun y hy => ⟨y, rfl, hy, rfl⟩
  unfold Session.probe
  apply hask.bind
  · rintro ts e ⟨x, -, he⟩
    cases he
  · rintro ts b ⟨x, rfl, hb⟩
    cases hb
    apply hleave.orHangUp.bind
    · rintro us e ⟨_, vs, rfl, ⟨y, rfl, hread, hy⟩, hvs, -⟩
      refine ⟨x, y, vs, rfl, hread, hvs, fun hpositive => ?_, by rw [← hy]; rfl⟩
      obtain ⟨r, hr⟩ := (isPositive_iff_outcome y).1 hpositive
      rw [hr] at hy
      cases hy
    · rintro us r ⟨_, vs, rfl, ⟨y, rfl, hread, hy⟩, hvs, hnone⟩
      exact Takes.pure ⟨x, y, vs, by simp, hread, hvs, fun _ => hnone r rfl, by rw [← hy]; rfl⟩

end Mailroom.Smtp
