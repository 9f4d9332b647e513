import Mailroom.Proofs.Client
import Mailroom.Proofs.Smtp.Fidelity
import Mailroom.Proofs.Smtp.Reply

/-! What the outcome of a delivery says about the replies of the server. -/
namespace Mailroom.Smtp

/-! ### On a plain connection -/

theorem exists_isLoginOf (o : Options) : ∃ cs, IsLoginOf o cs := by
  unfold IsLoginOf
  split
  · exact ⟨_, .plain⟩
  · exact ⟨[], rfl⟩

def isHandOver : Command → Bool
  | .sender .. | .recipient _ | .data | .payload _ => true
  | _ => false

def isSender : Command → Bool
  | .sender .. => true
  | _ => false

def isData : Command → Bool
  | .data => true
  | _ => false

private theorem isHandOver_of_isSender {c : Command} (h : isSender c = true) :
    isHandOver c = true := by
  cases c with
  | sender => rfl
  | _ => cases h

private theorem isHandOver_of_isData {c : Command} (h : isData c = true) : isHandOver c = true := by
  cases c with
  | data => rfl
  | _ => cases h

private theorem filter_handOverCommands (letter : Mime.Letter) :
    (handOverCommands letter).filter isHandOver = handOverCommands letter := by
  rw [List.filter_eq_self]
  intro c hc
  simp only [handOverCommands, List.mem_cons, List.mem_append, List.mem_map, List.not_mem_nil,
    or_false] at hc
  rcases hc with rfl | ⟨a, -, rfl⟩ | rfl | rfl <;> rfl

private theorem countP_isSender_handOverCommands (letter : Mime.Letter) :
    (handOverCommands letter).countP isSender = 1 := by
  simp [handOverCommands, List.countP_cons, List.countP_map, isSender, Function.comp_def]

private theorem countP_isData_handOverCommands (letter : Mime.Letter) :
    (handOverCommands letter).countP isData = 1 := by
  simp [handOverCommands, List.countP_cons, List.countP_map, isData, Function.comp_def]

private theorem IsLoginOf.filter_isHandOver {o : Options} {cs : List Command} (h : IsLoginOf o cs) :
    cs.filter isHandOver = [] := by
  rw [List.filter_eq_nil_iff]
  exact h.forall_of (fun _ _ => nofun) nofun fun _ => nofun

def comeIn (o : Options) (caller : Caller) : Session Capabilities := do
  let c ← Session.hello caller.name
  logInIfAsked o c
  return c

theorem enter_of_plain {o : Options} (ho : o.security = .none) (caller : Caller) :
    enter o caller = Session.receive >>= fun _ => comeIn o caller := by
  simp only [enter, upgradeIfAsked, ho, reduceCtorEq, if_false, comeIn, pure_bind]

theorem takes_comeIn (o : Options) (caller : Caller) :
    Takes (comeIn o caller) fun ts r =>
      ∃ login, IsLoginOf o login ∧ Stays (.hello caller.name :: login) ts r := by
  apply (takes_hello caller.name).bind
  · intro ts e h
    obtain ⟨login, hlogin⟩ := exists_isLoginOf o
    exact ⟨login, hlogin, h.of_error⟩
  · intro ts c h
    apply (takes_logInIfAsked o c).bind
    · rintro us e ⟨login, hlogin, h'⟩
      refine ⟨login, hlogin, ?_⟩
      rw [← List.append_nil (.hello caller.name :: login)]
      exact (h.append h').of_error
    · rintro us ⟨⟩ ⟨login, hlogin, h'⟩
      exact Takes.pure ⟨login, hlogin, by simpa using h.append (h'.ok c)⟩

inductive Opens {α : Type} (Q : List Turn → Except Fault α → Prop) (greeting : Except ReplyFault Reply) :
    List Turn → Except Fault α → Prop
  | refused {e : Fault} : AccountsFor [greeting] (.error e : Except Fault α) → Opens Q greeting [] (.error e)
  | heard {ts : List Turn} {r : Except Fault α} : IsPositive greeting → Q ts r → Opens Q greeting ts r

theorem Takes.exists_opens {α : Type} {s : Session α} {Q : List Turn → Except Fault α → Prop}
    (hs : Takes s Q) {w : Wire} (hw : w.isProtected = false) :
    ∃ x ts, (play (Session.receive >>= fun _ => s) w).2.log =
        w.log ++ .ofReading x :: Turn.transcript false ts ∧
      Opens Q x ts (play (Session.receive >>= fun _ => s) w).1 := by
  have hread : AccountsFor [(readReply w.unread).1] (outcome (readReply w.unread).1) :=
    accountsFor_outcome ⟨_, rfl⟩
  rw [play_bind, play_receive]
  cases hgreeting : outcome (readReply w.unread).1 with
  | error e =>
    rw [hgreeting] at hread
    exact ⟨_, [], rfl, .refused hread.of_error⟩
  | ok reply =>
    obtain ⟨ts, hlog, -, hQ⟩ := hs { w with
      unread := (readReply w.unread).2
      log := w.log ++ [.ofReading (readReply w.unread).1] }
    refine ⟨_, ts, ?_, .heard ((isPositive_iff_outcome _).2 ⟨_, hgreeting⟩) hQ⟩
    rw [hlog, hw, List.append_assoc, List.singleton_append]

def deliveryCommands (caller : Caller) (login : List Command) (letter : Mime.Letter) : List Command :=
  .hello caller.name :: (login ++ handOverCommands letter)

def afterGreeting (o : Options) (caller : Caller) (letter : Mime.Letter) : Session Unit := do
  let c ← Session.hello caller.name
  logInIfAsked o c
  Session.deliver letter c

private theorem enter_deliver_of_plain {o : Options} (ho : o.security = .none) (caller : Caller)
    (letter : Mime.Letter) :
    enter o caller >>= Session.deliver letter =
      Session.receive >>= fun _ => afterGreeting o caller letter := by
  simp only [enter_of_plain ho, comeIn, afterGreeting, bind_assoc, pure_bind]

theorem takes_afterGreeting (o : Options) (caller : Caller) (letter : Mime.Letter) :
    Takes (afterGreeting o caller letter) fun ts r =>
      ∃ login, IsLoginOf o login ∧ Closes (deliveryCommands caller login letter) ts r := by
  have hafter : afterGreeting o caller letter = comeIn o caller >>= Session.deliver letter := by
    simp only [comeIn, afterGreeting, bind_assoc, pure_bind]
  rw [hafter]
  apply (takes_comeIn o caller).bind
  · rintro ts e ⟨login, hlogin, h⟩
    exact ⟨login, hlogin, h.of_error.closes⟩
  · rintro ts c ⟨login, hlogin, h⟩
    exact (takes_deliver letter c).mono fun us r h' => ⟨login, hlogin, h.append_closes h'⟩

/-! ### Records -/

/-- What a client knows of a conversation: the greeting, the turns up to where it stopped, and then its
farewell. -/
structure Record where
  greeting : Except ReplyFault Reply
  turns : List Turn
  farewell : List Turn

namespace Record

def events (x : Record) : List Event :=
  .ofReading x.greeting :: Turn.transcript false (x.turns ++ x.farewell)

def commands (x : Record) : List Command := (x.turns ++ x.farewell).map Turn.command

def answers (x : Record) : List (Except ReplyFault Reply) := x.greeting :: x.turns.map Turn.answer

/-- The letter is handed over once, or a beginning of that is made, and at most one farewell is said. -/
structure Delivers {ε : Type} (x : Record) (o : Options) (caller : Caller) (letter : Mime.Letter)
    (r : Except ε Unit) : Prop where
  farewell : IsFarewell x.farewell
  plan : ∃ login, IsLoginOf o login ∧
    x.turns.map Turn.command <+: deliveryCommands caller login letter ∧
    (r = .ok () → x.turns.map Turn.command = deliveryCommands caller login letter)

/-- Success means that every answer was a positive reply. A failure is the refusal that was read last,
with its code, or else one of the connection, and no refusal was read. -/
structure Explains (x : Record) (r : Except Error Unit) : Prop where
  success : r = .ok () → ∀ y ∈ x.answers, IsPositive y
  failure : ∀ e, r = .error e →
    (∃ reply detail, e = .delivery (.rejected reply.code detail) ∧
      x.answers.getLast? = some (.ok reply) ∧ 400 ≤ reply.code ∧ reply.code < 600 ∧
      (e.isTransient = true ↔ reply.code < 500) ∧
      ((DeliveryFailure.rejected reply.code detail).isPermanent = true ↔ 500 ≤ reply.code)) ∨
    (∃ detail, e = .delivery (.connection detail)) ∧
      ∀ reply, .ok reply ∈ x.answers → reply.isPositive = true

section
variable {x : Record} {o : Options} {caller : Caller} {letter : Mime.Letter} {ε : Type}
  {r : Except ε Unit}

theorem Delivers.mapError {ε' : Type} (h : x.Delivers o caller letter r) (f : ε → ε') :
    x.Delivers o caller letter (r.mapError f) := by
  obtain ⟨login, hlogin, hturns, hall⟩ := h.plan
  exact ⟨h.farewell, login, hlogin, hturns, fun hok => hall (mapError_eq_ok_iff.1 hok)⟩

/-- Of the letter, a beginning is handed over, and nothing twice. -/
theorem Delivers.filter_isHandOver (h : x.Delivers o caller letter r) :
    x.commands.filter isHandOver <+: handOverCommands letter := by
  obtain ⟨login, hlogin, hturns, -⟩ := h.plan
  have hplan : (deliveryCommands caller login letter).filter isHandOver = handOverCommands letter := by
    rw [deliveryCommands, List.filter_cons_of_neg (by simp [isHandOver]), List.filter_append,
      hlogin.filter_isHandOver, filter_handOverCommands, List.nil_append]
  have hfarewell : (x.farewell.map Turn.command).filter isHandOver = [] := by
    rcases h.farewell with hx | ⟨y, hx⟩ <;> rw [hx] <;> rfl
  rw [commands, List.map_append, List.filter_append, hfarewell, List.append_nil, ← hplan]
  exact hturns.filter isHandOver

theorem Delivers.countP_le (h : x.Delivers o caller letter r) {p : Command → Bool}
    (hp : ∀ c, p c = true → isHandOver c = true) :
    x.commands.countP p ≤ (handOverCommands letter).countP p := by
  have hfilter : x.commands.countP p = (x.commands.filter isHandOver).countP p := by
    rw [List.countP_filter]
    refine List.countP_congr fun c _ => ?_
    rw [Bool.and_eq_true]
    exact ⟨fun hc => ⟨hc, hp c hc⟩, And.left⟩
  rw [hfilter]
  exact h.filter_isHandOver.sublist.countP_le

end

theorem explains_of_accountsFor {x : Record} {r : Except Fault Unit} (h : AccountsFor x.answers r) :
    x.Explains ((r.mapError Fault.delivery).mapError .delivery) := by
  constructor
  · intro hr
    obtain rfl := mapError_eq_ok_iff.1 (mapError_eq_ok_iff.1 hr)
    exact h.forall_isPositive
  · intro e he
    obtain ⟨failure, hfailure, rfl⟩ := mapError_eq_error_iff.1 he
    obtain ⟨f, rfl, rfl⟩ := mapError_eq_error_iff.1 hfailure
    cases f with
    | rejected reply =>
      obtain ⟨ys, hanswers, -, hblamed⟩ := h
      obtain ⟨⟨unread, hread⟩, hnegative⟩ := hblamed (.ok reply) rfl
      have hcode := code_of_readReply hread.symm
      have hrefused : 400 ≤ reply.code := by
        rw [← isPositive_eq_false_iff hread.symm]
        simpa [IsPositive] using hnegative
      refine .inl ⟨reply, _, rfl, ?_, hrefused, hcode.2, ?_, ?_⟩
      · rw [hanswers]
        simp [blamed?]
      · simp [Fault.delivery, Error.isTransient, DeliveryFailure.isTransient, hrefused]
      · simp [DeliveryFailure.isPermanent, hcode.2]
    | _ => exact .inr ⟨⟨_, rfl⟩, fun reply => h.isPositive_of_ok (by simp [blamed?])⟩

end Record

theorem exists_record (o : Options) (caller : Caller) (letter : Mime.Letter) {w : Wire}
    (hw : w.isProtected = false) :
    ∃ x : Record,
      (play (Session.receive >>= fun _ => afterGreeting o caller letter) w).2.log = w.log ++ x.events ∧
      x.Delivers o caller letter
        (play (Session.receive >>= fun _ => afterGreeting o caller letter) w).1 ∧
      AccountsFor x.answers
        (play (Session.receive >>= fun _ => afterGreeting o caller letter) w).1 := by
  obtain ⟨x, ts, hlog, hopens⟩ := (takes_afterGreeting o caller letter).exists_opens hw
  rw [hlog]
  generalize (play _ w).1 = r at hopens
  cases hopens with
  | refused h =>
    obtain ⟨login, hlogin⟩ := exists_isLoginOf o
    exact ⟨⟨x, [], []⟩, rfl, ⟨.inl rfl, login, hlogin, List.nil_prefix, by simp⟩, h⟩
  | heard hx h =>
    obtain ⟨login, hlogin, us, vs, rfl, hfollows, hvs⟩ := h
    refine ⟨⟨x, us, vs⟩, rfl, ⟨hvs, login, hlogin, hfollows.ahead, hfollows.complete ()⟩, ?_⟩
    exact hfollows.accounts.append (List.forall_mem_singleton.2 hx)

/-! ### On the network -/

/-- What comes of handing a letter over to a server in the clear: one connection, of which the record
explains the outcome, and a letter that is handed over at most once. -/
structure IsDelivery (o : Options) (caller : Caller) (letter : Mime.Letter) (net : Network)
    (result : Except Error Unit × Network) : Prop where
  dials : result.2.dials = net.dials ++ [(o.host, o.port)]
  absent : net.scriptAt? o.host o.port = none →
    result.2.log = net.log ∧ ∃ detail, result.1 = .error (.delivery (.connection detail))
  present : ∀ replies, net.scriptAt? o.host o.port = some replies →
    ∃ x : Record, result.2.log = net.log ++ x.events ∧ x.Delivers o caller letter result.1 ∧
      x.Explains result.1 ∧ x.commands.countP isSender ≤ 1 ∧ x.commands.countP isData ≤ 1

/-- Whatever the server replies, what a client in the clear makes of handing over a letter is explained by
the replies it has read, and nothing is tried twice. -/
theorem isDelivery_of_client {o : Options} {caller : Caller} {c : Client Network} {m : Message}
    {letter : Mime.Letter} (hclient : client o caller = .ok c) (ho : o.security = .none)
    (hletter : Mime.Letter.ofMessage m caller.date = .ok letter) (net : Network) :
    IsDelivery o caller letter net (c.deliver m net) := by
  obtain ⟨-, rfl⟩ := Client.create_eq_ok_iff.1 hclient
  rw [deliver_of_client hletter]
  refine ⟨dials_converse .., ?_, ?_⟩
  · intro hscript
    rw [converse_of_absent hscript]
    exact ⟨rfl, _, rfl⟩
  · intro replies hscript
    obtain ⟨x, hlog, hdelivers, haccounts⟩ :=
      exists_record o caller letter (w := Wire.connect replies net.canProtect) rfl
    rw [converse_of_present hscript, enter_deliver_of_plain ho]
    refine ⟨x, ?_, (hdelivers.mapError _).mapError _, Record.explains_of_accountsFor haccounts, ?_, ?_⟩
    · exact congrArg (net.log ++ ·) hlog
    · rw [← countP_isSender_handOverCommands letter]
      exact hdelivers.countP_le fun _ => isHandOver_of_isSender
    · rw [← countP_isData_handOverCommands letter]
      exact hdelivers.countP_le fun _ => isHandOver_of_isData

def loginOptions : Options :=
  { (default : Options) with auth := true, user := some "me", password := some "secret" }

def busyServer : Network where
  listener := some ⟨[Options.defaultHost], 25, ["220 hi", "250-mx\r\n250 AUTH LOGIN",
    "334 VXNlcm5hbWU6", "334 UGFzc3dvcmQ6", "235 welcome", "250 ok", "250 ok", "451 later",
    "221 bye"].map String.toList⟩

/-- The refusal comes through with its code, after a login and one of three recipients. -/
theorem busyServer_isDelivery :
    ∃ c letter, client loginOptions ⟨"client", ""⟩ = .ok c ∧ loginOptions.security = .none ∧
      Mime.Letter.ofMessage circular "" = .ok letter ∧
      (c.deliver circular busyServer).1 =
        .error (.delivery (.rejected 451 "transient error (451): later")) ∧
      IsDelivery loginOptions ⟨"client", ""⟩ letter busyServer (c.deliver circular busyServer) := by
  have hclient : client loginOptions ⟨"client", ""⟩ =
      .ok ⟨loginOptions, transport loginOptions ⟨"client", ""⟩⟩ := rfl
  have hwritten : (Mime.Letter.ofMessage circular "").isOk = true := by decide +kernel
  cases hletter : Mime.Letter.ofMessage circular "" with
  | error f =>
    rw [hletter] at hwritten
    cases hwritten
  | ok letter =>
    refine ⟨_, letter, hclient, rfl, rfl, by decide +kernel, ?_⟩
    exact isDelivery_of_client hclient rfl hletter busyServer

end Mailroom.Smtp
