import Mailroom.Proofs.Smtp.Credentials

/-! What a check finds out about a server: whether the client gets in, and whether the server then answers. Nothing
is handed over for that. -/
namespace Mailroom.Smtp

def checkCommands (caller : Caller) (login : List Command) : List Command :=
  .hello caller.name :: (login ++ [.noop, .quit])

namespace Record

/-- How a check goes: the client does not get in, or it gets in, asks for an answer and takes leave. What comes of
that depends on the last two answers only. -/
inductive Visits (x : Record) (o : Options) (caller : Caller) : Except Fault Bool → Prop
  | refused {login : List Command} {e : Fault} : IsLoginOf o login →
    x.turns.map Turn.command <+: .hello caller.name :: login →
      AccountsFor x.answers (.error e : Except Fault Bool) → IsFarewell x.farewell →
        Visits x o caller (.error e)
  | admitted {login : List Command} {before : List Turn} {answer leave : Except ReplyFault Reply} :
    IsLoginOf o login → before.map Turn.command = .hello caller.name :: login →
      (∀ y ∈ x.greeting :: before.map Turn.answer, IsPositive y) →
        x.turns = before ++ [⟨.noop, answer⟩, ⟨.quit, leave⟩] → IsReading leave →
          IsFarewell x.farewell → (IsPositive leave → x.farewell = []) →
            Visits x o caller ((outcome leave).map fun _ => (outcome answer).isOk)

/-- What the result of a check tells about the answers. There is a result if the server goes along with the farewell;
then it has let the client in, and the result is whether it has answered. A second farewell is said only where there
is none. -/
structure Tells {ε : Type} (x : Record) (o : Options) (caller : Caller) (r : Except ε Bool) : Prop where
  farewell : IsFarewell x.farewell
  plan : ∃ login, IsLoginOf o login ∧ x.turns.map Turn.command <+: checkCommands caller login ∧
    ∀ b, r = .ok b → x.turns.map Turn.command = checkCommands caller login ∧ x.farewell = []
  answered : (∃ b, r = .ok b) ↔ ∃ t ∈ x.turns, t.command = .quit ∧ IsPositive t.answer
  accepted : r = .ok true → ∀ y ∈ x.answers, IsPositive y
  declined : r = .ok false → IsPositive x.greeting ∧ ∀ t ∈ x.turns, IsPositive t.answer ↔ t.command ≠ .noop
  login : ∀ t ∈ x.turns, isLoginPart t.command = true → ¬IsPositive t.answer → ∃ e, r = .error e
  noMail : ∀ k ∈ x.commands, isHandOver k = false

def heeded (x : Record) : Record := { x with turns := x.turns.filter (·.command ≠ .noop) }

end Record

variable {o : Options} {caller : Caller} {x : Record} {login : List Command}

/-! ### The way of a check -/

/-- The commands that get a client in are others than those that follow. -/
private theorem IsLoginOf.forall_ne (h : IsLoginOf o login) :
    ∀ k ∈ .hello caller.name :: login, k ≠ .noop ∧ k ≠ .quit ∧ isHandOver k = false :=
  List.forall_mem_cons.2 ⟨⟨nofun, nofun, rfl⟩,
    h.forall_of (fun _ _ => ⟨nofun, nofun, rfl⟩) ⟨nofun, nofun, rfl⟩ fun _ => ⟨nofun, nofun, rfl⟩⟩

theorem takes_check (o : Options) (caller : Caller) : Takes (comeIn o caller >>= Session.probe)
    fun ts r => ∃ us vs, ts = us ++ vs ∧ ∀ x, IsPositive x → Record.Visits ⟨x, us, vs⟩ o caller r := by
  apply (takes_comeIn o caller).bind
  · rintro ts e ⟨login, hlogin, us, vs, rfl, hfollows, hvs, -⟩
    refine ⟨us, vs, rfl, fun x hx => .refused hlogin hfollows.ahead ?_ hvs⟩
    exact hfollows.accounts.of_error.append (List.forall_mem_singleton.2 hx)
  · rintro ts c ⟨login, hlogin, hstays⟩
    have hfollows := hstays.follows
    refine (takes_probe c).mono ?_
    rintro _ r ⟨answer, leave, vs, rfl, hread, hvs, hnone, rfl⟩
    refine ⟨ts ++ [⟨.noop, answer⟩, ⟨.quit, leave⟩], vs, by simp, fun x hx => ?_⟩
    exact .admitted hlogin (hfollows.complete c rfl)
      (List.forall_mem_cons.2 ⟨hx, hfollows.accounts.forall_isPositive⟩) rfl hread hvs hnone

private theorem exists_visits (o : Options) (caller : Caller) {w : Wire}
    (hw : w.isProtected = false) :
    ∃ x : Record,
      (play (Session.receive >>= fun _ => comeIn o caller >>= Session.probe) w).2.log = w.log ++ x.events ∧
      x.Visits o caller (play (Session.receive >>= fun _ => comeIn o caller >>= Session.probe) w).1 := by
  obtain ⟨x, ts, hlog, hopens⟩ := (takes_check o caller).exists_opens hw
  rw [hlog]
  generalize (play _ w).1 = r at hopens
  cases hopens with
  | refused h =>
    obtain ⟨login, hlogin⟩ := exists_isLoginOf o
    exact ⟨⟨x, [], []⟩, rfl, .refused hlogin List.nil_prefix h (.inl rfl)⟩
  | heard hx h =>
    obtain ⟨us, vs, rfl, hvisits⟩ := h
    exact ⟨⟨x, us, vs⟩, rfl, hvisits x hx⟩

/-! ### What it tells -/

/-- What comes of the last two answers. -/
theorem visited_eq_ok_iff {answer leave : Except ReplyFault Reply} {b : Bool} :
    ((outcome leave).map fun _ => (outcome answer).isOk) = .ok b ↔
      IsPositive leave ∧ (IsPositive answer ↔ b = true) := by
  rw [map_eq_ok_iff, isPositive_iff_outcome leave]
  constructor
  · rintro ⟨r, hr, rfl⟩
    exact ⟨⟨r, hr⟩, isOk_outcome_iff.symm⟩
  · rintro ⟨⟨r, hr⟩, hb⟩
    exact ⟨r, hr, by rw [Bool.eq_iff_iff, isOk_outcome_iff, hb]⟩

namespace Record

variable {r : Except Fault Bool}

private theorem Visits.exists_plan (h : x.Visits o caller r) :
    ∃ login, IsLoginOf o login ∧ x.turns.map Turn.command <+: checkCommands caller login := by
  cases h with
  | refused hlogin hturns => exact ⟨_, hlogin, hturns.trans (List.prefix_append _ _)⟩
  | admitted hlogin hbefore _ hturns =>
    refine ⟨_, hlogin, ?_⟩
    rw [hturns, List.map_append, hbefore]
    exact List.prefix_refl _

theorem Visits.farewell (h : x.Visits o caller r) : IsFarewell x.farewell := by
  cases h with
  | refused _ _ _ hfarewell => exact hfarewell
  | admitted _ _ _ _ _ hfarewell => exact hfarewell

theorem Visits.complete (h : x.Visits o caller r) {b : Bool} (hr : r = .ok b) :
    ∃ login, IsLoginOf o login ∧ x.turns.map Turn.command = checkCommands caller login ∧ x.farewell = [] := by
  cases h with
  | refused => cases hr
  | admitted hlogin hbefore _ hturns _ _ hnone =>
    refine ⟨_, hlogin, ?_, hnone (visited_eq_ok_iff.1 hr).1⟩
    rw [hturns, List.map_append, hbefore]
    rfl

theorem Visits.answered_iff (h : x.Visits o caller r) :
    (∃ b, r = .ok b) ↔ ∃ t ∈ x.turns, t.command = .quit ∧ IsPositive t.answer := by
  cases h with
  | refused hlogin hturns =>
    -- the turns end before the client asks for an answer; what leave it takes then is its farewell
    refine iff_of_false (fun ⟨_, hok⟩ => nomatch hok) ?_
    rintro ⟨t, ht, hquit, -⟩
    exact (hlogin.forall_ne _ (hturns.subset (List.mem_map_of_mem ht))).2.1 hquit
  | admitted hlogin hbefore _ hturns =>
    simp only [visited_eq_ok_iff, hturns, List.mem_append, List.mem_cons, List.not_mem_nil, or_false]
    constructor
    · rintro ⟨b, hleave, -⟩
      exact ⟨_, .inr (.inr rfl), rfl, hleave⟩
    · rintro ⟨t, ht | rfl | rfl, hquit, hpositive⟩
      · exact absurd hquit (hlogin.forall_ne _ (hbefore ▸ List.mem_map_of_mem ht)).2.1
      · cases hquit
      · exact ⟨_, hpositive, isOk_outcome_iff.symm⟩

/-- Where there is a result, only the server that does not answer has refused anything. -/
theorem Visits.told (h : x.Visits o caller r) {b : Bool} (hr : r = .ok b) :
    IsPositive x.greeting ∧ ∀ t ∈ x.turns, IsPositive t.answer ↔ t.command ≠ .noop ∨ b = true := by
  cases h with
  | refused => cases hr
  | admitted hlogin hbefore hpositive hturns =>
    obtain ⟨hleave, hanswer⟩ := visited_eq_ok_iff.1 hr
    obtain ⟨hgreeting, hpositive⟩ := List.forall_mem_cons.1 hpositive
    refine ⟨hgreeting, ?_⟩
    simp only [hturns, List.mem_append, List.mem_cons, List.not_mem_nil, or_false]
    rintro t (ht | rfl | rfl)
    · exact iff_of_true (hpositive _ (List.mem_map_of_mem ht))
        (.inl (hlogin.forall_ne _ (hbefore ▸ List.mem_map_of_mem ht)).1)
    · simpa using hanswer
    · simpa using hleave

theorem Visits.noMail (h : x.Visits o caller r) : ∀ k ∈ x.commands, isHandOver k = false := by
  obtain ⟨login, hlogin, hahead⟩ := h.exists_plan
  rw [commands, List.map_append]
  refine List.forall_mem_append.2 ⟨fun k hk => ?_, fun k hk => ?_⟩
  · have hplan : ∀ k ∈ (.hello caller.name :: login) ++ [.noop, .quit], isHandOver k = false :=
      List.forall_mem_append.2 ⟨fun k hk => (hlogin.forall_ne k hk).2.2, by decide⟩
    exact hplan k (hahead.subset hk)
  · obtain ⟨t, ht, rfl⟩ := List.mem_map.1 hk
    rw [h.farewell.command_eq ht]
    rfl

theorem Visits.tells (h : x.Visits o caller r) : x.Tells o caller r where
  farewell := h.farewell
  plan := by
    cases r with
    | error e =>
      obtain ⟨login, hlogin, hahead⟩ := h.exists_plan
      exact ⟨login, hlogin, hahead, nofun⟩
    | ok b =>
      obtain ⟨login, hlogin, hcommands, hfarewell⟩ := h.complete rfl
      exact ⟨login, hlogin, hcommands ▸ List.prefix_refl _, fun _ _ => ⟨hcommands, hfarewell⟩⟩
  answered := h.answered_iff
  accepted hr := by
    obtain ⟨hgreeting, htold⟩ := h.told hr
    exact List.forall_mem_cons.2 ⟨hgreeting, List.forall_mem_map.2 fun t ht => (htold t ht).2 (.inr rfl)⟩
  declined hr := by simpa using h.told hr
  login t ht hlogin hnegative := by
    cases r with
    | error e => exact ⟨e, rfl⟩
    | ok b =>
      refine absurd (((h.told rfl).2 t ht).2 (.inl fun hnoop => ?_)) hnegative
      rw [hnoop] at hlogin
      cases hlogin
  noMail := h.noMail

theorem Tells.mapError {ε ε' : Type} {r : Except ε Bool} (h : x.Tells o caller r) (f : ε → ε') :
    x.Tells o caller (r.mapError f) := by
  obtain ⟨login, hlogin, hahead, hall⟩ := h.plan
  refine ⟨h.farewell, ⟨login, hlogin, hahead, fun b hb => hall b (mapError_eq_ok_iff.1 hb)⟩, ?_,
    fun hr => h.accepted (mapError_eq_ok_iff.1 hr), fun hr => h.declined (mapError_eq_ok_iff.1 hr), ?_, h.noMail⟩
  · simp only [mapError_eq_ok_iff, h.answered]
  · intro t ht hlogin hnegative
    obtain ⟨e, rfl⟩ := h.login t ht hlogin hnegative
    exact ⟨f e, rfl⟩

theorem Visits.accountsFor (h : x.Visits o caller r) : AccountsFor x.heeded.answers (r.map fun _ => ()) := by
  -- only the question is left out
  have hkept {ts : List Turn} {login : List Command} (hlogin : IsLoginOf o login)
      (hts : ∀ t ∈ ts, t.command ∈ .hello caller.name :: login) :
      ts.filter (·.command ≠ .noop) = ts :=
    List.filter_eq_self.2 fun t ht => decide_eq_true (hlogin.forall_ne _ (hts t ht)).1
  cases h with
  | refused hlogin hturns haccounts =>
    have hsame : x.heeded = x := by
      rw [heeded, hkept hlogin fun t ht => hturns.subset (List.mem_map_of_mem ht)]
    rw [hsame]
    exact haccounts.map _
  | @admitted _ before _ leave hlogin hbefore hpositive hturns hread =>
    have hanswers : x.heeded.answers = (x.greeting :: before.map Turn.answer) ++ [leave] := by
      rw [answers, heeded, hturns, List.filter_append,
        hkept hlogin fun t ht => hbefore ▸ List.mem_map_of_mem ht]
      simp
    rw [hanswers]
    exact (((accountsFor_outcome hread).append hpositive).map _).map _

end Record

/-! ### On the network -/

/-- What comes of checking a server in the clear: one connection, of which the record tells what the result means.
An error is explained by the replies that had to be positive, as for a delivery. -/
structure IsCheck (o : Options) (caller : Caller) (net : Network) (result : Except Error Bool × Network) :
    Prop where
  dials : result.2.dials = net.dials ++ [(o.host, o.port)]
  absent : net.scriptAt? o.host o.port = none →
    result.2.log = net.log ∧ ∃ detail, result.1 = .error (.delivery (.connection detail))
  present : ∀ replies, net.scriptAt? o.host o.port = some replies →
    ∃ x : Record, result.2.log = net.log ++ x.events ∧ x.Tells o caller result.1 ∧
      x.heeded.Explains (result.1.map fun _ => ())

/-- Whatever the server replies, what a client in the clear makes of checking it is told by the replies. -/
theorem isCheck_of_client {c : Client Network} (hclient : client o caller = .ok c)
    (ho : o.security = .none) (net : Network) : IsCheck o caller net (c.check net) := by
  obtain ⟨-, rfl⟩ := Client.create_eq_ok_iff.1 hclient
  have hcheck : Client.check ⟨o, transport o caller⟩ net =
      (asResult (converse o caller Session.probe net).1, (converse o caller Session.probe net).2) := rfl
  rw [hcheck]
  refine ⟨dials_converse .., ?_, ?_⟩
  · intro hscript
    rw [converse_of_absent hscript]
    exact ⟨rfl, _, rfl⟩
  · intro replies hscript
    obtain ⟨x, hlog, hvisits⟩ := exists_visits o caller (w := Wire.connect replies net.canProtect) rfl
    rw [converse_of_present hscript, enter_of_plain ho, bind_assoc]
    refine ⟨x, congrArg (net.log ++ ·) hlog, (hvisits.tells.mapError _).mapError _, ?_⟩
    rw [← asResult_map]
    exact Record.explains_of_accountsFor hvisits.accountsFor

end Mailroom.Smtp
