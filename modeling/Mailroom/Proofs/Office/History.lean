import Mailroom.Proofs.Office.Steps

/-! What the outboxes of an office hold, told from what was asked of it and what it answered. -/
namespace Mailroom.Office

def hired (history : List Entry) : List (Options × Nat) := history.reverse.filterMap Entry.hired?

/-- The messages that came to an outbox with success since it was last cleared, the first one first. -/
def delivered (i : Nat) : List Entry → List Message
  | [] => []
  | e :: earlier =>
    if e.step = .clear i then []
    else if e.step.outbox? (hired earlier) = some i ∧ e.answer = .done then
      delivered i earlier ++ e.step.message?.toList
    else delivered i earlier

/-- The failure that was last set for an outbox, if no message has come to it since. -/
def primed (i : Nat) : List Entry → Option DeliveryFailure
  | [] => none
  | e :: earlier =>
    match e.step with
    | .failNext j failure => if j = i then some failure else primed i earlier
    | step =>
      if step.outbox? (hired earlier) = some i ∧ step.message?.isSome then none
      else primed i earlier

def told (history : List Entry) (i : Nat) : Outbox :=
  { sent := delivered i history, pending := primed i history }

/-- The state of an office is what its history tells. -/
structure Course.IsKept (count : Nat) (c : Course) : Prop where
  outboxes : c.office.outboxes = (List.range count).map (told c.history)
  clients : c.office.clients = hired c.history
  isSound : c.office.IsSound

@[simp] theorem hired_cons (e : Entry) (history : List Entry) :
    hired (e :: history) = hired history ++ e.hired?.toList := by
  cases h : e.hired? <;> simp [hired, h]

section
variable {s : Step} {answer : Answer} {history : List Entry} {i : Nat}

/-- A request that is addressed elsewhere does not count. -/
private theorem told_cons_of_elsewhere (hs : s.outbox? (hired history) ≠ some i) :
    told (⟨s, answer⟩ :: history) i = told history i := by
  have hclear : s ≠ .clear i := by
    rintro rfl
    exact hs rfl
  have hprimed : primed i (⟨s, answer⟩ :: history) = primed i history := by
    cases s with
    | failNext j failure => exact if_neg fun hj => hs (congrArg some hj)
    | _ => simp only [primed, hs, false_and, if_false]
  simp only [told, delivered, hclear, hs, false_and, if_false, hprimed]

/-- Nor does one that neither brings a message nor sets anything. -/
private theorem told_cons_of_silent (hm : s.message? = none) (hclear : s ≠ .clear i)
    (hfail : ∀ failure, s ≠ .failNext i failure) :
    told (⟨s, answer⟩ :: history) i = told history i := by
  have hprimed : primed i (⟨s, answer⟩ :: history) = primed i history := by
    cases s with
    | failNext j failure =>
      refine if_neg ?_
      rintro rfl
      exact hfail failure rfl
    | _ => simp [primed, hm]
  simp only [told, delivered, hclear, hm, Option.toList_none, List.append_nil, ite_self, if_false, hprimed]

/-- A message that comes to an outbox uses up the failure that waits there, or else is kept. -/
private theorem told_cons_of_message {m : Message} (haddressed : s.outbox? (hired history) = some i)
    (hm : s.message? = some m) (hfailure : answer.failure? = primed i history)
    (hdone : primed i history = none → answer = .done) :
    told (⟨s, answer⟩ :: history) i = ((told history i).deliver m).2 := by
  have hclear : s ≠ .clear i := by
    rintro rfl
    cases hm
  have hused : primed i (⟨s, answer⟩ :: history) = none := by
    cases s with
    | failNext j failure => cases hm
    | _ => simp [primed, haddressed, hm]
  cases hprimed : primed i history with
  | none =>
    rw [hdone hprimed] at hused ⊢
    simp [told, delivered, Outbox.deliver, hclear, haddressed, hm, hused, hprimed]
  | some failure =>
    -- the answer is the failure, so the message does not count as delivered
    have hundone : answer ≠ .done := by
      rintro rfl
      rw [hprimed] at hfailure
      cases hfailure
    simp [told, delivered, Outbox.deliver, hclear, haddressed, hused, hprimed, hundone]

private theorem told_cons_failNext (failure : DeliveryFailure) :
    told (⟨.failNext i failure, answer⟩ :: history) i = (told history i).failNext failure := by
  simp [told, delivered, primed, Step.message?, Outbox.failNext]

private theorem told_cons_clear :
    told (⟨.clear i, answer⟩ :: history) i = (told history i).clear := by
  simp [told, delivered, primed, Step.message?, Outbox.clear]

private theorem getElem?_told {count : Nat} {box : Outbox} :
    ((List.range count).map (told history))[i]? = some box ↔ i < count ∧ told history i = box := by
  by_cases hi : i < count
  · simp [hi]
  · simp [hi]

/-- A change that is told of the outbox to which a request is addressed is told of all of them. -/
private theorem modify_told {count : Nat} {change : Outbox → Outbox}
    (haddressed : s.outbox? (hired history) = some i)
    (hchange : told (⟨s, answer⟩ :: history) i = change (told history i)) :
    ((List.range count).map (told history)).modify i change =
      (List.range count).map (told (⟨s, answer⟩ :: history)) := by
  apply List.ext_getElem?
  intro j
  by_cases hij : i = j
  · subst hij
    by_cases hi : i < count
    · simp [hi, hchange]
    · simp [hi]
  · have hj : told (⟨s, answer⟩ :: history) j = told history j :=
      told_cons_of_elsewhere (by simpa [haddressed] using hij)
    by_cases hcount : j < count
    · simp [hij, hcount, hj]
    · simp [hcount]

end

/-- What a request does to the outboxes is what the history tells of it. -/
theorem Does.outboxes_eq {office : Office} {s : Step} {result : Answer × Office} {count : Nat}
    {history : List Entry} (h : Does office s result)
    (houtboxes : office.outboxes = (List.range count).map (told history))
    (hclients : office.clients = hired history) :
    result.2.outboxes = (List.range count).map (told (⟨s, result.1⟩ :: history)) := by
  cases h with
  | brings haddressed hbox hm hfailure hdone =>
    rw [houtboxes] at hbox
    obtain ⟨-, rfl⟩ := getElem?_told.1 hbox
    rw [hclients] at haddressed
    simp only [update, houtboxes]
    exact modify_told haddressed (told_cons_of_message haddressed hm hfailure hdone)
  | hires hs hi =>
    subst hs
    rw [houtboxes]
    exact List.map_congr_left fun j _ => (told_cons_of_elsewhere (by simp [Step.outbox?])).symm
  | primes hs hi =>
    subst hs
    simp only [update, houtboxes]
    exact modify_told rfl (told_cons_failNext _)
  | clears hs hi =>
    subst hs
    simp only [update, houtboxes]
    exact modify_told rfl told_cons_clear
  | idles hdone hfailure hs =>
    rw [houtboxes]
    refine List.map_congr_left fun j hj => ?_
    by_cases haddressed : s.outbox? (hired history) = some j
    · obtain ⟨hm, hclear, hfail⟩ := hs j (by simpa [houtboxes] using hj) (hclients ▸ haddressed)
      exact (told_cons_of_silent hm hclear hfail).symm
    · exact (told_cons_of_elsewhere haddressed).symm

/-- One more request leaves the state as the history tells, with that request in it. -/
theorem Course.IsKept.take {count : Nat} {c : Course} (h : c.IsKept count) (s : Step) :
    (c.take s).IsKept count := by
  have hdoes := does_step h.isSound s
  exact {
    outboxes := hdoes.outboxes_eq h.outboxes h.clients
    clients := by
      rw [Course.take, hdoes.clients_eq, h.clients]
      exact (hired_cons _ _).symm
    isSound := hdoes.isSound h.isSound }

private theorem Course.isKept_nil (count : Nat) : (Course.run count []).IsKept count where
  outboxes := by
    have htold : told [] = fun _ => {} := rfl
    simp [Course.run, withOutboxes, htold, List.map_const']
  clients := rfl
  isSound := nofun

theorem Course.IsKept.foldl {count : Nat} {c : Course} (h : c.IsKept count) (steps : List Step) :
    (steps.foldl Course.take c).IsKept count := by
  induction steps generalizing c with
  | nil => exact h
  | cons s steps ih => exact ih (h.take s)

structure Course.Meets (count : Nat) (c : Course) (s : Step) : Prop where
  /-- A failure comes exactly to who brings a message to an outbox for which it waits. -/
  failure_iff : ∀ failure, (c.office.step s).1.failure? = some failure ↔
    ∃ i < count, s.outbox? (hired c.history) = some i ∧ s.message?.isSome ∧
      primed i c.history = some failure
  /-- A client is taken on if it has an outbox and its options are without problems. -/
  hired_iff : ∀ o i, s = .hire o i →
    ((c.office.step s).1 = .done ↔ i < count ∧ o.problems = [])
  /-- Where no failure waits, a message is delivered. -/
  done : ∀ i < count, s.outbox? (hired c.history) = some i → s.message?.isSome →
    primed i c.history = none → (c.office.step s).1 = .done
  /-- What is refused for another reason changes nothing. -/
  refused : ∀ e, (c.office.step s).1 = .refused e → (c.office.step s).1.failure? = none →
    (c.office.step s).2 = c.office
  /-- No other outbox is changed. -/
  elsewhere : ∀ i, s.outbox? (hired c.history) ≠ some i →
    (c.office.step s).2.outboxes[i]? = c.office.outboxes[i]?
  /-- No client is changed. -/
  members_prefix : c.office.members <+: (c.office.step s).2.members
  /-- What a client composes and delivers has a recipient. -/
  sent : ∀ k sender recipients subject text format,
    s = .send k sender recipients subject text format → ∀ (i : Nat) box box',
      c.office.outboxes[i]? = some box → (c.office.step s).2.outboxes[i]? = some box' →
        ∃ ms, box'.sent = box.sent ++ ms ∧ ∀ m ∈ ms, m.allRecipients ≠ []

theorem Course.IsKept.getElem?_outboxes {count : Nat} {c : Course} (h : c.IsKept count) {i : Nat}
    {box : Outbox} :
    c.office.outboxes[i]? = some box ↔ i < count ∧ told c.history i = box := by
  rw [h.outboxes, getElem?_told]

theorem Course.IsKept.meets {count : Nat} {c : Course} (h : c.IsKept count) (s : Step) :
    c.Meets count s := by
  have hdoes := does_step h.isSound s
  constructor
  · intro failure
    rw [hdoes.failure?_eq_some_iff]
    constructor
    · rintro ⟨i, box, m, haddressed, hbox, hm, hpending⟩
      obtain ⟨hi, rfl⟩ := h.getElem?_outboxes.1 hbox
      exact ⟨i, hi, h.clients ▸ haddressed, by simp [hm], hpending⟩
    · rintro ⟨i, hi, haddressed, hm, hprimed⟩
      obtain ⟨m, hm⟩ := Option.isSome_iff_exists.1 hm
      exact ⟨i, _, m, h.clients ▸ haddressed, h.getElem?_outboxes.2 ⟨hi, rfl⟩, hm, hprimed⟩
  · rintro o i rfl
    simpa [h.outboxes] using c.office.step_hire_eq_done_iff o i
  · intro i hi haddressed hm hprimed
    obtain ⟨m, hm⟩ := Option.isSome_iff_exists.1 hm
    exact hdoes.eq_done (h.clients ▸ haddressed) (h.getElem?_outboxes.2 ⟨hi, rfl⟩) hm hprimed
  · exact fun e he hfailure => hdoes.eq_of_refused he hfailure
  · exact fun i hi => hdoes.elsewhere (h.clients ▸ hi)
  · exact hdoes.members_prefix
  · rintro k sender recipients subject text format rfl i box box' hbox hbox'
    exact hdoes.recipients_of_send hbox hbox'

/-- Through any course of requests, each outbox holds what came to it with success since it was last
cleared, and a failure that was set for it waits until a message comes to it and is told then, once. -/
theorem Course.isKept_run (count : Nat) (steps : List Step) :
    (run count steps).IsKept count ∧ ∀ s, (run count steps).Meets count s := by
  have h : (run count steps).IsKept count := (isKept_nil count).foldl steps
  exact ⟨h, h.meets⟩

/-- A failure outlasts a refused request and a cleared outbox, and is told once. -/
example : ((Course.run 1 [.hire default 0, .failNext 0 (.connection "down"),
    .send 0 "me@example.com" (.list ["a"]) "Hi" "Body" .plain, .clear 0,
    .send 0 "me@example.com" (.list ["a@example.com"]) "Hi" "Body" .plain,
    .send 0 "me@example.com" (.list ["a@example.com"]) "Hi" "Body" .plain]).history.map
      Entry.answer).reverse =
    [.done, .done, .refused (.invalidAddress ⟨"a", .noSign⟩), .done,
      .refused (.delivery (.connection "down")), .done] := by decide +kernel

end Mailroom.Office
