import Mailroom.Proofs.Options.Requests
import Mailroom.Proofs.Properties.Merging

/-! The order of requests. Options are told by what was asked for last in each respect, so requests about
different things can change places. -/
namespace Mailroom.Options.Draft

/-- What a request is about. A property is about its key, without the blanks around it. -/
inductive Subject where
  | protocol
  | port
  | starttls
  | credentials
  | timeout
  | property (key : String)
  deriving DecidableEq

namespace Request

def subject : Request → Subject
  | .protocol _ => .protocol
  | .port _ => .port
  | .starttls _ => .starttls
  | .credentials .. => .credentials
  | .timeout _ => .timeout
  | .property key _ => .property (Text.trim key)

def value? (k : String) : Request → Option String
  | .property key value => if Text.trim key = k then some (Text.trim value) else none
  | _ => none

/-- In each respect, a request asks for something only if it is about that. -/
structure KeepsToSubject (r : Request) : Prop where
  protocol : r.protocol? ≠ none → r.subject = .protocol
  port : r.port? ≠ none → r.subject = .port
  starttls : r.starttls? ≠ none → r.subject = .starttls
  credentials : r.credentials? ≠ none → r.subject = .credentials
  timeout : r.timeout? ≠ none → r.subject = .timeout
  value : ∀ k, r.value? k ≠ none → r.subject = .property k

end Request

/-- The options are what the requests come to. The upgrade, and the port that was not asked for, follow the
protocol that was asked for last, whenever that was. -/
structure IsAskedFor (host : String) (requests : List Request) (o : Options) : Prop where
  host : o.host = host
  protocol : o.protocol = (lastAsked? Request.protocol? requests).getD .smtp
  starttls : o.starttls = true ↔
    o.protocol = .smtp ∧ lastAsked? Request.starttls? requests = some true
  port : o.port = (lastAsked? Request.port? requests).getD o.security.defaultPort
  auth : o.auth = true ↔ lastAsked? Request.credentials? requests ≠ none
  user : o.user = (lastAsked? Request.credentials? requests).map (·.1)
  password : o.password = (lastAsked? Request.credentials? requests).map (·.2)
  timeout : o.timeout = (lastAsked? Request.timeout? requests).elim defaultTimeout Duration.roundUp
  extra : ∀ k v, o.extra.get? k = some v ↔ k ≠ "" ∧ lastAsked? (Request.value? k) requests = some v

/-- The same is asked for last in each respect, and for each key that is not blank. -/
structure EndAlike (requests requests' : List Request) : Prop where
  protocol : lastAsked? Request.protocol? requests = lastAsked? Request.protocol? requests'
  port : lastAsked? Request.port? requests = lastAsked? Request.port? requests'
  starttls : lastAsked? Request.starttls? requests = lastAsked? Request.starttls? requests'
  credentials : lastAsked? Request.credentials? requests = lastAsked? Request.credentials? requests'
  timeout : lastAsked? Request.timeout? requests = lastAsked? Request.timeout? requests'
  value : ∀ k, k ≠ "" →
    lastAsked? (Request.value? k) requests = lastAsked? (Request.value? k) requests'

variable {host : String} {requests requests' before after : List Request} {r r' : Request}
  {o o' : Options} {α : Type}

/-! ### What requests come to -/

private theorem lastValue?_askedProperties (k : String) (requests : List Request) :
    PropertyBag.lastValue? k (askedProperties requests) = lastAsked? (Request.value? k) requests := by
  simp only [PropertyBag.lastValue?, askedProperties, lastAsked?, ← List.filterMap_reverse,
    ← List.head?_filterMap, List.filterMap_filterMap]
  refine congrArg (fun find => (requests.reverse.filterMap find).head?) (funext fun r => ?_)
  cases r <;> rfl

theorem isAskedFor_finish (host : String) (requests : List Request) :
    IsAskedFor host requests (ofRequests host requests).finish := by
  rw [ofRequests_eq]
  refine ⟨rfl, rfl, ?_, rfl, ?_, rfl, rfl, ?_, ?_⟩
  · cases lastAsked? Request.starttls? requests <;> simp [finish, and_comm]
  · cases lastAsked? Request.credentials? requests <;> simp [finish]
  · cases lastAsked? Request.timeout? requests <;> rfl
  · intro k v
    rw [← lastValue?_askedProperties]
    exact PropertyBag.get?_ofPairs_eq_some_iff

/-- The requests come to one thing. -/
theorem IsAskedFor.unique (h : IsAskedFor host requests o) (h' : IsAskedFor host requests o') : o = o' := by
  have hprotocol : o.protocol = o'.protocol := h.protocol.trans h'.protocol.symm
  have hstarttls : o.starttls = o'.starttls := by
    rw [Bool.eq_iff_iff, h.starttls, h'.starttls, hprotocol]
  have hport : o.port = o'.port := by
    rw [h.port, h'.port, security, security, hprotocol, hstarttls]
  have hauth : o.auth = o'.auth := by rw [Bool.eq_iff_iff, h.auth, h'.auth]
  have hextra : o.extra = o'.extra := by
    apply PropertyBag.ext_get?
    intro k
    apply Option.ext
    intro v
    rw [h.extra, h'.extra]
  cases o
  cases o'
  simp only [Options.mk.injEq]
  exact ⟨hprotocol, h.host.trans h'.host.symm, hport, hstarttls, hauth, h.user.trans h'.user.symm,
    h.password.trans h'.password.symm, h.timeout.trans h'.timeout.symm, hextra⟩

theorem finish_eq_iff_isAskedFor : (ofRequests host requests).finish = o ↔ IsAskedFor host requests o := by
  constructor
  · rintro rfl
    exact isAskedFor_finish host requests
  · exact (isAskedFor_finish host requests).unique

theorem EndAlike.isAskedFor (h : EndAlike requests requests') (ho : IsAskedFor host requests o) :
    IsAskedFor host requests' o where
  host := ho.host
  protocol := h.protocol ▸ ho.protocol
  starttls := h.starttls ▸ ho.starttls
  port := h.port ▸ ho.port
  auth := h.credentials ▸ ho.auth
  user := h.credentials ▸ ho.user
  password := h.credentials ▸ ho.password
  timeout := h.timeout ▸ ho.timeout
  extra k v := (ho.extra k v).trans (and_congr_right fun hk => by rw [h.value k hk])

theorem EndAlike.finish_eq (h : EndAlike requests requests') :
    (ofRequests host requests).finish = (ofRequests host requests').finish :=
  (h.isAskedFor (isAskedFor_finish host requests)).unique (isAskedFor_finish host requests')

/-! ### Changing places -/

/-- In a respect in which one of two requests asks for nothing, it does not matter which comes first. -/
theorem lastAsked?_swap {asked? : Request → Option α} (h : asked? r = none ∨ asked? r' = none) :
    lastAsked? asked? (before ++ r :: r' :: after) = lastAsked? asked? (before ++ r' :: r :: after) := by
  simp only [lastAsked?, List.reverse_append, List.reverse_cons, List.append_assoc,
    List.findSome?_append, List.singleton_append, List.findSome?_cons]
  rcases h with h | h
  · cases hother : asked? r' <;> simp [h]
  · cases hother : asked? r <;> simp [h]

theorem Request.keepsToSubject (r : Request) : r.KeepsToSubject := by
  cases r with
  | property key value =>
    refine ⟨nofun, nofun, nofun, nofun, nofun, fun k hk => ?_⟩
    obtain ⟨v, hv⟩ := Option.ne_none_iff_exists'.1 hk
    rw [subject, (Option.ite_none_right_eq_some.1 hv).1]
  | _ => constructor <;> simp [protocol?, port?, starttls?, credentials?, timeout?, value?, subject]

theorem endAlike_swap (h : r.subject ≠ r'.subject) :
    EndAlike (before ++ r :: r' :: after) (before ++ r' :: r :: after) := by
  have hswap {β : Type} {asked? : Request → Option β} {s : Subject}
      (habout : ∀ r, asked? r ≠ none → r.subject = s) :
      lastAsked? asked? (before ++ r :: r' :: after) =
        lastAsked? asked? (before ++ r' :: r :: after) := by
    apply lastAsked?_swap
    -- if both asked for something in this respect, both would be about it
    by_contra hboth
    obtain ⟨hr, hr'⟩ := not_or.1 hboth
    exact h ((habout r hr).trans (habout r' hr').symm)
  have habout := Request.keepsToSubject
  exact ⟨hswap fun r => (habout r).protocol, hswap fun r => (habout r).port,
    hswap fun r => (habout r).starttls, hswap fun r => (habout r).credentials,
    hswap fun r => (habout r).timeout, fun k _ => hswap fun r => (habout r).value k⟩

/-- The options that were asked for are told by the last request in each respect, and for each key that is
not blank: requests that end alike come to the same. Two requests about different things that follow each
other can change places. -/
theorem last_requests_decide (host : String) :
    (∀ requests o, (ofRequests host requests).finish = o ↔ IsAskedFor host requests o) ∧
      (∀ requests requests', EndAlike requests requests' →
        (ofRequests host requests).finish = (ofRequests host requests').finish) ∧
      ∀ before r r' after, r.subject ≠ r'.subject →
        (ofRequests host (before ++ r :: r' :: after)).finish =
          (ofRequests host (before ++ r' :: r :: after)).finish :=
  ⟨fun _ _ => finish_eq_iff_isAskedFor, fun _ _ h => h.finish_eq, fun _ _ _ _ h =>
    (endAlike_swap h).finish_eq⟩

def waveringRequests : List Request :=
  [.starttls true, .property " team" "post ", .protocol .smtps, .property "team" " mail",
    .timeout ⟨1⟩, .protocol .smtp]

def steadyRequests : List Request :=
  [.property "\t" "nothing", .protocol .smtp, .timeout ⟨1⟩, .property "team " "mail", .starttls true]

private theorem waveringRequests_endAlike : EndAlike waveringRequests steadyRequests := by
  refine ⟨rfl, rfl, rfl, rfl, rfl, fun k hk => ?_⟩
  have hteam : Text.trim "team" = "team" ∧ Text.trim " team" = "team" ∧ Text.trim "team " = "team" := by
    decide +kernel
  have hmail : Text.trim "mail" = "mail" ∧ Text.trim " mail" = "mail" := by decide +kernel
  have hblank : Text.trim "\t" = "" := by decide +kernel
  simp only [lastAsked?, waveringRequests, steadyRequests, List.reverse_cons, List.reverse_nil,
    List.nil_append, List.cons_append, List.findSome?_cons, List.findSome?_nil, Request.value?, hteam,
    hmail, hblank]
  by_cases hk' : "team" = k
  · rw [if_pos hk']
  · rw [if_neg hk', if_neg hk', if_neg (Ne.symm hk)]

/-- The upgrade and the port follow the protocol in the end, and an early request can come later. -/
theorem waveringRequests_come_to_upgrade :
    EndAlike waveringRequests steadyRequests ∧
      (ofRequests "pier" waveringRequests).finish = (ofRequests "pier" steadyRequests).finish ∧
      (ofRequests "pier" steadyRequests).finish.security = .startTls ∧
      IsAskedFor "pier" waveringRequests (ofRequests "pier" steadyRequests).finish ∧
      (Request.starttls true).subject ≠ (Request.property " team" "post ").subject ∧
      (ofRequests "pier" waveringRequests).finish =
        (ofRequests "pier" ([] ++ .property " team" "post " :: .starttls true ::
          waveringRequests.drop 2)).finish := by
  have ⟨hiff, halike, hswap⟩ := last_requests_decide "pier"
  have hfinish := halike _ _ waveringRequests_endAlike
  have hsubject : (Request.starttls true).subject ≠ (Request.property " team" "post ").subject := nofun
  exact ⟨waveringRequests_endAlike, hfinish, by decide +kernel, (hiff _ _).1 hfinish, hsubject,
    hswap [] _ _ (waveringRequests.drop 2) hsubject⟩

end Mailroom.Options.Draft
