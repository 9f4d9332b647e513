import Mailroom.Options.Draft
import Mailroom.Proofs.Properties.Lookup

/-! What requests make of a draft: of those for one setting the last one counts, and all properties are
kept. -/
namespace Mailroom.Options.Draft

namespace Request

def protocol? : Request → Option Protocol
  | .protocol p => some p
  | _ => none

def port? : Request → Option UInt16
  | .port n => some n
  | _ => none

def starttls? : Request → Option Bool
  | .starttls enabled => some enabled
  | _ => none

def credentials? : Request → Option (String × String)
  | .credentials user password => some (user, password)
  | _ => none

def timeout? : Request → Option Duration
  | .timeout t => some t
  | _ => none

def property? : Request → Option (String × String)
  | .property key value => some (key, value)
  | _ => none

end Request

def lastAsked? {α : Type} (asked? : Request → Option α) (requests : List Request) : Option α :=
  requests.reverse.findSome? asked?

theorem lastAsked?_concat {α : Type} (asked? : Request → Option α) (requests : List Request) (r : Request) :
    lastAsked? asked? (requests ++ [r]) = (asked? r).or (lastAsked? asked? requests) := by
  simp only [lastAsked?, List.reverse_append, List.reverse_singleton, List.singleton_append,
    List.findSome?_cons]
  cases asked? r <;> rfl

def askedProtocol (requests : List Request) : Protocol :=
  (lastAsked? Request.protocol? requests).getD .smtp

def askedProperties (requests : List Request) : List (String × String) :=
  requests.filterMap Request.property?

/-- A draft holds what was asked for last in each respect, or else the default, and all properties. -/
theorem ofRequests_eq (host : String) (requests : List Request) :
    ofRequests host requests =
      { protocol := askedProtocol requests
        host
        port := lastAsked? Request.port? requests
        starttls := (lastAsked? Request.starttls? requests).getD false
        credentials := lastAsked? Request.credentials? requests
        timeout := ((lastAsked? Request.timeout? requests).map Duration.roundUp).getD defaultTimeout
        extra := .ofPairs (askedProperties requests) } := by
  induction requests using List.reverseRecOn with
  | nil => rfl
  | append_singleton requests r ih =>
    have hstep : ofRequests host (requests ++ [r]) = (ofRequests host requests).take r := by
      simp [ofRequests]
    simp only [hstep, ih, askedProtocol, lastAsked?_concat, askedProperties, List.filterMap_append,
      List.filterMap_cons, List.filterMap_nil]
    cases r with
    | property key value =>
      simp only [take, withProperty, Request.property?, PropertyBag.ofPairs, List.foldl_append,
        List.foldl_cons, List.foldl_nil]
      rfl
    | _ =>
      simp only [Request.property?, List.append_nil]
      rfl

section
variable (host : String) (requests : List Request)

@[simp] theorem protocol_finish_ofRequests :
    (ofRequests host requests).finish.protocol = askedProtocol requests := by
  rw [ofRequests_eq]
  rfl

@[simp] theorem host_finish_ofRequests : (ofRequests host requests).finish.host = host := by
  rw [ofRequests_eq]
  rfl

/-- A protocol that is protected from the start is not upgraded. -/
theorem starttls_finish_of_smtps {d : Draft} (h : d.finish.protocol = .smtps) : d.finish.starttls = false := by
  have hp : d.protocol = .smtps := h
  simp [finish, hp]

@[simp] theorem user_finish_ofRequests :
    (ofRequests host requests).finish.user =
      (lastAsked? Request.credentials? requests).map (·.1) := by
  rw [ofRequests_eq]
  rfl

@[simp] theorem password_finish_ofRequests :
    (ofRequests host requests).finish.password =
      (lastAsked? Request.credentials? requests).map (·.2) := by
  rw [ofRequests_eq]
  rfl

@[simp] theorem extra_finish_ofRequests :
    (ofRequests host requests).finish.extra = .ofPairs (askedProperties requests) := by
  rw [ofRequests_eq]
  rfl

end

end Mailroom.Options.Draft
