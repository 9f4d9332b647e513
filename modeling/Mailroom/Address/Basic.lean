import Mailroom.Address.Syntax
import Mailroom.Text.Blank

/-! Bare addresses. -/
namespace Mailroom

inductive Address.Reason where
  | empty
  | blankOrAngle
  | noSign
  | manySigns
  | emptyPart
  | localPart
  | domain
  | unbalancedAngles
  deriving DecidableEq, Repr

def Address.Reason.message : Reason → String
  | empty => "address cannot be empty"
  | blankOrAngle => "address contains whitespace or angle brackets"
  | noSign => "address must contain @"
  | manySigns => "address must have exactly one @"
  | emptyPart => "local and domain parts cannot be empty"
  | localPart => "local part is malformed"
  | domain => "domain is malformed"
  | unbalancedAngles => "unbalanced angle brackets"

structure Address.Refusal where
  text : String
  reason : Reason
  deriving DecidableEq, Repr

structure Address where
  localPart : String
  domain : String
  deriving DecidableEq, Repr

namespace Address

def text (a : Address) : String := a.localPart ++ "@" ++ a.domain

def hasEmptyLabel (domain : List Char) : Bool :=
  domain.head? == some '.' || domain.getLast? == some '.' || Text.occurs ['.', '.'] domain

def parts (cs : List Char) : Except Reason (List Char × List Char) :=
  if cs.isEmpty then .error .empty
  else if cs.any fun c => Text.isBlank c || c == '<' || c == '>' then .error .blankOrAngle
  else match Text.cutFirst? (· == '@') cs with
    | none => .error .noSign
    | some (localPart, domain) =>
      if domain.contains '@' then .error .manySigns
      else if localPart.isEmpty || domain.isEmpty then .error .emptyPart
      else if hasEmptyLabel domain then .error .domain
      else if !isLocalPart localPart then .error .localPart
      else if !isDomain domain then .error .domain
      else .ok (localPart, domain)

/-- Reads an address; surrounding blanks are dropped. -/
def parse (s : String) : Except Refusal Address :=
  let s := Text.trim s
  match parts s.toList with
  | .ok (localPart, domain) => .ok ⟨.ofList localPart, .ofList domain⟩
  | .error reason => .error ⟨s, reason⟩

end Address

end Mailroom
