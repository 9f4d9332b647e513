import Mailroom.Address.Basic
import Mailroom.Delivery
import Mailroom.Json.Cursor
import Mailroom.Options.Problem
import Mailroom.Properties.Basic

/-! Why a request for mail fails. -/
namespace Mailroom

inductive ValueFault where
  /-- The keyword, in lower case, names no protocol. -/
  | unsupportedProtocol (keyword : String)
  | unreadable (text : String)
  deriving DecidableEq, Repr

def ValueFault.message : ValueFault → String
  | unsupportedProtocol keyword => "unsupported protocol '" ++ keyword ++ "'"
  | unreadable text => "cannot parse '" ++ text ++ "'"

inductive Error where
  | invalidAddress (refusal : Address.Refusal)
  | noRecipients
  | unsupportedFormat (text : String)
  | unknownRole (text : String)
  | invalidProperties (fault : PropertyFault)
  | invalidProperty (key : String) (fault : ValueFault)
  | configuration (problems : List Options.Problem)
  | delivery (failure : DeliveryFailure)
  | json (fault : Json.Fault)
  deriving DecidableEq, Repr

namespace Error

def message : Error → String
  | invalidAddress refusal =>
    "Invalid email address '" ++ refusal.text ++ "': " ++ refusal.reason.message
  | noRecipients => "No recipients specified"
  | unsupportedFormat text => "Unsupported body subtype: " ++ text
  | unknownRole text => "Invalid recipient type: " ++ text
  | invalidProperties fault => "Invalid properties: " ++ fault.message
  | invalidProperty key fault => "Invalid value for property '" ++ key ++ "': " ++ fault.message
  | configuration problems =>
    "Configuration error: " ++ "; ".intercalate (problems.map Options.Problem.message)
  | delivery failure => "Transport error: " ++ failure.text
  | json fault => "JSON error: " ++ fault.message

/-- The wording of the error that lies behind, if there is one. -/
def cause? : Error → Option String
  | delivery failure => some failure.text
  | json fault => some fault.message
  | _ => none

def isTransient : Error → Bool
  | delivery failure => failure.isTransient
  | _ => false

end Error

end Mailroom
