/-! What can be wrong with options that could be read. -/
namespace Mailroom.Options

inductive Problem where
  | emptyHost
  | invalidPort
  | zeroTimeout
  | invalidTimeout
  | missingUser
  | missingPassword
  deriving DecidableEq, Repr

def Problem.message : Problem → String
  | emptyHost => "mail host is required"
  | invalidPort => "mail port must be 1-65535"
  | zeroTimeout => "connection timeout must be at least 1ms"
  | invalidTimeout => "connection timeout must be a whole number of milliseconds"
  | missingUser => "mail.user is required when auth is enabled"
  | missingPassword => "mail.password is required when auth is enabled"

end Mailroom.Options
