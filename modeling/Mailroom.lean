import Mailroom.Files.Snapshot
import Mailroom.Main
import Mailroom.Options.Draft
import Mailroom.Proofs.Command.Feedback
import Mailroom.Proofs.Office.History
import Mailroom.Proofs.Smtp.Credentials
import Mailroom.Proofs.Smtp.Dialling
import Mailroom.Proofs.Smtp.Privacy
import Mailroom.Proofs.Smtp.Secrecy
import Mailroom.Proofs.Options.Requests
import Mailroom.Proofs.Options.Asked
import Mailroom.Proofs.Command.Clearing
import Mailroom.Proofs.Command.Rehearsal
import Mailroom.Proofs.Command.Waiting
import Mailroom.Proofs.Options.Problems
import Mailroom.Proofs.Options.Scalars
import Mailroom.Proofs.Options.Secrets
import Mailroom.Proofs.Options.Loading
import Mailroom.Proofs.Recipients.Decoding
import Mailroom.Proofs.Recipients.Adding
import Mailroom.Proofs.Properties.Flat
import Mailroom.Proofs.Smtp.Format
import Mailroom.Proofs.Address.Checks
import Mailroom.Proofs.Recipients.Shapes
import Mailroom.Proofs.Options.Order
import Mailroom.Proofs.Options.Rounding
import Mailroom.Proofs.Command.Overlaying
import Mailroom.Proofs.Command.Checking
