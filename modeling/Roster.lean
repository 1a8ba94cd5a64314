import Roster.Json.Decoder
import Roster.Json.Writer
import Roster.Main
import Roster.Proofs.Employee.Shown
import Roster.Proofs.Employee.Sorting
import Roster.Proofs.Json.Content
import Roster.Proofs.Json.Finality
import Roster.Proofs.Json.Language
import Roster.Proofs.Json.Truncation
import Roster.Proofs.Listing.AllOrNothing
import Roster.Proofs.Program.Verdict
import Roster.Proofs.Replacement
import Roster.Proofs.Session.Atomicity
import Roster.Proofs.Session.Interleaving
import Roster.Proofs.Session.Lineage
import Roster.Proofs.Session.Namespaces
import Roster.Proofs.Session.Refinement
import Roster.Session
import Roster.Tables.Wording
import Roster.Proofs.Json.Scan
import Roster.Proofs.Tables.Upgrade
import Roster.Proofs.Opening
import Roster.Proofs.Config
