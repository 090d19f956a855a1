import Parliament.Description
import Parliament.NameTable.Json
import Parliament.Proofs.Condition.Traversal
import Parliament.Proofs.Confirmation.Charges
import Parliament.Proofs.Description
import Parliament.Proofs.Draft
import Parliament.Proofs.Permissions.Amendments
import Parliament.Proofs.Permissions.Roles
import Parliament.Proofs.Rulebook.Json
import Parliament.Proofs.Session.Accounts
import Parliament.Proofs.Session.Announcements
import Parliament.Proofs.Session.CarryOver
import Parliament.Proofs.Session.Confines
import Parliament.Proofs.Session.Declarations
import Parliament.Proofs.Session.Draws
import Parliament.Proofs.Session.FactionFunds
import Parliament.Proofs.Session.Records
import Parliament.Proofs.Session.Rolls
import Parliament.Proofs.Session.ShownAmounts
import Parliament.Proofs.Tally.Outstanding
import Parliament.Proofs.Tally.Support
import Parliament.Proofs.Tally.Thresholds
import Parliament.Proofs.Wording.Filling
import Parliament.Session.Json
