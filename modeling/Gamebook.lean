import Gamebook.Main
import Gamebook.Proofs.Session.Confinement
import Gamebook.Proofs.Story.Made
import Gamebook.Proofs.Story.Titles
import Gamebook.Proofs.Library.Shelf
import Gamebook.Proofs.Document.Members
import Gamebook.Proofs.Play.Journal
import Gamebook.Proofs.Files.Rooted
import Gamebook.Proofs.Library.Slots
import Gamebook.Proofs.Library.Saving
import Gamebook.Proofs.Document.Kept
import Gamebook.Proofs.Report.Endings
import Gamebook.Proofs.Story.Dangling
import Gamebook.Proofs.Library.Listed
import Gamebook.Proofs.Document.Tags
import Gamebook.Proofs.Player.Sums
import Gamebook.Proofs.Session.SingleVisit
import Gamebook.Proofs.Library.Shared
import Gamebook.Proofs.Story.Identity
import Gamebook.Proofs.Script.Blame
import Gamebook.Proofs.Story.Arrival
import Gamebook.Proofs.Library.Naming
import Gamebook.Proofs.Library.Listings
import Gamebook.Proofs.Report.Findings
import Gamebook.Proofs.Script.Plain
import Gamebook.Proofs.Session.Inventory
import Gamebook.Proofs.Player.Attainable
import Gamebook.Proofs.Player.Spellings
