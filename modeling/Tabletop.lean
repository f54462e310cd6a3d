import Tabletop.Service
import Tabletop.Proofs.Digits
import Tabletop.Proofs.Normalization
import Tabletop.Proofs.Grammar
import Tabletop.Proofs.Reading
import Tabletop.Proofs.Parsing
import Tabletop.Proofs.Cutting
import Tabletop.Proofs.Accounting
import Tabletop.Proofs.Segments
import Tabletop.Proofs.Alike
import Tabletop.Proofs.WellFormed
import Tabletop.Proofs.RoundTrip
import Tabletop.Proofs.Requests
import Tabletop.Proofs.AllOrNothing
import Tabletop.Proofs.Ranking
import Tabletop.Proofs.Drawing
import Tabletop.Proofs.Serving
import Tabletop.Proofs.Course
import Tabletop.Proofs.Isolation
import Tabletop.Proofs.Offers
import Tabletop.Proofs.Lives
import Tabletop.Proofs.Interference
import Tabletop.Proofs.EventLog
import Tabletop.Proofs.Selection
import Tabletop.Proofs.Absorption
import Tabletop.Proofs.Answering
import Tabletop.Proofs.Failures
import Tabletop.Proofs.Listing
import Tabletop.Proofs.Exchanges
import Tabletop.Proofs.Ledger
import Tabletop.Proofs.Coherence
import Tabletop.Proofs.Endings
import Tabletop.Proofs.Payouts
import Tabletop.Proofs.Extremes
import Tabletop.Proofs.Dominance
import Tabletop.Proofs.Splicing
import Tabletop.Proofs.Casing
import Tabletop.Proofs.NormalForms
import Tabletop.Proofs.Commands
import Tabletop.Proofs.Healing
import Tabletop.Proofs.LoneDice
import Tabletop.Proofs.Spacing
import Tabletop.Proofs.Wording
import Tabletop.Proofs.Advantage
import Tabletop.Proofs.FirstFault
import Tabletop.Proofs.Fragments
import Tabletop.Proofs.Overlong
import Tabletop.Proofs.Limits
import Tabletop.Proofs.StrayText
import Tabletop.Proofs.Sources
import Tabletop.Proofs.Subtraction
import Tabletop.Proofs.Checks
import Tabletop.Proofs.Breakdown
import Tabletop.Proofs.Recollection
import Tabletop.Proofs.Openings
import Tabletop.Proofs.Attendance
import Tabletop.Proofs.Transcripts
import Tabletop.Proofs.Rebuilding
import Tabletop.Proofs.FormulaRolls
