import Counterpart.Main
import Counterpart.Session
import Counterpart.Proofs.Definitions
import Counterpart.Proofs.Enclosure
import Counterpart.Proofs.MethodSearch
import Counterpart.Proofs.WellIndented
import Counterpart.Proofs.Segments
import Counterpart.Proofs.CandidatePaths
import Counterpart.Proofs.Acts
import Counterpart.Proofs.Probing
import Counterpart.Proofs.MarkupEscape
import Counterpart.Proofs.RealPath
import Counterpart.Proofs.Walks
import Counterpart.Proofs.LocalNavigation
import Counterpart.Proofs.PlainHost
import Counterpart.Proofs.Alternation
import Counterpart.Proofs.Requests
import Counterpart.Proofs.OneMessage
import Counterpart.Proofs.Sessions
import Counterpart.Proofs.Focus
import Counterpart.Proofs.Listing
import Counterpart.Proofs.Positions
import Counterpart.Proofs.Arrival
import Counterpart.Proofs.History
import Counterpart.Proofs.Containment
import Counterpart.Proofs.PositionArguments
import Counterpart.Proofs.CommandHosts
import Counterpart.Proofs.CommandRuns
import Counterpart.Proofs.LaterText
import Counterpart.Proofs.LineReading
import Counterpart.Proofs.CutLine
import Counterpart.Proofs.ClosingLine
import Counterpart.Proofs.PathGrammar
import Counterpart.Proofs.LookupCases
import Counterpart.Proofs.FirstDefinition
import Counterpart.Proofs.LineEndings
import Counterpart.Proofs.InnermostRoot
import Counterpart.Proofs.Precedence
import Counterpart.Proofs.StyledText
import Counterpart.Proofs.TableLayout
import Counterpart.Proofs.CandidateListing
