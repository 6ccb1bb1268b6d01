import CTokens.CommandLine.Run
import CTokens.Explorer.Session
import CTokens.Listing
import CTokens.Main
import CTokens.Proofs.Blanking
import CTokens.Proofs.Breaks
import CTokens.Proofs.Census
import CTokens.Proofs.Classes
import CTokens.Proofs.CommentMarks
import CTokens.Proofs.Comments
import CTokens.Proofs.Displays
import CTokens.Proofs.Emphasis
import CTokens.Proofs.Escapes
import CTokens.Proofs.Frames
import CTokens.Proofs.Grammar
import CTokens.Proofs.Lines
import CTokens.Proofs.ListingLines
import CTokens.Proofs.Literals
import CTokens.Proofs.Locations
import CTokens.Proofs.Lookahead
import CTokens.Proofs.Partition
import CTokens.Proofs.Reading
import CTokens.Proofs.Recoveries
import CTokens.Proofs.Rendering
import CTokens.Proofs.Restart
import CTokens.Proofs.Sessions
import CTokens.Proofs.Streams
import CTokens.Proofs.Toggling
import CTokens.Proofs.Traces
import CTokens.Proofs.Views
import CTokens.Proofs.Walks
import CTokens.Trace
