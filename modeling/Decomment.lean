import Decomment.Command
import Decomment.Main
import Decomment.Proofs.Lexis.Sound
import Decomment.Proofs.Lexis.Order
import Decomment.Proofs.Lexis.Check
import Decomment.Proofs.Scan.Segment
import Decomment.Proofs.Scan.Opening
import Decomment.Proofs.Scan.Run
import Decomment.Proofs.Scan.Simulation
import Decomment.Proofs.Scan.Partition
import Decomment.Proofs.Scan.Cursor
import Decomment.Proofs.Scan.Totality
import Decomment.Proofs.Scan.Covers
import Decomment.Proofs.Scan.Concat
import Decomment.Proofs.Scan.Idempotence
import Decomment.Proofs.Scan.Advisories
import Decomment.Proofs.Scan.LineEndings
import Decomment.Proofs.Scan.Fusion
import Decomment.Proofs.Scan.Longest
import Decomment.Proofs.Scan.Literals
import Decomment.Proofs.Scan.CommentTree
import Decomment.Proofs.Scan.Nesting
import Decomment.Proofs.Registry.History
import Decomment.Proofs.Registry.OrderedMap
import Decomment.Proofs.Registry.Recency
import Decomment.Proofs.Toml.Quoted
import Decomment.Proofs.Toml.Statements
import Decomment.Proofs.Toml.Tables
import Decomment.Proofs.Toml.Codec
import Decomment.Proofs.Settings.RoundTrip
import Decomment.Proofs.Disk.Places
import Decomment.Proofs.Disk.Changes
import Decomment.Proofs.Command.Actions
import Decomment.Proofs.Command.Answers
import Decomment.Proofs.Command.Effects
import Decomment.Proofs.Command.Backup
import Decomment.Proofs.Command.Agreement
import Decomment.Proofs.Disk.Trees
import Decomment.Proofs.Command.Configure
import Decomment.Proofs.Scan.Untouched
import Decomment.Proofs.Text.Lines
import Decomment.Proofs.Tidy.Content
import Decomment.Proofs.Tidy.Idempotence
import Decomment.Proofs.Tidy.Trailing
import Decomment.Proofs.Scan.LineStructure
import Decomment.Proofs.Text.Words
import Decomment.Proofs.Shebang.Grammar
import Decomment.Proofs.Shebang.Env
