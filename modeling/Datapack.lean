import Datapack.Main
import Datapack.Proofs.Ledger.Streaming
import Datapack.Proofs.Ledger.Freshness
import Datapack.Proofs.Machine.LateLines
import Datapack.Proofs.Machine.CommandBlocks
import Datapack.Proofs.Machine.Shutdown
import Datapack.Proofs.Selector.Parameters
import Datapack.Proofs.Selector.Members
import Datapack.Proofs.WholePasses
import Datapack.Proofs.Machine.OwnReports
import Datapack.Proofs.Ledger.Formats
import Datapack.Proofs.Machine.ClientView
import Datapack.Proofs.Machine.ExitOrder
import Datapack.Proofs.UnusablePaths
import Datapack.Proofs.Ledger.Folders
import Datapack.Proofs.CommandLine.ExitStatus
import Datapack.Proofs.Machine.CommandFraming
import Datapack.Proofs.Machine.LaunchSettings
import Datapack.Proofs.ErrorLineGrammar
import Datapack.Proofs.Ledger.Positions
import Datapack.Proofs.Machine.ErrorOutput
import Datapack.Proofs.Machine.StreamLines
import Datapack.Proofs.Machine.WholeLines
import Datapack.Proofs.Selector.OpenCalls
import Datapack.Proofs.Selector.Arguments
import Datapack.Proofs.Selector.RuleOrder
import Datapack.Proofs.Selector.Keystrokes
import Datapack.Proofs.Selector.Lookahead
import Datapack.Proofs.Ledger.Offsets
import Datapack.Proofs.PathUris
import Datapack.Proofs.FolderPaths
import Datapack.Proofs.Machine.ClosedDocuments
import Datapack.Proofs.NamedFiles
import Datapack.Proofs.Settings.Overrides
