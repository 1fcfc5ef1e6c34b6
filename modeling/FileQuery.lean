import FileQuery.Main
import FileQuery.Proofs.Token.Lexemes
import FileQuery.Proofs.Query.Grammar
import FileQuery.Proofs.Query.Reading
import FileQuery.Proofs.Query.Sentences
import FileQuery.Proofs.Query.Lookahead
import FileQuery.Proofs.Query.RoundTrip
import FileQuery.Proofs.Condition.Checking
import FileQuery.Proofs.Plan.Acceptance
import FileQuery.Proofs.FileTree.Contents
import FileQuery.Proofs.Transfer.Copies
import FileQuery.Proofs.FileTree.Lexical
import FileQuery.Proofs.FileTree.Plain
import FileQuery.Proofs.Transfer.Overlap
import FileQuery.Proofs.Transfer.Protection
import FileQuery.Proofs.Condition.Chains
import FileQuery.Proofs.Execution.Accounting
import FileQuery.Proofs.Path.Relative
import FileQuery.Proofs.FileTree.Descent
import FileQuery.Proofs.Path.Steps
import FileQuery.Proofs.FileTree.Entries
import FileQuery.Proofs.FileTree.Shells
import FileQuery.Proofs.Conversion.Fanout
import FileQuery.Proofs.Conversion.Interleaving
import FileQuery.Proofs.Conversion.Independence
import FileQuery.Proofs.Confinement.Surroundings
import FileQuery.Proofs.Confinement.Changes
import FileQuery.Proofs.Confinement.Actions
import FileQuery.Proofs.FileTree.ClearWays
import FileQuery.Proofs.Confinement.Extraction
import FileQuery.Proofs.Confinement.Runs
import FileQuery.Proofs.Execution.Comprehension
import FileQuery.Proofs.Execution.Untouched
import FileQuery.Proofs.FileTree.Substances
import FileQuery.Proofs.FileTree.Walks
import FileQuery.Proofs.Compression.FixedCode
import FileQuery.Proofs.Text.Utf8
import FileQuery.Proofs.Archive.Parcels
import FileQuery.Proofs.Archive.ReadingBack
import FileQuery.Proofs.Archive.Unpacked
import FileQuery.Proofs.Archive.Packed
import FileQuery.Proofs.Archive.RoundTrip
import FileQuery.Proofs.Token.Tiling
import FileQuery.Proofs.Query.Seams
import FileQuery.Proofs.Plan.SamePlace
import FileQuery.Proofs.Session.ExitStatus
import FileQuery.Proofs.FileTree.Reordering
import FileQuery.Proofs.FileTree.Relocation
import FileQuery.Proofs.Execution.Removal
import FileQuery.Proofs.FileTree.NewFolders
import FileQuery.Proofs.Transfer.Destinations
import FileQuery.Proofs.Transfer.Moving
import FileQuery.Proofs.Transfer.Rehoming
import FileQuery.Proofs.FileTree.Overlay
import FileQuery.Proofs.Transfer.Copying
import FileQuery.Proofs.Transfer.Merging
import FileQuery.Proofs.Condition.Demand
import FileQuery.Proofs.Conversion.Results
import FileQuery.Proofs.FileTree.Missing
import FileQuery.Proofs.Execution.Absences
import FileQuery.Proofs.Execution.Vanishing
import FileQuery.Proofs.Execution.Containment
import FileQuery.Proofs.Archive.Collecting
import FileQuery.Proofs.Archive.Contents
import FileQuery.Proofs.FileTree.Layers
import FileQuery.Proofs.Archive.Unpacking
import FileQuery.Proofs.Archive.Overlays
import FileQuery.Proofs.Plan.Inside
import FileQuery.Proofs.Query.Layouts
import FileQuery.Proofs.Instant.Calendar
import FileQuery.Proofs.Instant.Reading
import FileQuery.Proofs.Instant.Spellings
import FileQuery.Proofs.Condition.Operators
import FileQuery.Proofs.Number.Nearest
import FileQuery.Proofs.Number.Shortest
import FileQuery.Proofs.Condition.Sizes
import FileQuery.Proofs.Session.Conversation
import FileQuery.Proofs.Session.Settling
import FileQuery.Proofs.Settings.RoundTrip
import FileQuery.Proofs.Conversion.ErrorTails
import FileQuery.Proofs.Token.LongestMatch
import FileQuery.Proofs.Instant.Forms
import FileQuery.Proofs.Settings.Saving
