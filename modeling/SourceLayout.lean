import SourceLayout.Naming.Assigning
import SourceLayout.Renderer
import SourceLayout.Value.Equality
import SourceLayout.Proofs.Building.AfterFinish
import SourceLayout.Proofs.Building.Balance
import SourceLayout.Proofs.Building.Blocks
import SourceLayout.Proofs.Building.BrokenBlocks
import SourceLayout.Proofs.Building.Calls
import SourceLayout.Proofs.Building.Contents
import SourceLayout.Proofs.Building.Emission
import SourceLayout.Proofs.Building.Emptiness
import SourceLayout.Proofs.Building.Finishing
import SourceLayout.Proofs.Building.Following
import SourceLayout.Proofs.Building.Growth
import SourceLayout.Proofs.Building.Histories
import SourceLayout.Proofs.Building.Journal
import SourceLayout.Proofs.Building.KnownBreaks
import SourceLayout.Proofs.Building.Levels
import SourceLayout.Proofs.Building.Lockstep
import SourceLayout.Proofs.Building.Moments
import SourceLayout.Proofs.Building.Moves
import SourceLayout.Proofs.Building.Openings
import SourceLayout.Proofs.Building.Printer
import SourceLayout.Proofs.Building.Printing
import SourceLayout.Proofs.Building.Rejections
import SourceLayout.Proofs.Building.Spacing
import SourceLayout.Proofs.Building.Supporting
import SourceLayout.Proofs.Building.TableLines
import SourceLayout.Proofs.Building.Unmarking
import SourceLayout.Proofs.Building.Widening
import SourceLayout.Proofs.Fragment.Leaves
import SourceLayout.Proofs.Fragment.Refusals
import SourceLayout.Proofs.Naming.Additions
import SourceLayout.Proofs.Naming.Assigned
import SourceLayout.Proofs.Naming.Candidates
import SourceLayout.Proofs.Naming.Entries
import SourceLayout.Proofs.Naming.Fitting
import SourceLayout.Proofs.Naming.Operations
import SourceLayout.Proofs.Naming.Progress
import SourceLayout.Proofs.Naming.Reachable
import SourceLayout.Proofs.Naming.Reordering
import SourceLayout.Proofs.Naming.Sealing
import SourceLayout.Proofs.Rendering.Assigning
import SourceLayout.Proofs.Rendering.Comments
import SourceLayout.Proofs.Rendering.Completion
import SourceLayout.Proofs.Rendering.Independence
import SourceLayout.Proofs.Rendering.Interpolation
import SourceLayout.Proofs.Rendering.Lookups
import SourceLayout.Proofs.Template.Filling
import SourceLayout.Proofs.Template.Scanning
import SourceLayout.Proofs.Text.Breaks
import SourceLayout.Proofs.Text.Columns
import SourceLayout.Proofs.Text.TabStops
import SourceLayout.Proofs.Writing.Bracketing
import SourceLayout.Proofs.Writing.Imprints
import SourceLayout.Proofs.Writing.Indentations
import SourceLayout.Proofs.Writing.Lines
import SourceLayout.Proofs.Writing.Locations
import SourceLayout.Proofs.Writing.Nesting
import SourceLayout.Proofs.Writing.Nodes
import SourceLayout.Proofs.Writing.Places
import SourceLayout.Proofs.Writing.Replacing
import SourceLayout.Proofs.Writing.Spans
import SourceLayout.Proofs.Writing.Strokes
