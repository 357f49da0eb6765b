import ImageHeader.Main
import ImageHeader.Proofs.FileTree.Route
import ImageHeader.Proofs.FileTree.Within
import ImageHeader.Proofs.FileTree.Naming
import ImageHeader.Proofs.Header.Content
import ImageHeader.Proofs.FileTree.Clearing
import ImageHeader.Proofs.Generator.Run
import ImageHeader.Proofs.FileTree.Spelling
import ImageHeader.Proofs.Generator.Frame
import ImageHeader.Proofs.Generator.Success
import ImageHeader.Proofs.Generator.Leftover
import ImageHeader.Proofs.Dump.Literals
import ImageHeader.Proofs.Generator.Fidelity
import ImageHeader.Proofs.Generator.Collision
import ImageHeader.Proofs.Generator.Course
import ImageHeader.Proofs.FileTree.Showing
import ImageHeader.Proofs.Generator.Image
import ImageHeader.Proofs.Config.Validation
import ImageHeader.Proofs.Generator.Layout
import ImageHeader.Proofs.Command.Report
import ImageHeader.Proofs.FileTree.Ways
import ImageHeader.Proofs.Generator.Ready
import ImageHeader.Proofs.Generator.Repetition
import ImageHeader.Proofs.Generator.Commuting
import ImageHeader.Proofs.Generator.Closing
import ImageHeader.Proofs.Command.Obstacle
import ImageHeader.Proofs.Text.Utf8
import ImageHeader.Proofs.Dump.Registry
import ImageHeader.Proofs.Header.Transcription
import ImageHeader.Proofs.Json.Text
import ImageHeader.Proofs.Config.RoundTrip
import ImageHeader.Proofs.CommandLine.Settling
import ImageHeader.Proofs.CommandLine.Verbosity
import ImageHeader.Proofs.Generator.Influence
import ImageHeader.Proofs.Command.Influence
import ImageHeader.Proofs.Program.Outcome
import ImageHeader.Proofs.Header.Limit
import ImageHeader.Proofs.Dump.Rows
import ImageHeader.Proofs.Text.Lossy
import ImageHeader.Proofs.Dump.External
import ImageHeader.Proofs.Json.Grammar
import ImageHeader.Proofs.Json.Reading
import ImageHeader.Proofs.Config.Object
import ImageHeader.Proofs.Config.Order
import ImageHeader.Proofs.Path.Parts
import ImageHeader.Proofs.Generator.Refusal
import ImageHeader.Proofs.Config.Stated
import ImageHeader.Proofs.Command.Layers
import ImageHeader.Proofs.Command.Printed
import ImageHeader.Proofs.Command.Directory
import ImageHeader.Proofs.Path.Respelling
import ImageHeader.Proofs.Generator.Canonical
import ImageHeader.Proofs.Dump.Identifier
