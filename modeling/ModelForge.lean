import ModelForge.Batch
import ModelForge.Batch.Schedule
import ModelForge.CommandLine.Tool
import ModelForge.Grammar
import ModelForge.Main
import ModelForge.Proofs.Batch.Files
import ModelForge.Proofs.Batch.Foretold
import ModelForge.Proofs.Batch.Regeneration
import ModelForge.Proofs.Batch.Stage
import ModelForge.Proofs.CommandLine
import ModelForge.Proofs.Discovery.Listing
import ModelForge.Proofs.Document
import ModelForge.Proofs.Grammar.Blame
import ModelForge.Proofs.Output.Containment
import ModelForge.Proofs.Regeneration
import ModelForge.Run
import ModelForge.Proofs.Report.Json
import ModelForge.Proofs.Text.Lines
import ModelForge.Proofs.Generation.Phases
import ModelForge.Proofs.Report.Text
import ModelForge.Proofs.Text.Letters
import ModelForge.Proofs.Name.Identifier
import ModelForge.Proofs.Program
