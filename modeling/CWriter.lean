import CWriter.Data.Json
import CWriter.Files.Save
import CWriter.Session.Basic
import CWriter.Session.Settings
import CWriter.Session.Transcript
import CWriter.Proofs.Declarator.Reader
import CWriter.Proofs.Declarator.RoundTrip
import CWriter.Proofs.Layout.Frame
import CWriter.Proofs.Anchored
import CWriter.Proofs.ScopeLines
import CWriter.Proofs.Notes.Text
import CWriter.Proofs.Notes.Code
import CWriter.Proofs.Notes.Scope
import CWriter.Proofs.Notes.Inert
import CWriter.Proofs.Edits
import CWriter.Proofs.Insertion
import CWriter.Proofs.Fragments.Text
import CWriter.Proofs.Fragments.Tree
import CWriter.Proofs.Layout.Trace
import CWriter.Proofs.Nesting
import CWriter.Proofs.Matched
import CWriter.Proofs.Braces
import CWriter.Proofs.Expr.Munch
import CWriter.Proofs.Expr.Binding
import CWriter.Proofs.Expr.Prefixes
import CWriter.Proofs.Expr.Reader
import CWriter.Proofs.Expr.Readback
import CWriter.Proofs.Assignment
import CWriter.Proofs.Flags.Setters
import CWriter.Proofs.Flags.Runs
import CWriter.Proofs.Flags.Verdicts
import CWriter.Proofs.Renaming.Members
import CWriter.Proofs.Renaming.Runs
import CWriter.Proofs.Renaming.Creation
import CWriter.Proofs.Conditionals
import CWriter.Proofs.Notes.Words
import CWriter.Proofs.Rendering
import CWriter.Proofs.Saving
import CWriter.Proofs.Console
import CWriter.Proofs.Number.Rounding
import CWriter.Proofs.Number.Shortest
import CWriter.Proofs.WellFormed.Accepted
import CWriter.Proofs.WellFormed.Reachable
import CWriter.Proofs.Notes.Filling
import CWriter.Proofs.Notes.LineEnds
import CWriter.Proofs.Notes.Remarks
import CWriter.Proofs.Classes.Lines
import CWriter.Proofs.Expr.Literal
import CWriter.Proofs.Layout.Room
import CWriter.Proofs.Macros
import CWriter.Proofs.Layout.Deeper
import CWriter.Proofs.Translation
import CWriter.Proofs.Routines.Filled
import CWriter.Proofs.Layout.Parts
import CWriter.Proofs.Routines.Bodies
import CWriter.Proofs.Expr.LineBreaks
import CWriter.Proofs.Routines.Prototype
import CWriter.Proofs.WellFormed.Labels
import CWriter.Proofs.Records
import CWriter.Proofs.Layout.Spacing
