import TuiTemplate.Main
import TuiTemplate.Proofs.CommandLine.Format
import TuiTemplate.Proofs.Render.Keys
import TuiTemplate.Proofs.Render.Picture
import TuiTemplate.Proofs.Template.Faithful
import TuiTemplate.Proofs.Template.Prefix
import TuiTemplate.Widget.Workspace
import TuiTemplate.Proofs.Render.Interrupted
import TuiTemplate.Proofs.View.Order
import TuiTemplate.Proofs.View.Showing
import TuiTemplate.Proofs.Template.Canonical
import TuiTemplate.Proofs.Template.Quoting
import TuiTemplate.Proofs.Render.Reordering
import TuiTemplate.Proofs.Template.WellFormed
import TuiTemplate.Proofs.Template.Notes
import TuiTemplate.Proofs.Template.Renaming
import TuiTemplate.Proofs.Text.Decomposition
import TuiTemplate.Proofs.Geometry.Division
import TuiTemplate.Proofs.Render.Writing
import TuiTemplate.Proofs.Render.Shape
import TuiTemplate.Proofs.Template.Indentation
import TuiTemplate.Proofs.Template.Roots
import TuiTemplate.Proofs.Template.Report
import TuiTemplate.Proofs.Settings
import TuiTemplate.Proofs.SubstitutionFile
import TuiTemplate.Proofs.Template.Source
import TuiTemplate.Proofs.Console.Screen
import TuiTemplate.Proofs.Geometry.Cells
import TuiTemplate.Proofs.Widget.Latest
import TuiTemplate.Proofs.Template.Descent
