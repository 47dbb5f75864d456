import SheetPress.Text.Basic
import SheetPress.Text.CaseMap
import SheetPress.Json.Basic
import SheetPress.Coord.Region
import SheetPress.Cell.Basic
import SheetPress.Formula.Parser
import SheetPress.Formula.Shift
import SheetPress.Style.Registry
import SheetPress.Sheet.Edit
import SheetPress.Sheet.Workbook
import SheetPress.Sheet.Recalculation
import SheetPress.Template.Error
import SheetPress.Template.Retarget
import SheetPress.Template.Action
import SheetPress.Template.TextTemplate
import SheetPress.Template.Labels
import SheetPress.Template.Record
import SheetPress.Template.Table
import SheetPress.Template.Subtotal
import SheetPress.Template.Options
import SheetPress.Template.ColorRules
import SheetPress.Template.Rows
import SheetPress.Template.Report
import SheetPress.Markup.Walk
import SheetPress.Package.SharedText
import SheetPress.Package.Contents
import SheetPress.Package.SharedFormula
import SheetPress.Package.Layout
import SheetPress.Package.StyleTable
import SheetPress.Package.Load
import SheetPress.Package.StyleMarkup
import SheetPress.Package.SheetMarkup
import SheetPress.Package.Save
import SheetPress.Package.ReportFile
import SheetPress.Proofs.Formula.Rewriting
import SheetPress.Proofs.Formula.Acceptance
import SheetPress.Proofs.Formula.Printing
import SheetPress.Proofs.Formula.QuotedTexts
import SheetPress.Proofs.Sheet.InsertRows
import SheetPress.Proofs.Sheet.RemoveLines
import SheetPress.Proofs.Sheet.InsertThenRemove
import SheetPress.Proofs.Sheet.LostReferences
import SheetPress.Proofs.Sheet.LineReferences
import SheetPress.Proofs.Sheet.Recalculation
import SheetPress.Proofs.Template.Outside
import SheetPress.Proofs.Template.Subtotals
import SheetPress.Proofs.Sheet.Layout
import SheetPress.Proofs.Template.Lending
import SheetPress.Proofs.Template.Evaluators
import SheetPress.Proofs.Template.SharedStyles
import SheetPress.Proofs.Template.StylesInUse
import SheetPress.Proofs.Template.Isolation
import SheetPress.Proofs.Template.Retargeting
import SheetPress.Proofs.Template.FieldNames
import SheetPress.Proofs.Template.StyleCaches
import SheetPress.Proofs.Template.GroupedRows
import SheetPress.Proofs.Template.RepeatedRetargeting
import SheetPress.Proofs.Style.Numbers
import SheetPress.Proofs.Template.Schema
import SheetPress.Proofs.Template.NamedFields
import SheetPress.Proofs.Template.QuickLook
import SheetPress.Proofs.Template.QuotedArguments
import SheetPress.Proofs.Template.FilterRegion
import SheetPress.Proofs.Sheet.UsedArea
import SheetPress.Proofs.Sheet.ReadingOrder
import SheetPress.Proofs.Evaluation.Comparisons
import SheetPress.Proofs.Evaluation.Reading
import SheetPress.Proofs.Coord.Addresses
import SheetPress.Proofs.Template.MergedTexts
import SheetPress.Proofs.Package.StyleSheets
import SheetPress.Proofs.Checked.Reports
import SheetPress.Proofs.Checked.Insertions
