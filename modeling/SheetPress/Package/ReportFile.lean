import SheetPress.Package.Load
import SheetPress.Package.Save
import SheetPress.Template.Report

/-!
# Reports from packages

A template that is a package is read, filled in, and written into a package again.
-/

namespace SheetPress

/-- Why a report cannot be made from a package. -/
inductive ReportFault where
  | package (e : PackageError)
  | template (e : TemplateError)

/-- What a fault says. -/
def ReportFault.message : ReportFault → String
  | package e => e.message
  | template e => e.message

/-- Fills in the template in a package. -/
def Renderer.renderPackage (r : Renderer) (data : ReportData) (template : Package) :
    Except ReportFault Package := do
  let book ← template.load.mapError .package
  let report ← (r.render data book).mapError .template
  report.save.mapError .package

end SheetPress
