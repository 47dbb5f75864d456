import SheetPress.Text.Basic

/-!
# Directive labels

The words by which the first column of a template tells what a row is for, and the words that choose
the aggregates of subtotal rows, in each language that templates are written in.
-/

namespace SheetPress

/-- Languages that templates are written in. -/
inductive Locale where
  | english
  | chinese
  deriving DecidableEq, Repr

/-- What a row of a template is for. -/
inductive DirectiveKind where
  | header
  | dataField
  | data
  | backgroundColor
  | fontColor
  | subtotal
  deriving DecidableEq, Repr

/-- An aggregate that subtotal rows offer. -/
structure SubtotalSpec where
  /-- The number of the aggregate in `SUBTOTAL`. -/
  code : Nat
  /-- The word that selects it. -/
  label : String
  /-- What stands behind the group on its subtotal row. -/
  groupSuffix : String
  /-- What stands on the row of the grand total. -/
  totalLabel : String
  deriving DecidableEq, Repr

/-- The words of one language. -/
structure DirectiveLabels where
  header : String
  dataField : String
  data : String
  backgroundColor : String
  fontColor : String
  subtotal : String
  /-- Marks the column by which a subtotal row groups. -/
  groupMarker : String
  subtotals : List SubtotalSpec
  deriving DecidableEq, Repr

namespace DirectiveLabels

/-- The English words. -/
def english : DirectiveLabels where
  header := "Header"
  dataField := "DataField"
  data := "Data"
  backgroundColor := "BackgroundColor"
  fontColor := "FontColor"
  subtotal := "Subtotal"
  groupMarker := "Group"
  subtotals := [
    ⟨9, "Sum", "Total", "Grand Total"⟩,
    ⟨1, "Average", "Average", "Grand Average"⟩,
    ⟨2, "Count", "Count", "Grand Count"⟩,
    ⟨4, "Max", "Max", "Grand Max"⟩,
    ⟨5, "Min", "Min", "Grand Min"⟩]

/-- The Chinese words. -/
def chinese : DirectiveLabels where
  header := "表头"
  dataField := "数据字段"
  data := "数据"
  backgroundColor := "背景色"
  fontColor := "字体色"
  subtotal := "分类汇总"
  groupMarker := "分类"
  subtotals := [
    ⟨9, "求和", "汇总", "总计"⟩,
    ⟨1, "平均值", "平均值", "总平均值"⟩,
    ⟨2, "计数", "计数", "总计数"⟩,
    ⟨4, "最大值", "最大值", "总最大值"⟩,
    ⟨5, "最小值", "最小值", "总最小值"⟩]

/-- What a row is for, by the text of its first cell; white space around it counts for nothing. -/
def directive? (labels : DirectiveLabels) (text : String) : Option DirectiveKind :=
  let text := trimText text
  if text.isEmpty then none
  else
    [(labels.header, DirectiveKind.header), (labels.dataField, .dataField), (labels.data, .data),
      (labels.backgroundColor, .backgroundColor), (labels.fontColor, .fontColor),
      (labels.subtotal, .subtotal)].lookup text

/-- The aggregate that a cell of a subtotal row selects. -/
def subtotalSpec? (labels : DirectiveLabels) (text : String) : Option SubtotalSpec :=
  labels.subtotals.find? (·.label == trimText text)

end DirectiveLabels

/-- The words of a language. -/
def Locale.labels : Locale → DirectiveLabels
  | english => .english
  | chinese => .chinese

end SheetPress
