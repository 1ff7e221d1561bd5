import NodeWatch.Decimal.Layout
import NodeWatch.Gauge.Sink

/-!
# Text exposition of gauges

The gauges in text: for each one that has a series two lines of comment, then a line for each
series. In label values backslashes, quotes and line ends are escaped.
-/

namespace NodeWatch.Gauge

/-- A character of a label value. -/
def escape : Char → List Char
  | '\\' => ['\\', '\\']
  | '"' => ['\\', '"']
  | '\n' => ['\\', 'n']
  | c => [c]

/-- A label with its value. -/
def labelText (label : String × String) : List Char :=
  label.1.toList ++ ['=', '"'] ++ label.2.toList.flatMap escape ++ ['"']

/-- The labels of a series; without labels there are no braces either. -/
def labelsText (labels : List (String × String)) : List Char :=
  match labels with
  | [] => []
  | labels => '\x7b' :: [','].intercalate (labels.map labelText) ++ ['\x7d']

/-- The line of a series. -/
def seriesText {α : Type} (text : α → String) (name : String) (labelNames : List String)
    (series : List String × α) : List Char :=
  name.toList ++ labelsText (labelNames.zip series.1) ++ ' ' :: (text series.2).toList ++ ['\n']

/-- The lines of a gauge. -/
def familyText {α : Type} (text : α → String) (space : String) (family : String × Family α) :
    List Char :=
  let name := space ++ "_" ++ family.1
  s!"# HELP {name} Node monitor gauge {family.1}\n# TYPE {name} gauge\n".toList
    ++ family.2.series.flatMap (seriesText text name family.2.labelNames)

/-- The text of all gauges, `text` being that of a value. -/
def Sink.render {α : Type} (text : α → String) (s : Sink α) : String :=
  String.ofList (s.exported.flatMap (familyText text s.space))

/-- The text of the value of a gauge. -/
def valueText (x : Float) : String := Decimal.text .gauge x

/-- The text of a reading. -/
def readingText (r : Reading) : String := valueText r.toFloat

end NodeWatch.Gauge
