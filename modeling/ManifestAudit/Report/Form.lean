/-!
# Forms of a report

A report is written for people or as a document for programs. Each form has a
name, by which it is asked for.
-/

namespace ManifestAudit

/-- How a report is written. -/
inductive ReportForm
  | human
  | json
deriving DecidableEq, Repr

namespace ReportForm

instance : Inhabited ReportForm := ⟨human⟩

/-- All forms, in the order in which they are listed. -/
def all : List ReportForm := [human, json]

/-- The name by which a form is asked for. -/
def name : ReportForm → String
  | human => "human"
  | json => "json"

/-- The name of a form in debug messages. -/
def debugName : ReportForm → String
  | human => "Human"
  | json => "Json"

/-- The text with its ASCII letters in lower case. -/
def lowerAscii (text : String) : List Char := text.toList.map Char.toLower

/-- The form of a name; upper and lower case of ASCII letters may be taken as
equal. -/
def ofName? (ignoreCase : Bool) (text : String) : Option ReportForm :=
  all.find? fun form =>
    if ignoreCase then lowerAscii form.name == lowerAscii text else form.name == text

/-- What is said of a text that names no form. -/
def unknownMessage (text : String) : String := "invalid variant: " ++ text

@[simp] theorem ofName?_name (ignoreCase : Bool) (form : ReportForm) :
    ofName? ignoreCase form.name = some form := by
  cases ignoreCase <;> cases form <;> decide

end ReportForm

end ManifestAudit
