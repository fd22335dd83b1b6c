import ManifestAudit.Json.Numeral

/-!
# JSON values

The values that a JSON document is made of. The fields of an object keep their
order, and a number keeps its spelling.
-/

namespace ManifestAudit

/-- A JSON value. -/
inductive Json
  | null
  | bool (value : Bool)
  | number (numeral : Numeral)
  | text (value : String)
  | array (items : List Json)
  | object (fields : List (String × Json))

namespace Json

/-- A natural number as a value. -/
def natural (value : Nat) : Json := number (Numeral.ofNat value)

/-- The text that a value is. -/
def text? : Json → Option String
  | text value => some value
  | _ => none

/-- The natural number that a value is. -/
def natural? : Json → Option Nat
  | number numeral => numeral.toNat?
  | _ => none

/-- A natural number is read back from its value. -/
@[simp] theorem natural?_natural (value : Nat) : (natural value).natural? = some value :=
  Numeral.toNat?_ofNat value

end Json

end ManifestAudit
