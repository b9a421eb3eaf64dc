import ScenarioStubs.Document
import ScenarioStubs.Json.Basic
import ScenarioStubs.Text.Ascii

/-!
# JSON values as documents
-/

namespace ScenarioStubs.Json

/-- The value of a number written with digits alone. -/
def integer? : Json → Option Int
  | .number digits =>
    match digits.toList with
    | '-' :: ds => if ds = ['0'] then none else (Text.decimalNumber? ds).map fun n => -(n : Int)
    | ds => (Text.decimalNumber? ds).map fun n => (n : Int)
  | _ => none

/-- The fields of an object, if every name is a text. -/
def fields? : Json → Option (List (String × Json))
  | .object fs => fs.mapM fun f => f.1.map (·, f.2)
  | _ => none

instance : Document Json where
  isNull v := match v with
    | .null => true
    | _ => false
  bool? v := match v with
    | .bool b => some b
    | _ => none
  integer? := integer?
  text? v := match v with
    | .string s => s
    | _ => none
  items? v := match v with
    | .array items => some items
    | _ => none
  fields? := fields?
  isUnit v := match v with
    | .null => true
    | _ => false
  allowsSurplus := false

end ScenarioStubs.Json
