import ScenarioStubs.Document

/-!
# TOML values
-/

namespace ScenarioStubs.Toml

/-- A value of a TOML document. -/
inductive Value
  | string (s : String)
  | integer (n : Int)
  | float (digits : String)
  | boolean (b : Bool)
  | dateTime (digits : String)
  | array (items : List Value)
  | table (fields : List (String × Value))
  deriving Inhabited

/-- A date or time reads as a table of which no field is known. -/
def Value.fields? : Value → Option (List (String × Value))
  | .table fields => some fields
  | .dateTime _ => some []
  | _ => none

instance : Document Value where
  isNull _ := false
  bool? v := match v with
    | .boolean b => some b
    | _ => none
  integer? v := match v with
    | .integer n => some n
    | _ => none
  text? v := match v with
    | .string s => some s
    | _ => none
  items? v := match v with
    | .array items => some items
    | _ => none
  fields? := Value.fields?
  isUnit v := match v with
    | .table [] | .array [] => true
    | _ => false
  allowsSurplus := true

end ScenarioStubs.Toml
