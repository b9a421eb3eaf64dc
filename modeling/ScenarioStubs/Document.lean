/-!
# Documents and the records in them

Settings and stub mappings are records with named fields, written in one of several text formats. A `Document` is a
tree read from such a text. A record is written by name, where unknown names are passed over and a known one may come
once only, or by position, the fields in their fixed order; fields left out take their defaults.
-/

namespace ScenarioStubs

/-- A tree of scalars, lists and tables read from some text format. -/
class Document (δ : Type) where
  /-- Whether the node says that there is no value. -/
  isNull : δ → Bool
  bool? : δ → Option Bool
  /-- The value of a number that is written as an integer. -/
  integer? : δ → Option Int
  text? : δ → Option String
  items? : δ → Option (List δ)
  /-- The fields of a table, in order; there are none to be had if some name is no text. -/
  fields? : δ → Option (List (String × δ))
  /-- Whether the node can stand beside a name that carries no data. -/
  isUnit : δ → Bool
  /-- Whether a record written by position may have items after its last field. -/
  allowsSurplus : Bool

namespace Document

variable {δ α : Type} [Document δ]

/-- A natural number below a limit. -/
def natBelow? (limit : Nat) (d : δ) : Option Nat :=
  (integer? d).bind fun n => if 0 ≤ n ∧ n < limit then some n.toNat else none

/-- A value that may be missing. -/
def optional? (decode : δ → Option α) (d : δ) : Option (Option α) :=
  if isNull d then some none else (decode d).map some

/-- A name among others: a text, or a table with that name alone and no data beside it. -/
def name? (d : δ) : Option String :=
  text? d <|> match fields? d with
    | some [(name, payload)] => if isUnit payload then some name else none
    | _ => none

end Document

/-- The fields of a record that were given, by name. -/
structure Record (δ : Type) where
  given : List (String × δ)

namespace Record

variable {δ α : Type} [Document δ]

/-- The record that a node writes, by name or by position. -/
def of? (names : List String) (d : δ) : Option (Record δ) :=
  match Document.fields? d with
  | some fields =>
    let known := fields.filter fun f => names.contains f.1
    if (known.map (·.1)).Nodup then some ⟨known⟩ else none
  | none =>
    (Document.items? d).bind fun items =>
      if Document.allowsSurplus δ ∨ items.length ≤ names.length then some ⟨names.zip items⟩ else none

/-- The value of a field, or its default if it was not given. -/
def field? (r : Record δ) (name : String) (decode : δ → Option α) (default : α) : Option α :=
  match r.given.lookup name with
  | some d => decode d
  | none => some default

end Record

end ScenarioStubs
