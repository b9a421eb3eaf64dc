import ScenarioStubs.Toml.Value

/-!
# Building tables

A table is defined once: by a header, by dotted keys, or as a value. A table that was only passed through by a header
(an implicit one) may still get a header of its own, and one defined by dotted keys may be extended by dotted keys in
the same place. Everything else that would define something twice is refused.
-/

namespace ScenarioStubs.Toml

/-- A node of the tree under construction. -/
inductive Node
  | value (v : Value)
  | table (isImplicit isDotted : Bool) (entries : List (String × Node))
  /-- Tables under one header, the last of which is open. -/
  | tables (earlier : List Node) (last : Node)
  deriving Inhabited

namespace Node

/-- A table as its header opens it. -/
def fresh : Node := .table false false []

/-- The entries with the node under a name replaced, or added at the end. -/
def put (name : String) (n : Node) : List (String × Node) → List (String × Node)
  | [] => [(name, n)]
  | (name', n') :: rest => if name' = name then (name, n) :: rest else (name', n') :: put name n rest

/-- Changes the table at the end of a path. Missing tables on the way are made, implicit and, if the path is that of a
dotted key, dotted; a dotted key must not pass through a table with a header. -/
def descend (isDotted : Bool) (change : Node → Option Node) : List String → Node → Option Node
  | [], n => change n
  | name :: path, n =>
    match n with
    | .table isImplicit dotted entries =>
      let child? : Option Node :=
        match entries.lookup name with
        | none => descend isDotted change path (.table true isDotted [])
        | some (.value _) => none
        | some (.tables earlier last) => (descend isDotted change path last).map (.tables earlier)
        | some (.table childImplicit childDotted childEntries) =>
          if isDotted ∧ ¬ childImplicit then none
          else descend isDotted change path (.table childImplicit childDotted childEntries)
      child?.map fun child => .table isImplicit dotted (put name child entries)
    | _ => none

/-- Adds a value under a name that is new to the table. A table that a dotted key leads to must itself be defined by
dotted keys. -/
def addValue (isDotted : Bool) (name : String) (v : Value) : Node → Option Node
  | .table isImplicit dotted entries =>
    if dotted ≠ isDotted ∨ (entries.lookup name).isSome then none
    else some (.table isImplicit dotted (entries ++ [(name, .value v)]))
  | _ => none

/-- Adds a value under a key. -/
def addKey (path : List String) (name : String) (v : Value) (n : Node) : Option Node :=
  n.descend true (addValue (!path.isEmpty) name v) path

/-- Opens the table with a header. -/
def openTable (name : String) : Node → Option Node
  | .table isImplicit dotted entries =>
    match entries.lookup name with
    | none => some (.table isImplicit dotted (entries ++ [(name, fresh)]))
    | some (.table true false children) =>
      some (.table isImplicit dotted (put name (.table false false children) entries))
    | some _ => none
  | _ => none

/-- Opens one more table under a header of several. -/
def openTables (name : String) : Node → Option Node
  | .table isImplicit dotted entries =>
    match entries.lookup name with
    | none => some (.table isImplicit dotted (entries ++ [(name, .tables [] fresh)]))
    | some (.tables earlier last) =>
      some (.table isImplicit dotted (put name (.tables (earlier ++ [last]) fresh) entries))
    | some _ => none
  | _ => none

mutual

/-- The value that a node stands for. -/
def toValue : Node → Value
  | .value v => v
  | .table _ _ entries => .table (entryValues entries)
  | .tables earlier last => .array (values earlier ++ [last.toValue])

/-- The values of several nodes. -/
def values : List Node → List Value
  | [] => []
  | n :: ns => n.toValue :: values ns

/-- The values of the entries of a table. -/
def entryValues : List (String × Node) → List (String × Value)
  | [] => []
  | (name, n) :: rest => (name, n.toValue) :: entryValues rest

end

end Node

end ScenarioStubs.Toml
