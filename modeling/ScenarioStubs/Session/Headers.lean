import ScenarioStubs.Text.Ascii

/-!
# Request headers

Headers keep the order of the wire and may repeat a name; names are compared up to the case of ASCII letters.
-/

namespace ScenarioStubs

/-- The headers of a request, in wire order. -/
structure Headers where
  entries : List (String × String)
  deriving DecidableEq

namespace Headers

/-- No headers. -/
def empty : Headers := ⟨[]⟩

instance : Inhabited Headers := ⟨empty⟩

/-- The headers with one more at the end. -/
def push (h : Headers) (name value : String) : Headers := ⟨h.entries ++ [(name, value)]⟩

/-- Every value of a name, in wire order. -/
def getAll (h : Headers) (name : String) : List String :=
  (h.entries.filter fun e => Text.sameIgnoringCase e.1 name).map (·.2)

/-- The first value of a name. -/
def get? (h : Headers) (name : String) : Option String := (h.getAll name).head?

/-- The number of headers. -/
def size (h : Headers) : Nat := h.entries.length

/-- Whether there is no header. -/
def isEmpty (h : Headers) : Bool := h.entries.isEmpty

theorem getAll_push (h : Headers) (name value wanted : String) :
    (h.push name value).getAll wanted =
      h.getAll wanted ++ if Text.sameIgnoringCase name wanted then [value] else [] := by
  by_cases hs : Text.sameIgnoringCase name wanted <;> simp [getAll, push, List.filter_append, hs]

end Headers

end ScenarioStubs
