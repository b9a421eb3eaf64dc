/-!
# Splitting and searching lists of characters
-/

namespace ScenarioStubs.Text

/-- The segments of a list between occurrences of a separator; there is always at least one. -/
def splitAll (sep : Char) : List Char → List (List Char)
  | [] => [[]]
  | c :: cs =>
    if c = sep then [] :: splitAll sep cs
    else match splitAll sep cs with
      | [] => [[c]]
      | segment :: rest => (c :: segment) :: rest

/-- The parts before and after the first occurrence of a separator, if there is one. -/
def splitFirst? (sep : Char) : List Char → Option (List Char × List Char)
  | [] => none
  | c :: cs => if c = sep then some ([], cs) else (splitFirst? sep cs).map fun (before, after) => (c :: before, after)

/-- Whether a list of characters holds another as a stretch. -/
def hasStretch (part : List Char) : List Char → Bool
  | [] => part.isEmpty
  | c :: cs => part.isPrefixOf (c :: cs) || hasStretch part cs

end ScenarioStubs.Text
