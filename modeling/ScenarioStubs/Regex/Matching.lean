import ScenarioStubs.Regex.Expr

/-!
# Searching a text for a match

The places between the characters of a text are followed through an expression: `Expr.reach e ps` is the places where
a match of `e` ends that begins at one of `ps`. Lists of places hold each place once, the last place of the text
first. A repetition comes to rest after at most as many rounds as the text has places, so no count of copies makes
the search long.
-/

namespace ScenarioStubs.Regex

/-- A place in a text: how many characters precede it, the last of them, and the characters that follow. -/
structure Place where
  index : Nat
  before : Option Char
  rest : List Char

namespace Place

/-- The place after one more character, if that belongs to a set. -/
def step? (s : Unicode.CharSet) (p : Place) : Option Place :=
  match p.rest with
  | c :: cs => if s.mem c then some ⟨p.index + 1, some c, cs⟩ else none
  | [] => none

/-- Whether an assertion holds at a place. -/
def satisfies (l : Look) (p : Place) : Bool := l.holds p.before p.rest.head?

/-- The places from one to the end of the text, after those found before. -/
def onwards : List Place → Nat → Option Char → List Char → List Place
  | found, i, before, [] => ⟨i, before, []⟩ :: found
  | found, i, before, c :: cs => onwards (⟨i, before, c :: cs⟩ :: found) (i + 1) (some c) cs

/-- Every place of a text. -/
def everywhere (text : List Char) : List Place := onwards [] 0 none text

/-- The places of two lists, after those of a third in reverse. -/
def mergeOnto : List Place → List Place → List Place → List Place
  | found, [], qs => found.reverseAux qs
  | found, p :: ps, [] => found.reverseAux (p :: ps)
  | found, p :: ps, q :: qs =>
    if q.index < p.index then mergeOnto (p :: found) ps (q :: qs)
    else if p.index < q.index then mergeOnto (q :: found) (p :: ps) qs
    else mergeOnto (p :: found) ps qs
termination_by _ ps qs => ps.length + qs.length

/-- The places of either list. -/
def merge (ps qs : List Place) : List Place := mergeOnto [] ps qs

/-- The places of the first list that are not in the second, after those of a third in reverse. -/
def withoutOnto : List Place → List Place → List Place → List Place
  | found, [], _ => found.reverse
  | found, p :: ps, [] => found.reverseAux (p :: ps)
  | found, p :: ps, q :: qs =>
    if q.index < p.index then withoutOnto (p :: found) ps (q :: qs)
    else if p.index < q.index then withoutOnto found (p :: ps) qs
    else withoutOnto found ps qs
termination_by _ ps qs => ps.length + qs.length

/-- The places of the first list that are not in the second. -/
def without (ps qs : List Place) : List Place := withoutOnto [] ps qs

/-- Whether two lists hold the same places. -/
def same (ps qs : List Place) : Bool := ps.map (·.index) == qs.map (·.index)

/-- How often a step has to be made before the places it leads to no longer change: more often than the text has
characters after the first of them. -/
def rounds (ps : List Place) : Nat :=
  match ps.getLast? with
  | some p => p.rest.length + 2
  | none => 0

/-- The places after a number of steps, after those from which the last step was made. No more steps are made once
they lead nowhere new. -/
def iterate (step : List Place → List Place) : Nat → List Place → List Place → List Place × List Place
  | 0, stepped, ps => (stepped, ps)
  | n + 1, _, ps =>
    let qs := step ps
    if same ps qs then (ps, ps) else iterate step n ps qs

/-- The places found and those that up to a number of steps lead to from the newest of them. -/
def spread (step : List Place → List Place) : Nat → List Place → List Place → List Place
  | 0, found, _ | _, found, [] => found
  | n + 1, found, p :: ps =>
    let newest := without (step (p :: ps)) found
    spread step n (merge newest found) newest

end Place

/-- The places where a match ends that begins at one of some places. -/
def Expr.reach : Expr → List Place → List Place
  | .empty, ps => ps
  | .chars s, ps => ps.filterMap (Place.step? s)
  | .look l, ps => ps.filter (Place.satisfies l)
  | .seq e f, ps => f.reach (e.reach ps)
  | .alt e f, ps => Place.merge (e.reach ps) (f.reach ps)
  | .repeated e least most _, ps =>
    let (stepped, ps) := Place.iterate e.reach (min least (Place.rounds ps)) [] ps
    let further := match most with
      | some n => min (n - least) (Place.rounds ps)
      | none => Place.rounds ps
    Place.spread e.reach further ps (Place.without ps stepped)
  | .group _ e, ps => e.reach ps

/-- Whether some stretch of a text is matched. -/
def Expr.isFoundIn (e : Expr) (text : List Char) : Bool := !(e.reach (Place.everywhere text)).isEmpty

end ScenarioStubs.Regex
