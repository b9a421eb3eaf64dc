import Std.Data.HashMap.Basic
import ScenarioStubs.Regex.ByteSequence
import ScenarioStubs.Regex.Shape

/-!
# Sizes of automata

A pattern is refused if one of the two automata that search for it, the one that reads forward or the one that reads
backward, would take too much space. The automata are not built, only counted: `Shape.fits` says whether both stay
within the limit. A state takes 32 bytes, each way out of a branching state 4 more, and each range of bytes of a state
with several 8 more.
-/

namespace ScenarioStubs.Regex

open Unicode (CharSet)

/-- What has been counted of an automaton: its states, and the bytes besides the fixed ones of each state. -/
structure Tally where
  states : Nat
  extra : Nat

/-- The greatest size of an automaton in bytes. -/
def maxBytes : Nat := 10485760

/-- Some states and bytes more, unless that is too much. -/
def Tally.add (states extra : Nat) (t : Tally) : Option Tally :=
  if 32 * (t.states + states) + (t.extra + extra) ≤ maxBytes then some ⟨t.states + states, t.extra + extra⟩ else none

/-- The direction in which an automaton reads. -/
inductive Direction
  | forward
  | backward
  deriving DecidableEq

/-! ## Classes

States for the bytes of a class are shared where they lead to the same. The states built for a class are remembered in
a number of slots; one whose slot another has taken is built again. -/

/-- A count, and the states built for one class: by slot, what such a state is and its number. -/
structure Draft where
  tally : Tally
  built : Std.HashMap Nat (List Nat × Nat)

/-- The slot of a state among a number of slots, by the FNV-1a hash of its numbers. -/
def Draft.slot (slots : Nat) (key : List Nat) : Nat :=
  (key.foldl (fun h n => (h ^^^ n.toUInt64) * 1099511628211) (14695981039346656037 : UInt64)).toNat % slots

/-- The number of a state that is described by a key, if it is remembered. -/
def Draft.known? (built : Std.HashMap Nat (List Nat × Nat)) (place : Nat) (key : List Nat) : Option Nat :=
  match built[place]? with
  | some (known, number) => if known = key then some number else none
  | none => none

/-- The number of a state that is described by a key, built now unless it is remembered. -/
def Draft.state (slots extra : Nat) (key : List Nat) : Draft → Option (Nat × Draft)
  | ⟨tally, built⟩ =>
    let place := slot slots key
    match known? built place key with
    | some number => some (number, ⟨tally, built⟩)
    | none =>
      match tally.add 1 extra with
      | some t => some (tally.states, ⟨t, built.insert place (key, tally.states)⟩)
      | none => none

/-- A state still being built: the ranges of bytes that lead on from it, each with the state it leads to, and the last
range, which leads to a state that is still being built too. -/
structure OpenState where
  links : List Nat
  last : ByteRange

/-- The open states, from the outermost, are finished; the innermost leads to the target. -/
def OpenState.close (target : Nat) : List OpenState → Draft → Option (Nat × Draft)
  | [], d => some (target, d)
  | s :: inner, d => do
    let (next, d) ← close target inner d
    let links := s.links ++ [s.last.1, s.last.2, next]
    d.state 10000 (8 * (links.length / 3)) links

/-- The open states after a further sequence: those that it shares stay open. -/
def OpenState.add (target : Nat) : List OpenState → List ByteRange → Draft → Option (List OpenState × Draft)
  | [], seq, d => some (seq.map fun r => ⟨[], r⟩, d)
  | states, [], d => some (states, d)
  | s :: inner, r :: seq, d =>
    if s.last = r then do
      let (inner, d) ← add target inner seq d
      return (s :: inner, d)
    else do
      let (next, d) ← close target inner d
      return (⟨s.links ++ [s.last.1, s.last.2, next], r⟩ :: seq.map fun r => ⟨[], r⟩, d)

/-- The count with the states of some sequences for reading forward: they share their first and their last bytes. -/
def growForward (seqs : List (List ByteRange)) (t : Tally) : Option Tally := do
  let target := t.states
  let d : Draft := ⟨← t.add 1 0, ∅⟩
  let (states, d) ← seqs.foldlM (fun (states, d) seq => OpenState.add target states seq d) ([], d)
  let (_, d) ← OpenState.close target states d
  return d.tally

/-- The count with the states of some sequences for reading backward: they share their first bytes, which are read
last. -/
def growBackward (seqs : List (List ByteRange)) (t : Tally) : Option Tally := do
  let target := t.states + 1
  let d : Draft := ⟨← t.add 2 0, ∅⟩
  let d ← seqs.foldlM (fun d seq => do
    let (_, d) ← seq.foldlM (fun (next, d) r => Draft.state 1000 0 [next, r.1, r.2] d) (target, d)
    return { d with tally := ← d.tally.add 0 4 }) d
  return d.tally

/-! ## Choices between words

The words share what they begin with, but a word that ends within another keeps the words after it apart from those
before it, since the earlier one is preferred. -/

/-- The rests of words between those that have ended; ends in front count once. -/
def runs (rows : List (List Nat)) : List (List (List Nat)) :=
  let rec split : List (List Nat) → List (List (List Nat))
    | [] => [[]]
    | [] :: rows => [] :: split rows
    | row :: rows =>
      match split rows with
      | [] => [[row]]
      | run :: runs => (row :: run) :: runs
  split (match rows with
    | [] :: rows => [] :: rows.dropWhile List.isEmpty
    | rows => rows)

/-- The states and further bytes for some words from a given depth on, which bounds their length. -/
def wordStates : Nat → List (List Nat) → Nat × Nat
  | 0, _ => (0, 0)
  | depth + 1, rows =>
    let runs := runs rows
    let add (m n : Nat × Nat) : Nat × Nat := (m.1 + n.1, m.2 + n.2)
    runs.foldr (fun run n =>
      let firsts := (run.filterMap List.head?).eraseDups
      let here := match firsts.length with
        | 0 => (0, 0)
        | 1 => (1, 4)
        | n => (1, 8 * n + 4)
      firsts.foldr (fun b n =>
        let rests := (run.filter fun row => row.head? == some b).map (·.drop 1)
        if rests.all List.isEmpty then n else add (wordStates depth rests) n) (add here n))
      (1, 4 * (runs.length - 1))

/-! ## Pieces -/

/-- A piece of an automaton: how it adds to a count, whether it ends in a branching state, which takes a way out for
what comes after it, and its bytes if it is a word. -/
structure Piece where
  grow : Tally → Option Tally
  isOpen : Bool := false
  word? : Option (List Nat) := none

namespace Piece

/-- The bytes for leaving a piece. -/
def exitBytes (p : Piece) : Nat := if p.isOpen then 4 else 0

/-- A single state. -/
def single : Piece := { grow := Tally.add 1 0 }

/-- A word, a state for each byte. -/
def word (bytes : List Nat) : Piece := { grow := Tally.add bytes.length 0, word? := some bytes }

/-- A class. One of ASCII characters is two states. -/
def ofClass (dir : Direction) (s : CharSet) : Piece :=
  if s.isAscii then { grow := Tally.add 2 (8 * s.ranges.length) }
  else
    let seqs := ByteSequence.ofSet s
    match dir with
    | .forward => { grow := growForward seqs }
    | .backward => { grow := growBackward seqs }

/-- One piece and then another. -/
def andThen (p q : Piece) : Piece where
  grow t := do q.grow (← (← p.grow t).add 0 p.exitBytes)
  isOpen := q.isOpen

/-- A count that grows in the same way a number of times. -/
def times (f : Tally → Option Tally) : Nat → Tally → Option Tally
  | 0, t => some t
  | n + 1, t =>
    match f t with
    | some t => times f n t
    | none => none

/-- A number of copies of a piece. -/
def exactly (p : Piece) : Nat → Piece
  | 0 => single
  | n + 1 =>
    { grow := fun t => do times (fun t => do p.grow (← t.add 0 p.exitBytes)) n (← p.grow t), isOpen := p.isOpen }

/-- A piece or nothing. -/
def optional (p : Piece) : Piece where
  grow t := do (← p.grow (← t.add 1 8)).add 1 p.exitBytes

/-- At least a number of copies of a piece, which may be said to match nothing but non-empty stretches. -/
def atLeast (p : Piece) (advances : Bool) : Nat → Piece
  | 0 =>
    if advances then { grow := fun t => do (← p.grow (← t.add 1 4)).add 0 p.exitBytes, isOpen := true }
    else { grow := fun t => do (← p.grow t).add 3 (16 + p.exitBytes) }
  | n + 1 => { grow := fun t => do (← (p.exactly (n + 1)).grow t).add 1 (4 + p.exitBytes), isOpen := true }

/-- Up to a number of further copies after the least number of copies of a piece. -/
def bounded (p : Piece) (least further : Nat) : Piece where
  grow t := do
    let t ← (← (p.exactly least).grow t).add 1 (p.exactly least).exitBytes
    times (fun t => do (← p.grow (← t.add 1 8)).add 0 p.exitBytes) further t

/-- A choice between pieces. One between words alone is made byte by byte. -/
def oneOf : List Piece → Piece
  | [] => single
  | [p] => p
  | p :: q :: rest =>
    match (p :: q :: rest).mapM word? with
    | some words =>
      let n := wordStates (words.foldr (fun w depth => max (w.length + 1) depth) 0) words
      { grow := Tally.add (n.1 + 1) n.2 }
    | none =>
      { grow := fun t => do
          let t ← (← q.grow (← p.grow t)).add 2 (8 + p.exitBytes + q.exitBytes)
          rest.foldlM (fun t r => do (← r.grow t).add 0 (4 + r.exitBytes)) t }

/-- What a capture adds around a piece: two states, for reading forward. -/
def captured (dir : Direction) (p : Piece) : Piece :=
  match dir with
  | .forward => { grow := fun t => do (← p.grow (← t.add 1 0)).add 1 p.exitBytes }
  | .backward => { p with word? := none }

end Piece

/-- The pieces of the branches of a shape; one without branches is a single piece. -/
def Shape.pieces (dir : Direction) : Shape → List Piece
  | .empty | .look _ => [.single]
  | .literal w =>
    let bytes := w.flatMap utf8Bytes
    [.word (if dir = .forward then bytes else bytes.reverse)]
  | .klass s => [.ofClass dir s]
  | .repetition body least most _ =>
    let p := Piece.oneOf (body.pieces dir)
    match least, most with
    | 0, some 1 => [p.optional]
    | least, none => [p.atLeast (body.minLength.any (0 < ·)) least]
    | least, some most => [if least = most then p.exactly least else p.bounded least (most - least)]
  | .capture _ body => [(Piece.oneOf (body.pieces dir)).captured dir]
  | .concat first rest =>
    let p := Piece.oneOf (first.pieces dir)
    let q := Piece.oneOf (rest.pieces dir)
    [if dir = .forward then p.andThen q else q.andThen p]
  | .choice first rest => Piece.oneOf (first.pieces dir) :: rest.pieces dir

/-- Whether the automaton for a shape stays within the limit in one direction. A search that may begin anywhere takes
three states before the shape's own. -/
def Shape.fitsIn (dir : Direction) (e : Shape) : Bool :=
  let isAnchored := if dir = .forward then e.startsAnchored else e.endsAnchored
  let p := Piece.oneOf (e.pieces dir)
  let p := if dir = .forward then p.captured .forward else p
  let whole : Option Tally := do
    let t ← Tally.add (if isAnchored then 1 else 3) (if isAnchored then 0 else 16) ⟨0, 0⟩
    (← p.grow t).add 1 p.exitBytes
  whole.isSome

/-- Whether the automata for a shape stay within the limit. -/
def Shape.fits (e : Shape) : Bool := e.fitsIn .forward && e.fitsIn .backward

end ScenarioStubs.Regex
