import Mathlib.Data.List.Dedup
import Mathlib.Data.List.Perm.Basic
import ScenarioStubs.Proofs.Session.Cookies

/-!
# Laws of cookie parsing

A semicolon, with or without a blank behind it, parts what is read before it from what is read behind it
(`pairsOf_semicolon`, `pairsOf_semicolon_blank`), so texts that were joined by it are read one by one
(`pairsOf_intercalate`). Read in one header or in several, the pairs are inserted into the jar in the order written; of
those with one name the first counts (`get?_insertAll`), and there are as many cookies as names (`size_insertAll`).

Together: `parsing_undoes_joining`.
-/

namespace ScenarioStubs.Cookies

/-- The pair can be written into a `Cookie` header so that it is read again: the name is not empty and holds neither a
semicolon nor an equals sign, the value holds no semicolon, neither has white space at its ends, and the value has no
double quotes there. -/
structure IsWritable (pair : String × String) : Prop where
  name_ne_empty : pair.1 ≠ ""
  name_no_semicolon : ';' ∉ pair.1.toList
  name_no_equals : '=' ∉ pair.1.toList
  name_ends : ∀ c ∈ Text.ends pair.1.toList, Text.isWhiteSpace c = false
  value_no_semicolon : ';' ∉ pair.2.toList
  value_ends : ∀ c ∈ Text.ends pair.2.toList, Text.isWhiteSpace c = false ∧ c ≠ '"'

theorem isWritable_iff {pair : String × String} : IsWritable pair ↔
    (pair.1 ≠ "" ∧ ';' ∉ pair.1.toList ∧ '=' ∉ pair.1.toList ∧
      (Text.ends pair.1.toList).all (fun c => !Text.isWhiteSpace c) = true) ∧
      ';' ∉ pair.2.toList ∧ (Text.ends pair.2.toList).all (fun c => !Text.isWhiteSpace c && c != '"') = true := by
  simp only [List.all_eq_true, Bool.not_eq_true', Bool.and_eq_true, bne_iff_ne]
  exact ⟨fun h => ⟨⟨h.1, h.2, h.3, h.4⟩, h.5, h.6⟩, fun ⟨⟨h₁, h₂, h₃, h₄⟩, h₅, h₆⟩ => ⟨h₁, h₂, h₃, h₄, h₅, h₆⟩⟩

instance (pair : String × String) : Decidable (IsWritable pair) := decidable_of_iff _ isWritable_iff.symm

/-- A pair as it is written in a `Cookie` header. -/
def write (pair : String × String) : String := pair.1 ++ "=" ++ pair.2

variable {sep : String} {pair : String × String} {pairs : List (String × String)}

/-! ## Reading joined texts -/

theorem pairsOf_empty : pairsOf "" = [] := rfl

/-- What is read behind a semicolon does not depend on what stands before it. -/
theorem pairsOf_semicolon (before after : String) :
    pairsOf (before ++ ";" ++ after) = pairsOf before ++ pairsOf after := by
  have hlist : (before ++ ";" ++ after).toList = before.toList ++ ';' :: after.toList := by
    rw [String.toList_append, String.toList_append, List.append_assoc]
    rfl
  unfold pairsOf
  rw [hlist, Text.splitAll_append, List.filterMap_append]

/-- A segment holds the same cookie with white space in front of it. -/
theorem ofSegment?_cons {c : Char} (h : Text.isWhiteSpace c = true) (segment : List Char) :
    ofSegment? (c :: segment) = ofSegment? segment := by
  have hne : c ≠ '=' := by
    rintro rfl
    exact absurd h (by decide)
  unfold ofSegment?
  rw [Text.splitFirst?, if_neg hne]
  cases Text.splitFirst? '=' segment with
  | none => rfl
  | some parts =>
    have htrim : Text.trim (c :: parts.1) = Text.trim parts.1 := Text.trimBoth_cons h parts.1
    simp only [Option.map_some, Option.bind_eq_bind, Option.bind_some, htrim]

/-- The blank that is written behind a semicolon is not read. -/
theorem pairsOf_semicolon_blank (before after : String) :
    pairsOf (before ++ "; " ++ after) = pairsOf before ++ pairsOf after := by
  have hblank : pairsOf (" " ++ after) = pairsOf after := by
    have hne : ' ' ≠ ';' := by decide
    obtain ⟨first, rest, hsplit, hcons⟩ := Text.splitAll_cons_of_ne hne after.toList
    have hlist : (" " ++ after).toList = ' ' :: after.toList := String.toList_append
    unfold pairsOf
    rw [hlist, hcons, hsplit, List.filterMap_cons, List.filterMap_cons, ofSegment?_cons (by decide)]
  have htext : before ++ "; " ++ after = before ++ ";" ++ (" " ++ after) := by
    have hsep : "; " = ";" ++ " " := rfl
    rw [hsep, ← String.append_assoc, ← String.append_assoc]
  rw [htext, pairsOf_semicolon, hblank]

/-- Texts that were joined by what parts them when it is read are read one by one. -/
theorem pairsOf_intercalate
    (hsep : ∀ before after, pairsOf (before ++ sep ++ after) = pairsOf before ++ pairsOf after) (texts : List String) :
    pairsOf (sep.intercalate texts) = texts.flatMap pairsOf := by
  induction texts with
  | nil => rw [String.intercalate_nil, pairsOf_empty, List.flatMap_nil]
  | cons text rest ih =>
    cases rest with
    | nil => rw [String.intercalate_singleton, List.flatMap_singleton]
    | cons next rest =>
      rw [String.intercalate_cons_cons, hsep, ih]
      exact List.flatMap_cons.symm

/-! ## Reading what was written -/

/-- A pair that can be written is read as it was written. -/
theorem pairsOf_write (h : IsWritable pair) : pairsOf (write pair) = [pair] := by
  have hplain : IsPlain pair.1 := ⟨h.name_no_semicolon, h.name_no_equals, Text.trimBoth_of_ends h.name_ends⟩
  have htrim : Text.trim pair.2.toList = pair.2.toList := Text.trimBoth_of_ends fun c hc => (h.value_ends c hc).1
  have hquotes : Text.trimBoth (· == '"') pair.2.toList = pair.2.toList :=
    Text.trimBoth_of_ends fun c hc => beq_false_of_ne (h.value_ends c hc).2
  exact pairsOf_pair hplain h.name_ne_empty h.value_no_semicolon htrim hquotes

theorem flatMap_pairsOf_write (h : ∀ pair ∈ pairs, IsWritable pair) : (pairs.map write).flatMap pairsOf = pairs := by
  induction pairs with
  | nil => rfl
  | cons pair rest ih =>
    obtain ⟨hpair, hrest⟩ := List.forall_mem_cons.mp h
    rw [List.map_cons, List.flatMap_cons, pairsOf_write hpair, ih hrest, List.singleton_append]

/-! ## Counting -/

/-- A jar into which pairs were inserted holds as many cookies as the pairs have names. -/
theorem size_insertAll (pairs : List (String × String)) :
    (empty.insertAll pairs).size = (pairs.map (·.1)).dedup.length := by
  have hmem : ∀ name, name ∈ (empty.insertAll pairs).values.keys ↔ name ∈ (pairs.map (·.1)).dedup := by
    intro name
    have hget : (empty.insertAll pairs).values.get? name = pairs.lookup name := get?_insertAll empty pairs name
    rw [SortedMap.mem_keys, hget, List.mem_dedup, List.mem_map, List.lookup_isSome_iff]
    simp only [beq_iff_eq, eq_comm (a := name)]
  have hperm := (List.perm_ext_iff_of_nodup (SortedMap.nodup_keys _) (List.nodup_dedup _)).mpr hmem
  rw [← hperm.length_eq]
  exact List.length_map _ |>.symm

/-- **Parsing undoes joining.** The cookies of a request are those of the values of its `Cookie` headers, joined in wire
order with semicolons. Where pairs that can be written are written one behind another, the cookie read under a name is
the first pair with that name, if there is one, and there are as many cookies as names. -/
theorem parsing_undoes_joining :
    (∀ headers : Headers, ofHeaders headers = parse (";".intercalate (headers.getAll "cookie"))) ∧
      ∀ pairs : List (String × String), (∀ pair ∈ pairs, IsWritable pair) →
        (∀ name, (parse ("; ".intercalate (pairs.map write))).get? name = pairs.lookup name) ∧
          (parse ("; ".intercalate (pairs.map write))).size = (pairs.map (·.1)).dedup.length := by
  constructor
  · intro headers
    rw [ofHeaders_eq_insertAll, parse, addHeader, pairsOf_intercalate pairsOf_semicolon]
  · intro pairs hpairs
    have hjar : parse ("; ".intercalate (pairs.map write)) = empty.insertAll pairs := by
      rw [parse, addHeader, pairsOf_intercalate pairsOf_semicolon_blank, flatMap_pairsOf_write hpairs]
    rw [hjar]
    exact ⟨get?_insertAll empty pairs, size_insertAll pairs⟩

/-- The second pair under `a` does not count, and an equals sign, a double quote inside and an empty value are read as
they were written. -/
theorem parsing_undoes_joining_of_five :
    let pairs := [("a", "1=2"), ("ü b", ""), ("a", "3"), ("c", "x\"y"), ("A", "4")]
    let jar := parse "a=1=2; ü b=; a=3; c=x\"y; A=4"
    (∀ pair ∈ pairs, IsWritable pair) ∧ jar.get? "a" = some "1=2" ∧ jar.get? "ü b" = some "" ∧
      jar.get? "c" = some "x\"y" ∧ jar.get? "b" = none ∧ jar.size = 4 := by
  intro pairs jar
  have hpairs : ∀ pair ∈ pairs, IsWritable pair := by decide +kernel
  obtain ⟨hget, hsize⟩ := parsing_undoes_joining.2 pairs hpairs
  have hjar : parse ("; ".intercalate (pairs.map write)) = jar := by decide +kernel
  rw [hjar] at hget hsize
  exact ⟨hpairs, hget "a", hget "ü b", hget "c", hget "b", hsize⟩

end ScenarioStubs.Cookies
