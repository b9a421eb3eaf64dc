import ScenarioStubs.Proofs.SortedMap
import ScenarioStubs.Proofs.Text.Split
import ScenarioStubs.Session.Cookies

/-!
# Which cookies a request can hold

A name is plain if it holds neither a semicolon nor an equals sign and has no white space at its ends
(`Cookies.IsPlain`). Only cookies with plain names are ever read off a request (`isPlain_of_get?`), and a cookie with a
plain name and a value without anything to be trimmed is read as it was written (`get?_parse_pair`).
-/

namespace ScenarioStubs.Cookies

/-- A name that can be read off a `Cookie` header. -/
structure IsPlain (name : String) : Prop where
  no_semicolon : ';' ∉ name.toList
  no_equals : '=' ∉ name.toList
  trimmed : Text.trim name.toList = name.toList

theorem isPlain_iff {name : String} :
    IsPlain name ↔ ';' ∉ name.toList ∧ '=' ∉ name.toList ∧ Text.trim name.toList = name.toList :=
  ⟨fun h => ⟨h.no_semicolon, h.no_equals, h.trimmed⟩, fun ⟨h₁, h₂, h₃⟩ => ⟨h₁, h₂, h₃⟩⟩

instance (name : String) : Decidable (IsPlain name) := decidable_of_iff _ isPlain_iff.symm

variable {name value header : String}

/-! ## Segments -/

theorem isPlain_of_ofSegment? {segment : List Char} (hsegment : ';' ∉ segment)
    (h : ofSegment? segment = some (name, value)) : IsPlain name := by
  unfold ofSegment? at h
  obtain ⟨⟨before, after⟩, hsplit, h⟩ := Option.bind_eq_some_iff.mp h
  dsimp only at h
  split at h
  case isTrue => cases h
  case isFalse =>
    cases h
    constructor
    case no_semicolon =>
      rw [String.toList_ofList]
      exact fun hmem => hsegment (Text.mem_of_splitFirst? hsplit (Text.mem_of_mem_trimBoth hmem))
    case no_equals =>
      rw [String.toList_ofList]
      exact fun hmem => Text.not_mem_of_splitFirst? hsplit (Text.mem_of_mem_trimBoth hmem)
    case trimmed =>
      rw [String.toList_ofList]
      exact Text.trimBoth_trimBoth _ before

theorem isPlain_of_mem_pairsOf (h : (name, value) ∈ pairsOf header) : IsPlain name := by
  obtain ⟨segment, hsegment, hpair⟩ := List.mem_filterMap.mp h
  exact isPlain_of_ofSegment? (Text.not_mem_of_mem_splitAll hsegment) hpair

/-- A pair of a plain name and a value without anything to be trimmed is read as it was written. -/
theorem pairsOf_pair (hname : IsPlain name) (hne : name ≠ "") (hsemicolon : ';' ∉ value.toList)
    (htrim : Text.trim value.toList = value.toList)
    (hquotes : Text.trimBoth (· == '"') value.toList = value.toList) :
    pairsOf (name ++ "=" ++ value) = [(name, value)] := by
  have hlist : (name ++ "=" ++ value).toList = name.toList ++ '=' :: value.toList := by
    rw [String.toList_append, String.toList_append, List.append_assoc]
    rfl
  have hwhole : ';' ∉ name.toList ++ '=' :: value.toList := by
    intro hmem
    rcases List.mem_append.mp hmem with hmem | hmem
    · exact hname.no_semicolon hmem
    rcases List.mem_cons.mp hmem with heq | hmem
    · exact absurd heq (by decide)
    · exact hsemicolon hmem
  have hpair : ofSegment? (name.toList ++ '=' :: value.toList) = some (name, value) := by
    unfold ofSegment?
    rw [Text.splitFirst?_append_cons hname.no_equals]
    simp [hname.trimmed, hne, htrim, hquotes]
  unfold pairsOf
  rw [hlist, Text.splitAll_of_not_mem hwhole]
  simp [hpair]

/-! ## Jars -/

/-- Of the pairs that are inserted into a jar, the first with a name counts, unless the jar had that name before. -/
theorem get?_insertAll (jar : Cookies) (pairs : List (String × String)) (name : String) :
    (jar.insertAll pairs).get? name = (jar.get? name).or (pairs.lookup name) := by
  unfold insertAll
  induction pairs generalizing jar with
  | nil => simp
  | cons pair pairs ih =>
    obtain ⟨name', value'⟩ := pair
    rw [List.foldl_cons, ih]
    have hinsert : (jar.insert name' value').get? name =
        if name = name' then some ((jar.get? name').getD value') else jar.get? name :=
      SortedMap.get?_insertNew jar.values name name' value'
    rw [hinsert]
    by_cases hname : name = name'
    · subst hname
      rw [if_pos rfl, List.lookup_cons_self]
      cases jar.get? name <;> rfl
    · rw [if_neg hname, List.lookup_cons, beq_false_of_ne hname]

/-- The jar of a request has the pairs of its `Cookie` headers inserted in turn. -/
theorem ofHeaders_eq_insertAll (headers : Headers) :
    ofHeaders headers = empty.insertAll ((headers.getAll "cookie").flatMap pairsOf) :=
  List.foldl_flatMap.symm

/-- Of the cookies that are written in the `Cookie` headers of a request, the first with a name counts. -/
theorem get?_ofHeaders (headers : Headers) (name : String) :
    (ofHeaders headers).get? name = ((headers.getAll "cookie").flatMap pairsOf).lookup name := by
  rw [ofHeaders_eq_insertAll, get?_insertAll]
  rfl

/-- Every cookie of a request was written in one of its `Cookie` headers. -/
theorem exists_pair_of_get? {headers : Headers} (h : (ofHeaders headers).get? name = some value) :
    ∃ header ∈ headers.getAll "cookie", (name, value) ∈ pairsOf header := by
  rw [get?_ofHeaders] at h
  obtain ⟨front, back, heq, -⟩ := List.lookup_eq_some_iff.mp h
  refine List.mem_flatMap.mp ?_
  rw [heq]
  exact List.mem_append_right _ List.mem_cons_self

/-- Only cookies with plain names are read off a request. -/
theorem isPlain_of_get? {headers : Headers} (h : (ofHeaders headers).get? name = some value) : IsPlain name := by
  obtain ⟨header, -, hpair⟩ := exists_pair_of_get? h
  exact isPlain_of_mem_pairsOf hpair

/-- The jar of a request with one `Cookie` header that holds one pair. -/
theorem get?_of_pair {headers : Headers} (hheader : headers.getAll "cookie" = [name ++ "=" ++ value])
    (hpairs : pairsOf (name ++ "=" ++ value) = [(name, value)]) : (ofHeaders headers).get? name = some value := by
  rw [get?_ofHeaders, hheader, List.flatMap_singleton, hpairs, List.lookup_cons_self]

end ScenarioStubs.Cookies
