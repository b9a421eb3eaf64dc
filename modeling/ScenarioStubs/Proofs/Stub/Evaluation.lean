import ScenarioStubs.Proofs.Session.Resolution
import ScenarioStubs.Proofs.Stub.Pattern

/-!
# The verdict of a pattern

A pattern asks of a request that each of its constraints holds (`PatternFields.constraints`). A constraint has a verdict
of its own (`Constraint.test`), and the verdict of a pattern is the first in the order of its constraints that is not
`true` (`Coherent.evaluate_eq`), so it is found by looking for the constraint where the evaluation stops
(`testAll_eq_ok_true_iff`, `testAll_eq_iff_of_ne`). What the verdict of a constraint means is told by
`Constraint.test_eq_ok_true_iff` and `Constraint.test_eq_error_iff`. Together: `evaluate_of_built`.
-/

namespace ScenarioStubs

/-! ## Constraints -/

/-- One thing that a pattern asks of a request. -/
inductive Constraint
  | method (m : String)
  | url (u : String)
  | path (p : String)
  | urlRegex (source : String)
  | header (name : String) (m : HeaderMatcher)
  deriving DecidableEq

/-- What a pattern asks, in the order in which it is checked. -/
def PatternFields.constraints (f : PatternFields) : List Constraint :=
  f.method.toList.map .method ++ (f.url.toList.map .url ++ (f.urlPath.toList.map .path ++
    (f.urlPattern.toList.map .urlRegex ++ f.headers.toList.map fun e => .header e.1 e.2)))

/-- The expression for whole texts with a given source compiles, and it matches a text. -/
def WholeRegex.Admits (source text : String) : Prop :=
  ∃ e, (ofSource source).compiled = .ok e ∧ Regex.isMatch e text = true

/-- The expression for whole texts with a given source does not compile. -/
def WholeRegex.Broken (source : String) : Prop := ∃ cause, (ofSource source).compiled = .error cause

/-- The value of a header is as its constraint asks. -/
def HeaderMatcher.Admits (value : String) : HeaderMatcher → Prop
  | .equalTo expected => value = expected
  | .contains part => part.toList <:+: value.toList
  | .regex source => WholeRegex.Admits source value

namespace Constraint

/-- A request is as a constraint asks. Of several headers with the name that is asked for, up to the case of ASCII
letters, the first counts. -/
def Holds (r : Request) : Constraint → Prop
  | method m => m = "ANY" ∨ Text.sameIgnoringCase m r.method = true
  | url u => u = r.url
  | path p => p = r.path
  | urlRegex source => WholeRegex.Admits source r.url
  | header name m => ∃ value, r.headers.first? name = some value ∧ m.Admits value

/-- A constraint is a regular expression that does not compile, with a given source; on a header, this shows only where
the request has that header. -/
def BrokenOn (r : Request) (source : String) : Constraint → Prop
  | urlRegex source' => source' = source ∧ WholeRegex.Broken source
  | header name (.regex source') => source' = source ∧ WholeRegex.Broken source ∧ (r.headers.first? name).isSome = true
  | method _ | url _ | path _ | header _ (.equalTo _) | header _ (.contains _) => False

/-- The verdict of a constraint. -/
def test (r : Request) : Constraint → Verdict
  | method m => .ok (m == "ANY" || Text.sameIgnoringCase m r.method)
  | url u => .ok (u == r.url)
  | path p => .ok (p == r.path)
  | urlRegex source => (WholeRegex.ofSource source).test r.url
  | header name m =>
    match r.headers.get? name with
    | none => .ok false
    | some value =>
      match m with
      | .equalTo expected => .ok (value == expected)
      | .contains part => .ok (Text.hasStretch part.toList value.toList)
      | .regex source => (WholeRegex.ofSource source).test value

end Constraint

/-- The verdict of several constraints: the first that is not `true`. -/
def testAll (r : Request) : List Constraint → Verdict
  | [] => .ok true
  | c :: cs =>
    match c.test r with
    | .ok true => testAll r cs
    | verdict => verdict

/-! ## What verdicts mean -/

theorem Text.hasStretch_iff {part cs : List Char} : hasStretch part cs = true ↔ part <:+: cs := by
  induction cs with
  | nil => simp [hasStretch]
  | cons c cs ih => rw [hasStretch, Bool.or_eq_true, List.isPrefixOf_iff_prefix, ih, List.infix_cons_iff]

namespace WholeRegex

variable {source source' text : String}

theorem test_eq_ok_true_iff : (ofSource source).test text = .ok true ↔ Admits source text := by
  unfold test Admits
  cases (ofSource source).compiled <;> simp

theorem test_eq_error_iff :
    (ofSource source).test text = .error (.invalidPattern source') ↔ source = source' ∧ Broken source' := by
  unfold test
  constructor
  · intro h
    cases hcompiled : (ofSource source).compiled with
    | ok e =>
      rw [hcompiled] at h
      cases h
    | error cause =>
      rw [hcompiled] at h
      cases h
      exact ⟨rfl, cause, hcompiled⟩
  · rintro ⟨rfl, cause, hcompiled⟩
    rw [hcompiled]
    rfl

theorem test_ne_unevaluable (reason : String) : (ofSource source).test text ≠ .error (.unevaluable reason) := by
  unfold test
  cases (ofSource source).compiled <;> simp

end WholeRegex

namespace Constraint

variable {r : Request} {c : Constraint} {source : String}

theorem test_eq_ok_true_iff : c.test r = .ok true ↔ c.Holds r := by
  cases c with
  | method m => simp [test, Holds]
  | url u => simp [test, Holds]
  | path p => simp [test, Holds]
  | urlRegex source => exact WholeRegex.test_eq_ok_true_iff
  | header name m =>
    simp only [test, Holds, Headers.get?_eq_first?]
    cases r.headers.first? name with
    | none => simp
    | some value =>
      cases m with
      | equalTo expected => simp [HeaderMatcher.Admits]
      | contains part => simp [HeaderMatcher.Admits, Text.hasStretch_iff]
      | regex source => simp [HeaderMatcher.Admits, WholeRegex.test_eq_ok_true_iff]

theorem test_eq_error_iff : c.test r = .error (.invalidPattern source) ↔ c.BrokenOn r source := by
  cases c with
  | method | url | path => simp [test, BrokenOn]
  | urlRegex source => exact WholeRegex.test_eq_error_iff
  | header name m =>
    simp only [test, Headers.get?_eq_first?]
    cases hvalue : r.headers.first? name with
    | none => cases m <;> simp [BrokenOn, hvalue]
    | some value =>
      cases m with
      | equalTo | contains => simp [BrokenOn]
      | regex source => simp [BrokenOn, hvalue, WholeRegex.test_eq_error_iff]

theorem test_ne_unevaluable (reason : String) : c.test r ≠ .error (.unevaluable reason) := by
  cases c with
  | method | url | path => simp [test]
  | urlRegex source => exact WholeRegex.test_ne_unevaluable reason
  | header name m =>
    unfold test
    dsimp only
    cases r.headers.get? name with
    | none => simp
    | some value =>
      cases m with
      | equalTo | contains => simp
      | regex source => exact WholeRegex.test_ne_unevaluable reason

theorem BrokenOn.not_holds (h : c.BrokenOn r source) : ¬c.Holds r := fun hholds => by
  cases (test_eq_ok_true_iff.mpr hholds).symm.trans (test_eq_error_iff.mpr h)

/-- A constraint is refused if it neither holds nor is broken. -/
theorem test_eq_ok_false_iff : c.test r = .ok false ↔ ¬c.Holds r ∧ ∀ source, ¬c.BrokenOn r source := by
  simp only [← test_eq_ok_true_iff, ← test_eq_error_iff]
  have hreason := fun reason => test_ne_unevaluable (r := r) (c := c) reason
  generalize c.test r = verdict at hreason ⊢
  match verdict with
  | .ok true => simp
  | .ok false => simp
  | .error (.invalidPattern source) => simp
  | .error (.unevaluable reason) => exact absurd rfl (hreason reason)

end Constraint

/-! ## Where the evaluation stops -/

variable {r : Request} {cs cs' : List Constraint}

theorem testAll_append (h : testAll r cs = .ok true) : testAll r (cs ++ cs') = testAll r cs' := by
  induction cs with
  | nil => rfl
  | cons c cs ih =>
    unfold testAll at h
    split at h
    case h_1 hc =>
      rw [List.cons_append, testAll, hc]
      exact ih h
    case h_2 hc => exact absurd h hc

theorem testAll_eq_ok_true_iff : testAll r cs = .ok true ↔ ∀ c ∈ cs, c.Holds r := by
  induction cs with
  | nil => simp [testAll]
  | cons c cs ih =>
    rw [List.forall_mem_cons, ← ih, ← Constraint.test_eq_ok_true_iff, testAll]
    split
    case h_1 hc => exact (and_iff_right hc).symm
    case h_2 hc => exact iff_of_false hc fun h => hc h.1

/-- A verdict other than `true` is that of the first constraint that does not hold. -/
theorem testAll_eq_iff_of_ne {verdict : Verdict} (hne : verdict ≠ .ok true) : testAll r cs = verdict ↔
    ∃ before c after, cs = before ++ c :: after ∧ (∀ b ∈ before, b.Holds r) ∧ c.test r = verdict := by
  constructor
  · intro h
    induction cs with
    | nil => exact absurd h.symm hne
    | cons c cs ih =>
      unfold testAll at h
      split at h
      case h_1 hc =>
        obtain ⟨before, c', after, rfl, hbefore, htest⟩ := ih h
        refine ⟨c :: before, c', after, rfl, ?_, htest⟩
        exact List.forall_mem_cons.mpr ⟨Constraint.test_eq_ok_true_iff.mp hc, hbefore⟩
      case h_2 => exact ⟨[], c, cs, rfl, by simp, h⟩
  · rintro ⟨before, c, after, rfl, hbefore, htest⟩
    rw [testAll_append (testAll_eq_ok_true_iff.mpr hbefore), testAll, htest]
    split
    case h_1 => exact absurd rfl hne
    case h_2 => rfl

/-! ## Patterns -/

namespace RequestPattern

variable {p : RequestPattern}

/-- The regular expression that is looked up under the name of a header is that of its constraint. -/
theorem test_header_eq (h : p.Coherent) {name value : String} {m : HeaderMatcher}
    (hm : p.fields.headers.get? name = some m) (hvalue : r.headers.get? name = some value) :
    (Constraint.header name m).test r = testHeader p.headerRegexes name value m := by
  have hregex := h.headers name
  rw [hm, Option.bind_some] at hregex
  unfold Constraint.test
  dsimp only
  rw [hvalue]
  cases m with
  | equalTo | contains => rfl
  | regex source =>
    unfold testHeader
    dsimp only
    rw [hregex]
    rfl

theorem testHeaders_eq (h : p.Coherent) {entries : List (String × HeaderMatcher)}
    (hentries : ∀ e ∈ entries, p.fields.headers.get? e.1 = some e.2) :
    testHeaders p.headerRegexes r entries = testAll r (entries.map fun e => .header e.1 e.2) := by
  induction entries with
  | nil => rfl
  | cons e entries ih =>
    obtain ⟨name, m⟩ := e
    obtain ⟨hfirst, hrest⟩ := List.forall_mem_cons.mp hentries
    rw [List.map_cons, testAll, ← ih hrest, testHeaders]
    cases hvalue : r.headers.get? name with
    | none => simp only [Constraint.test, hvalue]
    | some value => exact test_header_eq h hfirst hvalue ▸ rfl

/-- A constraint that may be left out, and is fulfilled or not. -/
theorem testAll_optional {f : String → Constraint} {check : String → Bool} (hf : ∀ s, (f s).test r = .ok (check s))
    (field : Option String) (cs : List Constraint) :
    testAll r (field.toList.map f ++ cs) = if field.any fun s => !check s then .ok false else testAll r cs := by
  cases field with
  | none => rfl
  | some s =>
    show testAll r (f s :: cs) = _
    rw [testAll, hf, Option.any_some]
    cases check s <;> rfl

/-- A pattern is evaluated constraint by constraint. -/
theorem Coherent.evaluate_eq (h : p.Coherent) : p.evaluate r = testAll r p.fields.constraints := by
  have hheaders : testHeaders p.headerRegexes r p.fields.headers.toList =
      testAll r (p.fields.headers.toList.map fun e => .header e.1 e.2) :=
    testHeaders_eq h fun e he => SortedMap.mem_toList.mp he
  have hmethod : (!p.methodMatches r) =
      p.fields.method.any fun m => !(m == "ANY" || Text.sameIgnoringCase m r.method) := by
    unfold methodMatches
    cases p.fields.method <;> rfl
  unfold evaluate PatternFields.constraints
  rw [testAll_optional (f := .method) fun _ => rfl, testAll_optional (f := .url) fun _ => rfl,
    testAll_optional (f := .path) fun _ => rfl, hmethod, hheaders, h.url]
  cases p.fields.urlPattern with
  | none => rfl
  | some source => rfl

/-- **The verdict of a pattern.** Take a pattern, however it was built, and a request. The constraints on headers come
last, ascending by name. The verdict is `true` exactly if every constraint holds, so that every regular expression among
them compiles. It is the error about a regular expression exactly if the first constraint that does not hold is that
expression and it does not compile, and `false` exactly if the first that does not hold is none such. There is no other
verdict. -/
theorem evaluate_of_built (h : p.Built) (r : Request) :
    (p.fields.headers.keys.Pairwise fun j k => compare j k = .lt) ∧
      (p.evaluate r = .ok true ↔ ∀ c ∈ p.fields.constraints, c.Holds r) ∧
      (∀ source, p.evaluate r = .error (.invalidPattern source) ↔ ∃ before c after,
        p.fields.constraints = before ++ c :: after ∧ (∀ b ∈ before, b.Holds r) ∧ ¬c.Holds r ∧ c.BrokenOn r source) ∧
      (p.evaluate r = .ok false ↔ ∃ before c after, p.fields.constraints = before ++ c :: after ∧
        (∀ b ∈ before, b.Holds r) ∧ ¬c.Holds r ∧ ∀ source, ¬c.BrokenOn r source) ∧
      ∀ reason, p.evaluate r ≠ .error (.unevaluable reason) := by
  rw [h.coherent.evaluate_eq]
  refine ⟨SortedMap.pairwise_keys _, testAll_eq_ok_true_iff, fun source => ?_, ?_, fun reason hreason => ?_⟩
  · have hbroken (c : Constraint) : ¬c.Holds r ∧ c.BrokenOn r source ↔ c.BrokenOn r source :=
      and_iff_right_of_imp Constraint.BrokenOn.not_holds
    have hne : (.error (.invalidPattern source) : Verdict) ≠ .ok true := by simp
    simp only [testAll_eq_iff_of_ne hne, Constraint.test_eq_error_iff, hbroken]
  · have hne : (.ok false : Verdict) ≠ .ok true := by simp
    simp only [testAll_eq_iff_of_ne hne, Constraint.test_eq_ok_false_iff]
  · obtain ⟨-, c, -, -, -, htest⟩ := (testAll_eq_iff_of_ne (by simp)).mp hreason
    exact Constraint.test_ne_unevaluable reason htest

/-- The regular expression does not compile: this shows on a request with the header, unless the method is another. -/
theorem evaluate_of_built_of_broken_header :
    let p := ((any.withMethod "get").withUrlPath "/a").withHeader "x" (.regex "(")
    let r := (Request.new "Get" "/a?b").withHeader "X" "v"
    p.evaluate r = .error (.invalidPattern "(") ∧ p.evaluate (Request.new "GET" "/a") = .ok false ∧
      p.evaluate ((Request.new "PUT" "/a").withHeader "X" "v") = .ok false := by
  intro p r
  have hbuilt : p.Built := ((Built.any.withMethod "get").withUrlPath "/a").withHeader "x" (.regex "(")
  have hconstraints : p.fields.constraints = [.method "GET", .path "/a"] ++ [.header "x" (.regex "(")] := by
    decide +kernel
  have hbroken : WholeRegex.Broken "(" := ⟨.groupUnclosed, rfl⟩
  have hbefore {r : Request} (hmethod : r.method = "GET") (hpath : r.path = "/a") :
      ∀ b ∈ [Constraint.method "GET", .path "/a"], b.Holds r := by
    intro b hb
    simp only [List.mem_cons, List.not_mem_nil, or_false] at hb
    rcases hb with rfl | rfl
    · exact .inr (by rw [hmethod]; decide +kernel)
    · exact hpath.symm
  refine ⟨?_, ?_, ?_⟩
  · obtain ⟨-, -, herror, -, -⟩ := evaluate_of_built hbuilt r
    have hsome : (r.headers.first? "x").isSome = true := by
      unfold Headers.first?
      simp only [Text.sameIgnoringCase_eq]
      decide +kernel
    have hon : (Constraint.header "x" (.regex "(")).BrokenOn r "(" := ⟨rfl, hbroken, hsome⟩
    exact (herror "(").mpr ⟨_, _, _, hconstraints, hbefore (by decide +kernel) (by decide +kernel), hon.not_holds, hon⟩
  · obtain ⟨-, -, -, hfalse, -⟩ := evaluate_of_built hbuilt (Request.new "GET" "/a")
    have hnone : (Request.new "GET" "/a").headers.first? "x" = none := rfl
    refine hfalse.mpr ⟨_, _, _, hconstraints, hbefore (by decide +kernel) (by decide +kernel), ?_, ?_⟩
    · rintro ⟨value, hvalue, -⟩
      cases hnone.symm.trans hvalue
    · rintro source ⟨-, -, hsome⟩
      rw [hnone] at hsome
      cases hsome
  · obtain ⟨-, -, -, hfalse, -⟩ := evaluate_of_built hbuilt ((Request.new "PUT" "/a").withHeader "X" "v")
    refine hfalse.mpr ⟨[], _, _, hconstraints, by simp, ?_, fun _ => id⟩
    rintro (hany | hsame)
    · exact absurd hany (by decide)
    · exact absurd hsame (by decide +kernel)

end RequestPattern

end ScenarioStubs
