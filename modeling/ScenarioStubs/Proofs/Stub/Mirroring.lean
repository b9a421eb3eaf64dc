import ScenarioStubs.Proofs.Stub.Export

/-!
# Compiled expressions mirror the fields

A pattern keeps its regular expressions compiled beside the fields that they come from. However a pattern was built, the
two are in step: an expression is kept exactly where a field asks for one, and it is compiled from what the field says
now (`Coherent.urlRegex_eq_some_iff`, `Coherent.headerRegex_eq_some_iff`), so the fields alone make the pattern again.
Evaluating a pattern looks expressions up under the names of headers; what it would answer if one were missing
(`evaluateElse`) therefore makes no difference (`Coherent.evaluateElse_eq`).

Together: `regexes_mirror_fields`.
-/

namespace ScenarioStubs

/-! ## Upper case -/

theorem Text.isLower_eq_false_of_toUpper_eq {c : Char} (h : c.toUpper = c) : c.isLower = false := by
  rw [← Bool.not_eq_true]
  intro hlower
  obtain ⟨hfrom, hto⟩ := Bool.and_eq_true_iff.mp hlower
  have hrange : 'a'.val ≤ c.val ∧ c.val ≤ 'z'.val := ⟨of_decide_eq_true hfrom, of_decide_eq_true hto⟩
  have hval := congrArg Char.val h
  unfold Char.toUpper at hval
  rw [dif_pos hrange] at hval
  -- Raising a letter moves it.
  have hmoved : c.val + ('A'.val - 'a'.val) = c.val := hval
  rw [UInt32.add_eq_left] at hmoved
  exact absurd hmoved (by decide)

/-- A text that raising leaves as it is has no letter to be raised. -/
theorem Text.isLower_eq_false_of_mem {s : String} (h : upperAscii s = s) {c : Char} (hc : c ∈ s.toList) :
    c.isLower = false := by
  have hlist : s.toList.map Char.toUpper = s.toList := by
    rw [← String.toList_map]
    exact congrArg String.toList h
  rw [← hlist, List.mem_map] at hc
  obtain ⟨c, -, rfl⟩ := hc
  exact isLower_eq_false_of_toUpper_eq (toUpper_toUpper c)

namespace RequestPattern

/-! ## Where an expression is missing -/

/-- The verdict on the value of a header, which is `missing` where no expression is found under the name. -/
def testHeaderElse (missing : Verdict) (regexes : SortedMap String WholeRegex) (name value : String) :
    HeaderMatcher → Verdict
  | .equalTo expected => .ok (value == expected)
  | .contains part => .ok (Text.hasStretch part.toList value.toList)
  | .regex _ =>
    match regexes.get? name with
    | some regex => regex.test value
    | none => missing

/-- The verdict of header constraints, up to the first that does not hold or whose expression is not found. -/
def testHeadersElse (missing : Verdict) (regexes : SortedMap String WholeRegex) (r : Request) :
    List (String × HeaderMatcher) → Verdict
  | [] => .ok true
  | (name, m) :: rest =>
    match r.headers.get? name with
    | none => .ok false
    | some value =>
      match testHeaderElse missing regexes name value m with
      | .ok true => testHeadersElse missing regexes r rest
      | verdict => verdict

/-- The verdict of a pattern, if `missing` were the verdict where the expression of a header is not found. -/
def evaluateElse (p : RequestPattern) (missing : Verdict) (r : Request) : Verdict :=
  if !p.methodMatches r then .ok false
  else if p.fields.url.any (· != r.url) then .ok false
  else if p.fields.urlPath.any (· != r.path) then .ok false
  else
    match p.urlRegex with
    | none => testHeadersElse missing p.headerRegexes r p.fields.headers.toList
    | some regex =>
      match regex.test r.url with
      | .ok true => testHeadersElse missing p.headerRegexes r p.fields.headers.toList
      | verdict => verdict

variable {p : RequestPattern} {r : Request} {regexes : SortedMap String WholeRegex} {name value : String}
  {m : HeaderMatcher} {entries : List (String × HeaderMatcher)}

theorem testHeaderElse_false : testHeaderElse (.ok false) regexes name value m = testHeader regexes name value m := by
  cases m <;> rfl

theorem testHeadersElse_false : testHeadersElse (.ok false) regexes r entries = testHeaders regexes r entries := by
  induction entries with
  | nil => rfl
  | cons e entries ih =>
    obtain ⟨name, m⟩ := e
    rw [testHeadersElse, testHeaders]
    cases r.headers.get? name with
    | none => rfl
    | some value =>
      cases htest : testHeader regexes name value m with
      | error e => simp only [testHeaderElse_false, htest]
      | ok holds => cases holds <;> simp only [testHeaderElse_false, htest, ih]

/-- An expression that is not found counts as one that does not match. -/
theorem evaluateElse_false (p : RequestPattern) (r : Request) : p.evaluateElse (.ok false) r = p.evaluate r := by
  unfold evaluateElse evaluate
  cases p.urlRegex with
  | none => simp only [testHeadersElse_false]
  | some regex =>
    cases htest : regex.test r.url with
    | error e => simp only [htest]
    | ok holds => cases holds <;> simp only [htest, testHeadersElse_false]

theorem testHeaderElse_congr (missing missing' : Verdict)
    (h : ∀ source, m = .regex source → (regexes.get? name).isSome = true) :
    testHeaderElse missing regexes name value m = testHeaderElse missing' regexes name value m := by
  cases m with
  | equalTo | contains => rfl
  | regex source =>
    obtain ⟨regex, hregex⟩ := Option.isSome_iff_exists.mp (h source rfl)
    unfold testHeaderElse
    simp only [hregex]

/-- Where every expression is found, the verdict does not depend on what it would be otherwise. -/
theorem testHeadersElse_congr (missing missing' : Verdict)
    (h : ∀ e ∈ entries, ∀ source, e.2 = .regex source → (regexes.get? e.1).isSome = true) :
    testHeadersElse missing regexes r entries = testHeadersElse missing' regexes r entries := by
  induction entries with
  | nil => rfl
  | cons e entries ih =>
    obtain ⟨hfirst, hrest⟩ := List.forall_mem_cons.mp h
    unfold testHeadersElse
    simp only [testHeaderElse_congr missing missing' hfirst, ih hrest]

/-! ## Patterns in step with their fields -/

theorem Coherent.urlRegex_eq_some_iff (h : p.Coherent) {regex : WholeRegex} :
    p.urlRegex = some regex ↔ ∃ source, p.fields.urlPattern = some source ∧ regex = .ofSource source := by
  rw [h.url, Option.map_eq_some_iff]
  simp only [eq_comm]

theorem Coherent.headerRegex_eq_some_iff (h : p.Coherent) {regex : WholeRegex} :
    p.headerRegexes.get? name = some regex ↔
      ∃ source, p.fields.headers.get? name = some (.regex source) ∧ regex = .ofSource source := by
  rw [h.headers, Option.bind_eq_some_iff]
  constructor
  · rintro ⟨m, hm, hregex⟩
    cases m with
    | equalTo | contains => cases hregex
    | regex source => exact ⟨source, hm, (Option.some.inj hregex).symm⟩
  · rintro ⟨source, hm, rfl⟩
    exact ⟨.regex source, hm, rfl⟩

theorem Coherent.isLower_eq_false (h : p.Coherent) {method : String} (hmethod : p.fields.method = some method)
    {c : Char} (hc : c ∈ method.toList) : c.isLower = false := by
  have hupper := h.method
  rw [hmethod, Option.map_some] at hupper
  exact Text.isLower_eq_false_of_mem (Option.some.inj hupper) hc

/-- No verdict of a coherent pattern comes of an expression that is not found. -/
theorem Coherent.evaluateElse_eq (h : p.Coherent) (missing : Verdict) (r : Request) :
    p.evaluateElse missing r = p.evaluate r := by
  have hfound : ∀ e ∈ p.fields.headers.toList, ∀ source, e.2 = .regex source →
      (p.headerRegexes.get? e.1).isSome = true := by
    rintro ⟨name, m⟩ he source rfl
    rw [h.headerRegex_eq_some_iff.mpr ⟨source, SortedMap.mem_toList.mp he, rfl⟩]
    rfl
  rw [← evaluateElse_false]
  unfold evaluateElse
  rw [testHeadersElse_congr missing (.ok false) hfound]

theorem Built.ofMethodAndUrl (method url : String) : (ofMethodAndUrl method url).Built :=
  (any.withMethod method).withUrl url

/-- **The compiled expressions mirror the fields.** Take a pattern, however it was built: begun without constraints,
with a method and a url, or with a written pattern, and then given constraints, some of them in place of others. Its
expression for the url is there exactly if it has a url pattern, and it is compiled from that. It has an expression
under the name of a header exactly if the constraint on that header is one now, and it is compiled from that. No letter
of its method is in lower case. It is the pattern of its fields, also when these are written and read again. What it
would answer where the expression of a header is missing makes no difference to any verdict. -/
theorem regexes_mirror_fields (h : p.Built) :
    (∀ regex, p.urlRegex = some regex ↔ ∃ source, p.fields.urlPattern = some source ∧ regex = .ofSource source) ∧
      (∀ name regex, p.headerRegexes.get? name = some regex ↔
        ∃ source, p.fields.headers.get? name = some (.regex source) ∧ regex = .ofSource source) ∧
      (∀ method, p.fields.method = some method → ∀ c ∈ method.toList, c.isLower = false) ∧
      ofFields p.fields = p ∧ (Json.parse? p.toJson.render).bind decode? = some p ∧
      ∀ missing r, p.evaluateElse missing r = p.evaluate r := by
  have hcoherent := h.coherent
  refine ⟨fun regex => hcoherent.urlRegex_eq_some_iff, fun name regex => hcoherent.headerRegex_eq_some_iff,
    fun method hmethod c hc => hcoherent.isLower_eq_false hmethod hc, h.ofFields_fields, ?_, hcoherent.evaluateElse_eq⟩
  rw [Json.parse?_render p.plain_toJson, Option.bind_some, decode?_toJson, h.ofFields_fields]

/-- The constraint on `x` is an expression, then none, then another expression; that on `y` is one no longer. -/
theorem regexes_mirror_fields_of_overwritten :
    let p := ((((((ofMethodAndUrl "get" "/a").withHeader "x" (.regex "[")).withHeader "x" (.equalTo "b")).withHeader "x"
      (.regex "c+")).withHeader "y" (.regex "d")).withHeader "y" (.contains "e")).withUrlPattern "/a.*"
    p.Built ∧ p.urlRegex = some (.ofSource "/a.*") ∧ p.headerRegexes.get? "x" = some (.ofSource "c+") ∧
      p.headerRegexes.get? "y" = none ∧ ofFields p.fields = p ∧
      ∀ missing r, p.evaluateElse missing r = p.evaluate r := by
  intro p
  have hbuilt : p.Built := ((((((Built.ofMethodAndUrl "get" "/a").withHeader "x" _).withHeader "x" _).withHeader "x"
    _).withHeader "y" _).withHeader "y" _).withUrlPattern _
  obtain ⟨hurl, hheaders, -, hfields, -, hverdicts⟩ := regexes_mirror_fields hbuilt
  have hx : p.fields.headers.get? "x" = some (.regex "c+") := by decide +kernel
  have hy : p.fields.headers.get? "y" = some (.contains "e") := by decide +kernel
  refine ⟨hbuilt, (hurl _).mpr ⟨_, rfl, rfl⟩, (hheaders "x" _).mpr ⟨_, hx, rfl⟩, ?_, hfields, hverdicts⟩
  rw [Option.eq_none_iff_forall_ne_some]
  intro regex hregex
  obtain ⟨source, hsource, -⟩ := (hheaders "y" regex).mp hregex
  cases hy.symm.trans hsource

end RequestPattern

end ScenarioStubs
