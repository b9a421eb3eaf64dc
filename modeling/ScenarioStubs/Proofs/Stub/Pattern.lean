import ScenarioStubs.Proofs.SortedMap
import ScenarioStubs.Stub.Pattern

/-!
# Patterns and the fields that they come from

However a pattern is built (`RequestPattern.Built`), it is the pattern of its fields (`Built.ofFields_fields`): its
method is in upper case, and its compiled regular expressions are those of its url pattern and of the headers that are
constrained by one. Each step of building keeps this (`Coherent`).
-/

namespace ScenarioStubs

/-! ## Upper case -/

theorem Text.toUpper_toUpper (c : Char) : c.toUpper.toUpper = c.toUpper := by
  unfold Char.toUpper
  by_cases h : 'a'.val ≤ c.val ∧ c.val ≤ 'z'.val
  · -- A raised letter lies below the letters that are raised.
    have hbelow : ¬ 'a'.val ≤ c.val + ('A'.val - 'a'.val) := by
      obtain ⟨hlow, hhigh⟩ := h
      rw [UInt32.le_iff_toNat_le] at hlow hhigh ⊢
      rw [UInt32.toNat_add]
      have hlow : 97 ≤ c.val.toNat := hlow
      have hhigh : c.val.toNat ≤ 122 := hhigh
      show ¬97 ≤ (c.val.toNat + 4294967264) % 4294967296
      omega
    rw [dif_pos h, dif_neg fun h' => hbelow h'.1]
  · rw [dif_neg h, dif_neg h]

theorem Text.upperAscii_upperAscii (s : String) : upperAscii (upperAscii s) = upperAscii s := by
  unfold upperAscii
  rw [String.map_map]
  exact congrArg (String.map · s) (funext toUpper_toUpper)

namespace RequestPattern

/-- The ways to come by a pattern: to begin without constraints or with a written pattern, and to add constraints. -/
inductive Built : RequestPattern → Prop
  | any : Built .any
  | decoded {v : Json} {p : RequestPattern} (h : decode? v = some p) : Built p
  | withMethod {p : RequestPattern} (h : Built p) (method : String) : Built (p.withMethod method)
  | withUrl {p : RequestPattern} (h : Built p) (url : String) : Built (p.withUrl url)
  | withUrlPath {p : RequestPattern} (h : Built p) (path : String) : Built (p.withUrlPath path)
  | withUrlPattern {p : RequestPattern} (h : Built p) (source : String) : Built (p.withUrlPattern source)
  | withHeader {p : RequestPattern} (h : Built p) (name : String) (m : HeaderMatcher) : Built (p.withHeader name m)

/-! ## Compiled headers -/

/-- The compiled regular expression of a header constraint, if it is one. -/
def compiled? : HeaderMatcher → Option WholeRegex
  | .regex source => some (.ofSource source)
  | .equalTo _ | .contains _ => none

theorem compileHeaders_eq (headers : SortedMap String HeaderMatcher) : compileHeaders headers =
    .ofList (headers.toList.filterMap fun e => (compiled? e.2).map (e.1, ·)) := by
  unfold compileHeaders
  refine congrArg (fun f => SortedMap.ofList (headers.toList.filterMap f)) (funext fun e => ?_)
  obtain ⟨name, m⟩ := e
  cases m <;> rfl

/-- The regular expressions of compiled headers are those of the constraints. -/
theorem get?_compileHeaders (headers : SortedMap String HeaderMatcher) (name : String) :
    (compileHeaders headers).get? name = (headers.get? name).bind compiled? := by
  have hlist : Ascending headers.toList := headers.ascending
  rw [compileHeaders_eq, SortedMap.get?_ofList (SortedMap.ascending_filterMap (fun _ m => compiled? m) hlist)]
  exact SortedMap.lookup_filterMap (fun _ m => compiled? m) name hlist

/-! ## Coherence -/

/-- The parts of a pattern agree: its method is in upper case, and its regular expressions come from its fields. -/
structure Coherent (p : RequestPattern) : Prop where
  method : p.fields.method.map Text.upperAscii = p.fields.method
  url : p.urlRegex = p.fields.urlPattern.map .ofSource
  headers : ∀ name, p.headerRegexes.get? name = (p.fields.headers.get? name).bind compiled?

theorem coherent_ofFields (fields : PatternFields) : (ofFields fields).Coherent where
  method := by
    show (fields.method.map Text.upperAscii).map Text.upperAscii = fields.method.map Text.upperAscii
    rw [Option.map_map]
    exact congrArg (fields.method.map ·) (funext Text.upperAscii_upperAscii)
  url := rfl
  headers := get?_compileHeaders fields.headers

/-- A coherent pattern is the pattern of its fields. -/
theorem Coherent.ofFields_fields {p : RequestPattern} (h : p.Coherent) : ofFields p.fields = p := by
  obtain ⟨fields, urlRegex, headerRegexes⟩ := p
  obtain ⟨hmethod, hurl, hheaders⟩ := h
  have hregexes : compileHeaders fields.headers = headerRegexes :=
    SortedMap.eq_of_get?_eq fun name => (get?_compileHeaders fields.headers name).trans (hheaders name).symm
  unfold ofFields
  simp only at hmethod hurl ⊢
  rw [hmethod, hregexes, hurl]

theorem Coherent.withHeader {p : RequestPattern} (h : p.Coherent) (name : String) (m : HeaderMatcher) :
    (p.withHeader name m).Coherent where
  method := h.method
  url := h.url
  headers n := by
    show _ = ((p.fields.headers.insert name m).get? n).bind compiled?
    rw [SortedMap.get?_insert]
    cases m with
    | regex source =>
      show (p.headerRegexes.insert name (.ofSource source)).get? n = _
      rw [SortedMap.get?_insert, h.headers]
      split <;> rfl
    | equalTo | contains =>
      show (p.headerRegexes.erase name).get? n = _
      rw [SortedMap.get?_erase, h.headers]
      split <;> rfl

theorem coherent_of_decode? {v : Json} {p : RequestPattern} (h : decode? v = some p) : p.Coherent := by
  unfold decode? at h
  simp only [bind, Option.bind_eq_some_iff, pure, Option.some.injEq] at h
  obtain ⟨-, -, -, -, -, -, -, -, -, -, -, -, rfl⟩ := h
  exact coherent_ofFields _

theorem Built.coherent {p : RequestPattern} (h : p.Built) : p.Coherent := by
  induction h with
  | any => exact coherent_ofFields {}
  | decoded h => exact coherent_of_decode? h
  | withMethod _ method ih => exact ⟨congrArg some (Text.upperAscii_upperAscii method), ih.url, ih.headers⟩
  | withUrl _ url ih => exact ⟨ih.method, ih.url, ih.headers⟩
  | withUrlPath _ path ih => exact ⟨ih.method, ih.url, ih.headers⟩
  | withUrlPattern _ source ih => exact ⟨ih.method, rfl, ih.headers⟩
  | withHeader _ name m ih => exact ih.withHeader name m

/-- A pattern that was built is the pattern of its fields. -/
theorem Built.ofFields_fields {p : RequestPattern} (h : p.Built) : ofFields p.fields = p := h.coherent.ofFields_fields

end RequestPattern

end ScenarioStubs
