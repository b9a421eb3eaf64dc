import ScenarioStubs.Proofs.Regex.Anchoring
import ScenarioStubs.Proofs.Stub.Evaluation

/-!
# Regular expressions for whole values

A regular expression for a url or a header is set between anchors as it stands. Where that is possible
(`Regex.Anchorable`), it is about the whole value, and a text that is no regular expression is reported with every
verdict (`whole_values`). Two kinds of sources are not served by it: a comment at the end of a pattern hides the end of
the group that is put around it, and a parenthesis that closes nothing closes that group (`verdicts_by_pasting`).
-/

namespace ScenarioStubs.RequestPattern

/-- The verdicts of the pattern with a regular expression for the url, and of the one with it for some header, on what
they test. -/
structure Answers (source : String) (answer : String → Verdict) : Prop where
  url : ∀ r, (any.withUrlPattern source).evaluate r = answer r.url
  header : ∀ name r value, r.headers.get? name = some value →
    (any.withHeader name (.regex source)).evaluate r = answer value

theorem testAll_singleton (r : Request) (c : Constraint) : testAll r [c] = c.test r := by
  unfold testAll
  split
  case h_1 h => exact h.symm
  case h_2 => rfl

theorem answers_test (source : String) : Answers source (WholeRegex.ofSource source).test where
  url r := by
    have hbuilt : (any.withUrlPattern source).Built := Built.any.withUrlPattern source
    have hconstraints : (any.withUrlPattern source).fields.constraints = [.urlRegex source] := rfl
    rw [hbuilt.coherent.evaluate_eq, hconstraints, testAll_singleton]
    rfl
  header name r value hvalue := by
    have hbuilt : (any.withHeader name (.regex source)).Built := Built.any.withHeader name (.regex source)
    have hconstraints : (any.withHeader name (.regex source)).fields.constraints = [.header name (.regex source)] := rfl
    rw [hbuilt.coherent.evaluate_eq, hconstraints, testAll_singleton]
    unfold Constraint.test
    dsimp only
    rw [hvalue]

theorem Answers.congr {source : String} {answer answer' : String → Verdict} (h : Answers source answer)
    (hanswer : ∀ value, answer value = answer' value) : Answers source answer' where
  url r := (h.url r).trans (hanswer r.url)
  header name r value hvalue := (h.header name r value hvalue).trans (hanswer value)

/-- A source that cannot be compiled between anchors is reported. -/
theorem answers_of_error {source : String} (h : ∃ cause, Regex.compile ("^(?:" ++ source ++ ")$") = .error cause) :
    Answers source fun _ => .error (.invalidPattern source) := by
  obtain ⟨cause, hcompile⟩ := h
  refine (answers_test source).congr fun value => ?_
  unfold WholeRegex.test WholeRegex.ofSource
  dsimp only
  rw [hcompile]

open Classical in
/-- A source that can be anchored is about whole values. -/
theorem answers_of_anchorable {source : String} {e : Regex.Expr}
    (h : Regex.compile ("^(?:" ++ source ++ ")$") = .ok e.anchored) :
    Answers source fun value => .ok (decide (e.Matches none value.toList none)) := by
  refine (answers_test source).congr fun value => ?_
  have hmatch : Regex.isMatch e.anchored value = decide (e.Matches none value.toList none) := by
    rw [Bool.eq_iff_iff, decide_eq_true_iff, Regex.isMatch_iff_of_compile h, Regex.Expr.found_anchored_iff]
  unfold WholeRegex.test WholeRegex.ofSource
  rw [h]
  exact congrArg Except.ok hmatch

open Classical in
/-- **Regular expressions for whole values.** Take the pattern with a regular expression for the url, or the one with it
for a header that the request has, and no other constraint. If the source compiles and can be set between anchors, the
verdict is whether the expression matches the whole value. If it compiles and cannot be set between anchors, every
verdict reports it; this is so of a source that hides the end of the group around it, which then ends in a comment. If
it does not compile, every verdict reports it, unless a parenthesis in it closes nothing or its automata are too
large. -/
theorem whole_values (source : String) :
    (∀ e, Regex.compile source = .ok e → Regex.Anchorable source e →
      Answers source fun value => .ok (decide (e.Matches none value.toList none))) ∧
      (∀ e, Regex.compile source = .ok e → ¬Regex.Anchorable source e →
        Answers source fun _ => .error (.invalidPattern source)) ∧
      (∀ e, Regex.compile source = .ok e → Regex.HidesRest source.toList → Regex.EndsInComment source.toList) ∧
      ∀ cause, Regex.compile source = .error cause → cause ≠ .groupUnopened → cause ≠ .tooLarge →
        Answers source fun _ => .error (.invalidPattern source) := by
  refine ⟨fun e he hanchorable => ?_, fun e he hnot => ?_, fun e he hhides => ?_, fun cause hcause hopen hlarge => ?_⟩
  · exact answers_of_anchorable ((Regex.compile_anchor_of_ok he).1 hanchorable)
  · exact answers_of_error ((Regex.compile_anchor_of_ok he).2 hnot)
  · obtain ⟨ast, hast, -⟩ := Regex.ok_of_bind he
    obtain ⟨-, hcomment, -⟩ | ⟨hnot, -⟩ := Regex.parse_anchor_of_ok hast
    · exact hcomment
    · exact absurd hhides hnot
  · exact answers_of_error (Regex.compile_anchor_of_error hcause hopen hlarge)

open Classical in
/-- One character is the whole value or only a part of it, a group is open, and a comment is. -/
theorem whole_values_of_one_character :
    (any.withUrlPattern "a").evaluate (Request.new "GET" "a") = .ok true ∧
      (any.withUrlPattern "a").evaluate (Request.new "GET" "ba") = .ok false ∧
      (any.withUrlPattern "(?x)a#").evaluate (Request.new "GET" "a") = .error (.invalidPattern "(?x)a#") ∧
      (any.withHeader "x" (.regex "(")).evaluate ((Request.new "GET" "/").withHeader "X" "v") =
        .error (.invalidPattern "(") := by
  have hcompile : Regex.compile "a" = .ok (.chars (.single 97)) := rfl
  have hanchorable : Regex.Anchorable "a" (.chars (.single 97)) := by
    refine ⟨?_, fun ast hast => ?_, rfl⟩
    · rintro ⟨ast, hast⟩
      have hparse : Regex.Ast.parse ("a".toList ++ Regex.closing) = .error .groupUnopened := rfl
      cases hparse.symm.trans hast
    · have hparse : Regex.Ast.parse "a".toList = .ok (.literal ⟨'a', false⟩) := rfl
      cases hparse.symm.trans hast
      decide
  have hwhole := (whole_values "a").1 _ hcompile hanchorable
  have hheader : ((Request.new "GET" "/").withHeader "X" "v").headers.get? "x" = some "v" := by
    unfold Headers.get? Headers.getAll
    simp only [Text.sameIgnoringCase_eq]
    decide +kernel
  have hcomment : ¬Regex.Anchorable "(?x)a#" (.seq .empty (.chars (.single 97))) := by
    rintro ⟨hhides, -, -⟩
    exact hhides ⟨_, rfl⟩
  refine ⟨?_, ?_, ?_, ?_⟩
  · rw [hwhole.url]
    exact congrArg Except.ok (decide_eq_true (.chars (by decide)))
  · rw [hwhole.url]
    exact congrArg Except.ok (decide_eq_false nofun)
  · exact ((whole_values "(?x)a#").2.1 _ rfl hcomment).url (Request.new "GET" "a")
  · exact ((whole_values "(").2.2.2 .groupUnclosed rfl nofun nofun).header "x" _ "v" hheader

/-- The anchors hide in a comment, and what stands after a parenthesis that closes nothing is outside the group. -/
theorem verdicts_by_pasting :
    (∃ e, Regex.compile "(?x)a#" = .ok e ∧ e.Matches none ['a'] none ∧
      (any.withUrlPattern "(?x)a#").evaluate (Request.new "GET" "a") = .error (.invalidPattern "(?x)a#")) ∧
      Regex.compile "a)|(?:b" = .error .groupUnopened ∧
      (any.withUrlPattern "a)|(?:b").evaluate (Request.new "GET" "abc") = .ok true ∧
      (any.withUrlPattern "a)|(?:b").evaluate (Request.new "GET" "zb") = .ok true ∧
      (any.withUrlPattern "a)|(?:b").evaluate (Request.new "GET" "c") = .ok false := by
  have hverdict (value : String) (b : Bool) (h : (match (WholeRegex.ofSource "a)|(?:b").test value with
      | .ok b' => b' == b
      | .error _ => false) = true) : (WholeRegex.ofSource "a)|(?:b").test value = .ok b := by
    split at h
    case h_1 heq => rw [heq, eq_of_beq h]
    case h_2 => cases h
  refine ⟨⟨.seq .empty (.chars (.single 97)), rfl, .seq .empty (.chars (by decide)), rfl⟩, rfl, ?_, ?_, ?_⟩
  · exact ((answers_test _).url _).trans (hverdict "abc" true (by decide +kernel))
  · exact ((answers_test _).url _).trans (hverdict "zb" true (by decide +kernel))
  · exact ((answers_test _).url _).trans (hverdict "c" false (by decide +kernel))

end ScenarioStubs.RequestPattern
