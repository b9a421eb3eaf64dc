import ScenarioStubs.Engine.Basic
import ScenarioStubs.Proofs.Engine.Selection
import ScenarioStubs.Proofs.Store.Holding

/-!
# What one match does

`Engine.matchIn` in closed form (`matchIn_eq`): the candidates whose gates are open in the store before the request
compete, the scenarios of all candidates are touched, and the move of the chosen mapping is written.
-/

namespace ScenarioStubs

namespace StubMapping

/-- Whether a mapping admits a request. -/
def admits (m : StubMapping) (r : Request) : Bool := m.predicate.evaluate r matches .ok true

/-- Whether the predicate of a mapping gives no verdict on a request. -/
def isMalformedFor (m : StubMapping) (r : Request) : Bool := m.predicate.evaluate r matches .error _

theorem admits_iff {m : StubMapping} {r : Request} : m.admits r = true ↔ m.predicate.evaluate r = .ok true := by
  unfold admits
  split <;> simp_all

/-- Whether the scenario of a mapping is in the state that the mapping requires, if it requires one. -/
def gateHolds (m : StubMapping) (st : Store) (s : SessionId) : Bool :=
  match m.scenario with
  | none => true
  | some rule =>
    match rule.requiredState with
    | none => true
    | some required => st.effectiveState s rule.name == required

/-- A gate looks at the state of one scenario only. -/
theorem gateHolds_congr {m : StubMapping} {st st' : Store} {s s' : SessionId}
    (h : ∀ rule, m.scenario = some rule → st.effectiveState s rule.name = st'.effectiveState s' rule.name) :
    m.gateHolds st s = m.gateHolds st' s' := by
  unfold gateHolds
  cases hs : m.scenario with
  | none => rfl
  | some rule => simp only [h rule hs]

/-- The scenario that a mapping moves when it is served, and the state it moves it to. -/
def move? (m : StubMapping) : Option (String × String) :=
  m.scenario.bind fun rule => rule.newState.map fun next => (rule.name, next)

theorem move?_eq_some_iff {m : StubMapping} {n v : String} :
    m.move? = some (n, v) ↔ ∃ rule, m.scenario = some rule ∧ rule.name = n ∧ rule.newState = some v := by
  unfold move?
  rw [Option.bind_eq_some_iff]
  constructor
  · rintro ⟨rule, hs, hm⟩
    obtain ⟨next, hn, heq⟩ := Option.map_eq_some_iff.mp hm
    cases heq
    exact ⟨rule, hs, rfl, hn⟩
  · rintro ⟨rule, hs, rfl, hn⟩
    exact ⟨rule, hs, by rw [hn]; rfl⟩

end StubMapping

namespace Engine

variable (e : Engine) (now : Instant) (s : SessionId) (r : Request)

/-- The scenarios that the candidates for a request are bound to. -/
def touched : List String := (candidates e.registry r).filterMap (·.mapping.scenarioName)

/-- The candidates for a request whose gates are open. -/
def openCandidates : List Candidate := (candidates e.registry r).filter fun c => c.mapping.gateHolds e.store s

/-- The candidate that answers a request. -/
def chosen? : Option Candidate := e.config.selection.best? e.registry.size (e.openCandidates s r)

/-- The move that a request makes. -/
def move? : Option (String × String) := (e.chosen? s r).bind (·.mapping.move?)

/-- The store after a request. -/
def storeAfter : Store :=
  match e.move? s r with
  | none => e.store.touch now s (e.touched r)
  | some (name, state) => (e.store.touch now s (e.touched r)).write s name state

/-- The counters after a request. -/
def statsAfter : Stats :=
  { e.stats with
    served := e.stats.served + if (e.chosen? s r).isSome then 1 else 0
    unmatched := e.stats.unmatched + if (e.chosen? s r).isSome then 0 else 1
    malformed := e.stats.malformed + malformedCount e.registry r
    transitions := e.stats.transitions + if (e.move? s r).isSome then 1 else 0 }

variable {e s r}

theorem mem_touched {c : Candidate} {rule : ScenarioRule} (hc : c ∈ candidates e.registry r)
    (hrule : c.mapping.scenario = some rule) : rule.name ∈ e.touched r :=
  List.mem_filterMap.mpr ⟨c, hc, by simp [StubMapping.scenarioName, hrule]⟩

/-- The gate of a candidate is open under the held scenarios if it is in the store. -/
theorem gateOpen_hold {c : Candidate} (hc : c ∈ candidates e.registry r) :
    gateOpen (e.store.hold now s (e.touched r)).1 c.mapping = c.mapping.gateHolds e.store s := by
  unfold gateOpen StubMapping.gateHolds
  cases hs : c.mapping.scenario with
  | none => rfl
  | some rule =>
    cases hr : rule.requiredState with
    | none => simp [hr]
    | some required => simp [hr, Store.hold_state?, mem_touched hc hs]

theorem filter_gateOpen_hold : (candidates e.registry r).filter
    (fun c => gateOpen (e.store.hold now s (e.touched r)).1 c.mapping) = e.openCandidates s r :=
  List.filter_congr fun _ hc => gateOpen_hold now hc

/-- Releasing the held scenarios after a candidate was served writes its move. -/
theorem release_transition {c : Candidate} (hc : c ∈ candidates e.registry r) :
    (e.store.touch now s (e.touched r)).release (transition (e.store.hold now s (e.touched r)).1 c.mapping).2 =
      match c.mapping.move? with
      | none => e.store.touch now s (e.touched r)
      | some (name, state) => (e.store.touch now s (e.touched r)).write s name state := by
  unfold transition StubMapping.move?
  cases hs : c.mapping.scenario with
  | none => exact Store.release_hold e.store now s (e.touched r)
  | some rule =>
    cases hn : rule.newState with
    | none => simpa [hn] using Store.release_hold e.store now s (e.touched r)
    | some next => simpa [hn] using Store.release_set_hold e.store now s (e.touched r) (mem_touched hc hs) next

/-- A served candidate counts as a transition if it has a move. -/
theorem transition_fst {c : Candidate} (hc : c ∈ candidates e.registry r) :
    (transition (e.store.hold now s (e.touched r)).1 c.mapping).1 = c.mapping.move?.isSome := by
  unfold transition StubMapping.move?
  cases hs : c.mapping.scenario with
  | none => rfl
  | some rule =>
    cases hn : rule.newState with
    | none => simp [hn]
    | some next => simp [hn, Cells.set_fst, Store.hold_state?, mem_touched hc hs]

theorem mem_openCandidates_of_chosen? {c : Candidate} (h : e.chosen? s r = some c) : c ∈ e.openCandidates s r :=
  SelectionPolicy.mem_of_best? h

theorem mem_candidates_of_chosen? {c : Candidate} (h : e.chosen? s r = some c) : c ∈ candidates e.registry r :=
  (List.mem_filter.mp (mem_openCandidates_of_chosen? h)).1

/-- Who answers a request depends on the mappings, their ranking, and the states of the scenarios that the candidates
are bound to. -/
theorem chosen?_congr {e' : Engine} {s' : SessionId} (hselection : e.config.selection = e'.config.selection)
    (hregistry : e.registry = e'.registry)
    (h : ∀ n ∈ e.touched r, e.store.effectiveState s n = e'.store.effectiveState s' n) :
    e.chosen? s r = e'.chosen? s' r := by
  have hopen : e.openCandidates s r = e'.openCandidates s' r := by
    unfold openCandidates
    rw [← hregistry]
    refine List.filter_congr fun c hc => StubMapping.gateHolds_congr fun rule hrule => h rule.name ?_
    exact mem_touched hc hrule
  unfold chosen?
  rw [hselection, hregistry, hopen]

theorem move?_congr {e' : Engine} {s' : SessionId} (h : e.chosen? s r = e'.chosen? s' r) :
    e.move? s r = e'.move? s' r := by
  unfold move?
  rw [h]

variable (e s r)

/-- **One match**: who answers, and the store and the counters after it. -/
theorem matchIn_eq : e.matchIn now s r =
    ((e.chosen? s r).map fun c => ⟨c.mapping.id, c.mapping.response⟩,
      { e with store := e.storeAfter now s r, stats := e.statsAfter s r }) := by
  unfold matchIn
  by_cases hf : candidates e.registry r = []
  · have htouched : e.touched r = [] := by simp [touched, hf]
    have hchosen : e.chosen? s r = none := by simp [chosen?, openCandidates, hf, SelectionPolicy.best?]
    simp [hf, htouched, hchosen, move?, storeAfter, statsAfter, Store.touch]
  · have htouched : (candidates e.registry r).filterMap (·.mapping.scenarioName) = e.touched r := rfl
    have hchosen : e.config.selection.best? e.registry.size (e.openCandidates s r) = e.chosen? s r := rfl
    simp only [List.isEmpty_iff, hf, if_false, htouched, filter_gateOpen_hold, Store.hold_snd, hchosen]
    cases h : e.chosen? s r with
    | none => simp [move?, storeAfter, statsAfter, h]
    | some c =>
      have hc := mem_candidates_of_chosen? h
      simp only [release_transition now hc, transition_fst now hc]
      simp [move?, storeAfter, statsAfter, h]

end Engine

end ScenarioStubs
