import Std.Data.ExtTreeMap.Lemmas
import ScenarioStubs.Proofs.SortedMap
import ScenarioStubs.Scenario.Store

/-!
# The store, session by session

- Each change to a store as what becomes of the entry of every session: `sessions_touch`, `sessions_write`,
  `sessions_markMinted`, `sessions_adopt`, `sessions_resetSession`, `sessions_evictWhere`. A store is determined by
  its entries (`eq_of_sessions_eq`).
- A store is also determined by the states of its pairs and the stamps of its sessions (`eq_of_peek_eq`).
- The states of pairs after touching and writing: `peek_touch`, `peek_write`. Touching a pair stores it, but no state
  of any pair changes by it (`effectiveState_touch`).
-/

namespace ScenarioStubs

/-! ## Entries -/

namespace SessionEntry

/-- The entry of a session that is seen for the first time. -/
def fresh (now : Instant) : SessionEntry := ⟨∅, now, false⟩

/-- The entry after its session was seen with some scenarios. -/
def see (e : SessionEntry) (now : Instant) (names : List String) : SessionEntry :=
  { e with scenarios := names.foldl (fun m name => m.insertNew name startState) e.scenarios, lastSeen := now }

/-- The entry with the state of a stored scenario overwritten. -/
def write (e : SessionEntry) (name state : String) : SessionEntry :=
  if e.scenarios.contains name then { e with scenarios := e.scenarios.insert name state } else e

theorem see_get? (e : SessionEntry) (now : Instant) (names : List String) (n : String) :
    (e.see now names).scenarios.get? n = (e.scenarios.get? n).or (if n ∈ names then some startState else none) :=
  SortedMap.get?_foldl_insertNew n startState names e.scenarios

theorem write_get? (e : SessionEntry) (name state n : String) :
    (e.write name state).scenarios.get? n =
      if n = name then (e.scenarios.get? name).map fun _ => state else e.scenarios.get? n := by
  unfold write SortedMap.contains
  cases h : e.scenarios.get? name with
  | none =>
    by_cases hn : n = name
    · simp [hn, h]
    · simp [hn]
  | some v => simp [SortedMap.get?_insert]

@[simp] theorem write_minted (e : SessionEntry) (name state : String) : (e.write name state).minted = e.minted := by
  unfold write
  split <;> rfl

@[simp] theorem write_lastSeen (e : SessionEntry) (name state : String) :
    (e.write name state).lastSeen = e.lastSeen := by
  unfold write
  split <;> rfl

/-- An entry is determined by its states, its last touch and its mark. -/
theorem eq_of_get?_eq {e e' : SessionEntry} (hs : ∀ n, e.scenarios.get? n = e'.scenarios.get? n)
    (hl : e.lastSeen = e'.lastSeen) (hm : e.minted = e'.minted) : e = e' := by
  obtain ⟨m, l, b⟩ := e
  obtain ⟨m', l', b'⟩ := e'
  cases SortedMap.eq_of_get?_eq hs
  cases hl
  cases hm
  rfl

end SessionEntry

namespace Store

variable (st : Store) (s t : SessionId)

/-! ## Entries after a change -/

/-- A store is determined by the entries of its sessions. -/
theorem eq_of_sessions_eq {st st' : Store} (h : ∀ t : SessionId, st.sessions[t]? = st'.sessions[t]?) : st = st' := by
  obtain ⟨m⟩ := st
  obtain ⟨m'⟩ := st'
  exact congrArg Store.mk (Std.ExtTreeMap.ext_getElem? h)

theorem sessions_empty : empty.sessions[t]? = none := Std.ExtTreeMap.getElem?_empty

theorem sessions_modify (f : SessionEntry → SessionEntry) :
    (st.modify s f).sessions[t]? = if t = s then st.sessions[s]?.map f else st.sessions[t]? := by
  simp [modify, Std.ExtTreeMap.getElem?_modify, eq_comm (a := t)]

/-- Touching scenarios of a session changes its entry alone, and makes it if it was missing. -/
theorem sessions_touch (now : Instant) (names : List String) :
    (st.touch now s names).sessions[t]? =
      if t = s ∧ names ≠ [] then some ((st.sessions[s]?.getD (.fresh now)).see now names) else st.sessions[t]? := by
  unfold touch
  cases names with
  | nil => simp
  | cons name names =>
    simp only [List.isEmpty_cons, Bool.false_eq_true, if_false, Std.ExtTreeMap.getElem?_insert,
      Std.LawfulEqCmp.compare_eq_iff_eq, ne_eq, reduceCtorEq, not_false_eq_true, and_true, eq_comm (a := s)]
    rfl

theorem sessions_write (name state : String) :
    (st.write s name state).sessions[t]? =
      if t = s then st.sessions[s]?.map (·.write name state) else st.sessions[t]? :=
  sessions_modify st s t _

theorem sessions_adopt :
    (st.adopt s).sessions[t]? =
      if t = s then st.sessions[s]?.map ({ · with minted := false }) else st.sessions[t]? :=
  sessions_modify st s t _

/-- Marking a session changes its entry alone; the entry of the shared session stays. -/
theorem sessions_markMinted :
    (st.markMinted s).sessions[t]? =
      if t = s ∧ s.isGlobal = false then st.sessions[s]?.map ({ · with minted := true }) else st.sessions[t]? := by
  unfold markMinted
  cases h : s.isGlobal with
  | true => simp
  | false => simp [sessions_modify]

theorem sessions_resetSession :
    (st.resetSession s).sessions[t]? = if t = s then none else st.sessions[t]? := by
  simp [resetSession, Std.ExtTreeMap.getElem?_erase, eq_comm (a := t)]

theorem sessions_resetAll : st.resetAll.sessions[t]? = none := sessions_empty t

/-- Eviction keeps exactly the entries that are not expired, as they are. -/
theorem sessions_evictWhere (expired : SessionId → SessionEntry → Bool) :
    (st.evictWhere expired).2.sessions[t]? = st.sessions[t]?.filter fun e => !expired t e := by
  simp [evictWhere]

variable {st}

/-- Where entries were dropped or kept, the entry of a session is gone or the same. -/
theorem sessions_of_filter {st' : Store} {p : SessionEntry → Bool} (hst : st'.sessions[s]? = st.sessions[s]?.filter p) :
    st'.sessions[s]? = none ∨ st'.sessions[s]? = st.sessions[s]? := by
  rw [hst]
  cases st.sessions[s]? with
  | none => exact .inl rfl
  | some entry =>
    rw [Option.filter_some]
    split
    · exact .inr rfl
    · exact .inl rfl

/-! ## States of pairs -/

/-- The stored states of a session are read off its entry. -/
theorem peek_congr {st' : Store} (h : st.sessions[s]? = st'.sessions[s]?) (n : String) :
    st.peek s n = st'.peek s n := by
  unfold peek
  rw [h]

theorem peek_of_none {s : SessionId} (h : st.sessions[s]? = none) (n : String) : st.peek s n = none := by
  unfold peek
  rw [h]
  rfl

theorem effectiveState_congr {st' : Store} (h : st.sessions[s]? = st'.sessions[s]?) (n : String) :
    st.effectiveState s n = st'.effectiveState s n := by
  unfold effectiveState
  rw [peek_congr s h n]

/-- Where entries were dropped or kept, the entry of a session is gone or its pairs are in the states they were in. -/
theorem peek_of_filter {st' : Store} {p : SessionEntry → Bool} (hst : st'.sessions[s]? = st.sessions[s]?.filter p)
    (n : String) : st'.sessions[s]? = none ∨ st'.peek s n = st.peek s n :=
  (sessions_of_filter s hst).imp_right fun hsame => peek_congr s hsame n

variable (st)

/-- Touching stores the named pairs in the state they are in. -/
theorem peek_touch (now : Instant) (names : List String) (n : String) :
    (st.touch now s names).peek t n =
      if t = s ∧ n ∈ names then some (st.effectiveState s n) else st.peek t n := by
  unfold effectiveState peek
  rw [sessions_touch]
  by_cases hn : n ∈ names
  · have hne : names ≠ [] := List.ne_nil_of_mem hn
    by_cases ht : t = s
    · cases st.sessions[s]? with
      | none => simp [ht, hn, hne, SessionEntry.see_get?, SessionEntry.fresh]
      | some e => cases h : e.scenarios.get? n <;> simp [ht, hn, hne, SessionEntry.see_get?, h]
    · simp [ht]
  · by_cases ht : t = s ∧ names ≠ []
    · obtain ⟨rfl, hne⟩ := ht
      cases st.sessions[t]? <;> simp [hn, hne, SessionEntry.see_get?, SessionEntry.fresh]
    · rw [if_neg ht]
      simp [hn]

/-- Touching changes no state. -/
theorem effectiveState_touch (now : Instant) (names : List String) (n : String) :
    (st.touch now s names).effectiveState t n = st.effectiveState t n := by
  rw [effectiveState, peek_touch]
  by_cases h : t = s ∧ n ∈ names
  · rw [if_pos h, h.1]
    rfl
  · rw [if_neg h]
    rfl

/-- Writing changes a stored pair alone. -/
theorem peek_write (name state n : String) :
    (st.write s name state).peek t n =
      if t = s ∧ n = name then (st.peek s name).map fun _ => state else st.peek t n := by
  unfold peek
  rw [sessions_write]
  by_cases ht : t = s
  · subst ht
    cases st.sessions[t]? with
    | none => simp
    | some e => by_cases hn : n = name <;> simp [hn, SessionEntry.write_get?]
  · simp [ht]

/-- A change of entries that leaves their scenarios alone changes no state. -/
theorem peek_modify {f : SessionEntry → SessionEntry} (hf : ∀ entry, (f entry).scenarios = entry.scenarios)
    (n : String) : (st.modify s f).peek t n = st.peek t n := by
  unfold peek
  rw [sessions_modify]
  by_cases ht : t = s
  · subst ht
    rw [if_pos rfl, Option.bind_map]
    refine congrArg (Option.bind st.sessions[t]?) (funext fun entry => ?_)
    rw [Function.comp_apply, hf]
  · rw [if_neg ht]

theorem peek_adopt (n : String) : (st.adopt s).peek t n = st.peek t n := by
  unfold adopt
  rw [peek_modify]
  exact fun _ => rfl

theorem peek_markMinted (n : String) : (st.markMinted s).peek t n = st.peek t n := by
  unfold markMinted
  split
  · rfl
  · rw [peek_modify]
    exact fun _ => rfl

/-- Putting a pair into a state stores it, and changes that pair alone. -/
theorem peek_setState (now : Instant) (name state n : String) :
    (st.setState now s name state).peek t n = if t = s ∧ n = name then some state else st.peek t n := by
  unfold setState
  rw [peek_write, peek_touch, peek_touch]
  by_cases h : t = s ∧ n = name
  · rw [if_pos h, if_pos h, if_pos ⟨rfl, List.mem_singleton_self name⟩]
    rfl
  · rw [if_neg h, if_neg h, if_neg]
    exact fun ⟨ht, hn⟩ => h ⟨ht, List.mem_singleton.mp hn⟩

theorem sessions_setState_of_ne {t : SessionId} (h : t ≠ s) (now : Instant) (name state : String) :
    (st.setState now s name state).sessions[t]? = st.sessions[t]? := by
  unfold setState
  rw [sessions_write, if_neg h, sessions_touch, if_neg fun htouched => h htouched.1]

/-! ## What an entry holds beside its states -/

/-- When a stored session was last touched, and whether it is marked as minted. -/
def stamp (st : Store) (t : SessionId) : Option (Instant × Bool) := st.sessions[t]?.map fun e => (e.lastSeen, e.minted)

theorem isMinted_eq : st.isMinted s = (st.stamp s).any (·.2) := by
  unfold isMinted stamp
  cases st.sessions[s]? <;> rfl

theorem stamp_write (name state : String) : (st.write s name state).stamp t = st.stamp t := by
  unfold stamp
  rw [sessions_write]
  by_cases ht : t = s
  · subst ht
    simp [Option.map_map, Function.comp_def]
  · simp [ht]

/-- A touched session was last seen now, and is marked if it was. -/
theorem stamp_touch (now : Instant) (names : List String) :
    (st.touch now s names).stamp t = if t = s ∧ names ≠ [] then some (now, st.isMinted s) else st.stamp t := by
  unfold stamp isMinted
  rw [sessions_touch]
  by_cases h : t = s ∧ names ≠ []
  · rw [if_pos h, if_pos h]
    cases st.sessions[s]? <;> rfl
  · rw [if_neg h, if_neg h]

/-- Putting a pair into a state leaves the mark of its session as it was; a session that was not stored has none. -/
theorem isMinted_setState (now : Instant) (name state : String) :
    (st.setState now s name state).isMinted t = st.isMinted t := by
  rw [isMinted_eq, setState, stamp_write, stamp_touch]
  by_cases h : t = s
  · rw [if_pos ⟨h, List.cons_ne_nil _ _⟩, h]
    rfl
  · rw [if_neg fun htouched => h htouched.1, isMinted_eq]

theorem stamp_adopt :
    (st.adopt s).stamp t = if t = s then (st.stamp s).map fun p => (p.1, false) else st.stamp t := by
  unfold stamp
  rw [sessions_adopt]
  by_cases ht : t = s
  · simp only [ht, if_true, Option.map_map]
    rfl
  · rw [if_neg ht, if_neg ht]

theorem stamp_markMinted : (st.markMinted s).stamp t =
    if t = s ∧ s.isGlobal = false then (st.stamp s).map fun p => (p.1, true) else st.stamp t := by
  unfold stamp
  rw [sessions_markMinted]
  split
  · simp only [Option.map_map]
    rfl
  · rfl

/-- A store is determined by its states and stamps. -/
theorem eq_of_peek_eq {st st' : Store} (hp : ∀ t n, st.peek t n = st'.peek t n) (hs : ∀ t, st.stamp t = st'.stamp t) :
    st = st' := by
  refine eq_of_sessions_eq fun t => ?_
  have hp := hp t
  have hs := hs t
  unfold peek at hp
  unfold stamp at hs
  cases h : st.sessions[t]? with
  | none =>
    cases h' : st'.sessions[t]? with
    | none => rfl
    | some e' => simp [h, h'] at hs
  | some e =>
    cases h' : st'.sessions[t]? with
    | none => simp [h, h'] at hs
    | some e' =>
      simp only [h, h', Option.map_some, Option.some.injEq, Prod.mk.injEq] at hs
      simp only [h, h', Option.bind_some] at hp
      rw [SessionEntry.eq_of_get?_eq hp hs.1 hs.2]

end Store

end ScenarioStubs
