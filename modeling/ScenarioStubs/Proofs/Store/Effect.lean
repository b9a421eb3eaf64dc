import ScenarioStubs.Proofs.Store.Operation

/-!
# What an operation does to a pair

An operation may store a pair (`Operation.Creates`), write a state to it (`Store.Writes`), or remove its session
(`Store.Removes`). These three decide all that becomes of the pair (`outcome_perform`): whether it is stored
(`isSome_peek_perform_iff`), and the state it is in (`effectiveState_of_removes`, `effectiveState_of_writes`,
`effectiveState_of_not_writes`). A session is touched when some pair of it is stored or was to be
(`Operation.Touches`), which is when it is seen (`lastSeen?_of_touches`, `lastSeen?_of_not_touches`); marking and
adopting decide its mark (`isMinted_perform_iff`).
-/

namespace ScenarioStubs

namespace Cells

variable (c : Cells) (n : String)

theorem session_setAll (writes : List (String × String)) : (c.setAll writes).session = c.session := by
  induction writes generalizing c with
  | nil => rfl
  | cons w rest ih => exact (ih (c.set w.1 w.2).2).trans (c.set_session w.1 w.2)

/-- A held scenario is in the state that it was put into last, or in the old one if it was not put into any. -/
theorem state?_setAll (writes : List (String × String)) :
    (c.setAll writes).state? n = (c.state? n).map fun v => (writes.reverse.lookup n).getD v := by
  induction writes generalizing c with
  | nil =>
    show c.state? n = (c.state? n).map fun v => v
    rw [Option.map_id']
  | cons w rest ih =>
    have hrest : (c.setAll (w :: rest)).state? n = ((c.set w.1 w.2).2.setAll rest).state? n := rfl
    rw [hrest, ih, state?_set, List.reverse_cons, List.lookup_append]
    by_cases hn : n = w.1
    · subst hn
      have hlast : [w].lookup w.1 = some w.2 := List.lookup_cons_self
      rw [if_pos rfl, hlast]
      cases c.state? w.1 <;> cases rest.reverse.lookup w.1 <;> rfl
    · have hlast : [w].lookup n = none := by simp [hn]
      rw [if_neg hn, hlast, Option.or_none]

end Cells

namespace Store

/-- The operation stores a pair, unless it is stored already. -/
def Operation.Creates (t : SessionId) (n : String) : Operation → Prop
  | .getState s name | .setState s name _ | .resetScenario s name => s = t ∧ name = n
  | .setHeld s names _ => s = t ∧ n ∈ names
  | _ => False

/-- The operation touches a session. -/
def Operation.Touches (t : SessionId) (op : Operation) : Prop := ∃ n, op.Creates t n

/-- The operation, performed on the store, writes a state to a pair. Of several writes to a held scenario the last one
counts; scenarios that were held for some time are written if they are stored still. -/
def Writes (st : Store) (t : SessionId) (n v : String) : Operation → Prop
  | .setState s name state => s = t ∧ name = n ∧ state = v
  | .resetScenario s name => s = t ∧ name = n ∧ startState = v
  | .setHeld s names writes => s = t ∧ n ∈ names ∧ writes.reverse.lookup n = some v
  | .release c => c.session = t ∧ c.state? n = some v ∧ (st.peek t n).isSome = true
  | _ => False

/-- The operation, performed on the store, removes a session: it resets it, or an eviction drops it. -/
def Removes (st : Store) (now : Instant) (t : SessionId) : Operation → Prop
  | .resetSession s => s = t
  | .resetAll => True
  | .evictIdle reading limit =>
    st.sessions[t]?.isSome = true ∧ (st.perform now (.evictIdle reading limit)).sessions[t]? = none
  | .evictMinted reading limit =>
    st.sessions[t]?.isSome = true ∧ (st.perform now (.evictMinted reading limit)).sessions[t]? = none
  | _ => False

variable {st : Store} {now : Instant} {op : Operation} {t : SessionId} {n v : String}

/-! ## Removal -/

theorem Removes.mayDrop (h : st.Removes now t op) : op.MayDrop t := by
  cases op with
  | resetSession s => exact h
  | resetAll | evictIdle | evictMinted => exact trivial
  | getState | setState | resetScenario | setHeld | release | markMinted | adopt => exact h.elim

theorem Operation.MayDrop.not_creates {u : SessionId} (h : op.MayDrop u) : ¬op.Creates t n := by
  cases op with
  | resetSession | resetAll | evictIdle | evictMinted => exact fun hcreates => hcreates
  | getState | setState | resetScenario | setHeld | release | markMinted | adopt => exact h.elim

theorem Operation.MayDrop.not_writes {u : SessionId} (h : op.MayDrop u) : ¬st.Writes t n v op := by
  cases op with
  | resetSession | resetAll | evictIdle | evictMinted => exact fun hwrites => hwrites
  | getState | setState | resetScenario | setHeld | release | markMinted | adopt => exact h.elim

/-- A session that is removed has no entry. -/
theorem sessions_of_removes (h : st.Removes now t op) : (st.perform now op).sessions[t]? = none := by
  cases op with
  | resetSession s => exact (sessions_resetSession st s t).trans (if_pos (Eq.symm h))
  | resetAll => exact sessions_resetAll st t
  | evictIdle | evictMinted => exact h.2
  | getState | setState | resetScenario | setHeld | release | markMinted | adopt => exact h.elim

/-- Dropping keeps an entry as it is or drops it. -/
theorem sessions_of_kept {p : SessionEntry → Bool} {st' : Store} (hst : st'.sessions[t]? = st.sessions[t]?.filter p)
    (h : ¬(st.sessions[t]?.isSome = true ∧ st'.sessions[t]? = none)) : st'.sessions[t]? = st.sessions[t]? := by
  rcases sessions_of_filter t hst with hgone | hsame
  · have hnone : st.sessions[t]? = none := by
      rw [← Option.not_isSome_iff_eq_none]
      intro hstored
      exact h ⟨hstored, hgone⟩
    rw [hgone, hnone]
  · exact hsame

/-- An operation that drops sessions leaves those that it does not remove as they are. -/
theorem sessions_of_not_removes {u : SessionId} (op : Operation) (hdrop : op.MayDrop u) (h : ¬st.Removes now t op) :
    (st.perform now op).sessions[t]? = st.sessions[t]? := by
  cases op with
  | resetSession s => exact (sessions_resetSession st s t).trans (if_neg fun heq => h heq.symm)
  | resetAll => exact absurd trivial h
  | evictIdle reading limit => exact sessions_of_kept (sessions_evictWhere st t _) h
  | evictMinted reading limit => exact sessions_of_kept (sessions_evictWhere st t _) h
  | getState | setState | resetScenario | setHeld | release | markMinted | adopt => exact hdrop.elim

/-! ## Pairs -/

/-- Held scenarios that are put into states and let go are stored, each in the state that it was put into last. -/
theorem peek_setHeld (st : Store) (now : Instant) (s t : SessionId) (names : List String)
    (writes : List (String × String)) (n : String) : (st.perform now (.setHeld s names writes)).peek t n =
      if t = s ∧ n ∈ names then some ((writes.reverse.lookup n).getD (st.effectiveState s n)) else st.peek t n := by
  have hsession : ((st.hold now s names).1.setAll writes).session = s := Cells.session_setAll _ writes
  show ((st.hold now s names).2.release ((st.hold now s names).1.setAll writes)).peek t n = _
  rw [peek_release, hsession, Cells.state?_setAll, hold_state?, hold_snd, peek_touch]
  by_cases ht : t = s
  · by_cases hn : n ∈ names <;> simp [ht, hn]
  · simp [ht]

/-- What becomes of a pair by an operation that leads from one store to another. -/
inductive Outcome (st st' : Store) (now : Instant) (op : Operation) (t : SessionId) (n : String) : Prop
  | removed (hremoves : st.Removes now t op) (hpeek : st'.peek t n = none)
  | written {v : String} (hkept : ¬st.Removes now t op) (hwrites : st.Writes t n v op)
    (hstored : op.Creates t n ∨ (st.peek t n).isSome = true) (hpeek : st'.peek t n = some v)
  | created (hkept : ¬st.Removes now t op) (hcreates : op.Creates t n) (hwrites : ∀ v, ¬st.Writes t n v op)
    (hpeek : st'.peek t n = some (st.effectiveState t n))
  | left (hkept : ¬st.Removes now t op) (hcreates : ¬op.Creates t n) (hwrites : ∀ v, ¬st.Writes t n v op)
    (hpeek : st'.peek t n = st.peek t n)

theorem outcome_getState (s : SessionId) (name : String) :
    Outcome st (st.perform now (.getState s name)) now (.getState s name) t n := by
  have hpeek := peek_touch st s t now [name] n
  by_cases h : t = s ∧ n = name
  · obtain ⟨rfl, rfl⟩ := h
    exact .created (fun h => h) ⟨rfl, rfl⟩ (fun _ h => h) (hpeek.trans (if_pos ⟨rfl, List.mem_singleton_self n⟩))
  · refine .left (fun h => h) (fun hc => h ⟨hc.1.symm, hc.2.symm⟩) (fun _ h => h) (hpeek.trans (if_neg fun hm => h ?_))
    exact ⟨hm.1, List.mem_singleton.mp hm.2⟩

/-- The outcome of an operation that puts the pair `(s, name)` into a state. -/
theorem outcome_of_put {s : SessionId} {name state : String} (hkept : ¬st.Removes now t op)
    (hcreates : op.Creates t n ↔ s = t ∧ name = n) (hwrites : ∀ v, st.Writes t n v op ↔ s = t ∧ name = n ∧ state = v) :
    Outcome st (st.setState now s name state) now op t n := by
  have hpeek := peek_setState st s t now name state n
  by_cases h : t = s ∧ n = name
  · obtain ⟨rfl, rfl⟩ := h
    exact .written hkept ((hwrites state).mpr ⟨rfl, rfl, rfl⟩) (.inl (hcreates.mpr ⟨rfl, rfl⟩))
      (hpeek.trans (if_pos ⟨rfl, rfl⟩))
  · refine .left hkept (fun hc => ?_) (fun v hw => ?_) (hpeek.trans (if_neg h))
    · obtain ⟨rfl, rfl⟩ := hcreates.mp hc
      exact h ⟨rfl, rfl⟩
    · obtain ⟨rfl, rfl, -⟩ := (hwrites v).mp hw
      exact h ⟨rfl, rfl⟩

theorem outcome_setHeld (s : SessionId) (names : List String) (writes : List (String × String)) :
    Outcome st (st.perform now (.setHeld s names writes)) now (.setHeld s names writes) t n := by
  have hpeek := peek_setHeld st now s t names writes n
  by_cases h : t = s ∧ n ∈ names
  · rw [if_pos h] at hpeek
    obtain ⟨rfl, hn⟩ := h
    cases hlast : writes.reverse.lookup n with
    | some v =>
      rw [hlast] at hpeek
      exact .written (fun h => h) ⟨rfl, hn, hlast⟩ (.inl ⟨rfl, hn⟩) hpeek
    | none =>
      rw [hlast] at hpeek
      refine .created (fun h => h) ⟨rfl, hn⟩ (fun v hw => ?_) hpeek
      cases hlast.symm.trans hw.2.2
  · exact .left (fun h => h) (fun hc => h ⟨hc.1.symm, hc.2⟩) (fun _ hw => h ⟨hw.1.symm, hw.2.1⟩)
      (hpeek.trans (if_neg h))

theorem outcome_release (c : Cells) : Outcome st (st.perform now (.release c)) now (.release c) t n := by
  have hpeek := peek_release st t c n
  by_cases h : t = c.session
  · subst h
    rw [if_pos rfl] at hpeek
    cases hheld : c.state? n with
    | none =>
      refine .left (fun h => h) (fun h => h) (fun v hw => ?_) (hpeek.trans ?_)
      · cases hheld.symm.trans hw.2.1
      · rw [hheld]
        exact Option.map_id'
    | some v =>
      rw [hheld] at hpeek
      -- What was held is dropped if the pair was removed in the meantime.
      cases hstored : st.peek c.session n with
      | none =>
        refine .left (fun h => h) (fun h => h) (fun _ hw => ?_) (hpeek.trans (by rw [hstored]; rfl))
        have hsome := hw.2.2
        rw [hstored] at hsome
        cases hsome
      | some old =>
        rw [hstored] at hpeek
        exact .written (fun h => h) ⟨rfl, hheld, by rw [hstored]; rfl⟩ (.inr (by rw [hstored]; rfl)) hpeek
  · exact .left (fun h => h) (fun h => h) (fun _ hw => h hw.1.symm) (hpeek.trans (if_neg h))

theorem outcome_of_mayDrop {u : SessionId} (hdrop : op.MayDrop u) (hkept : ¬st.Removes now t op) :
    Outcome st (st.perform now op) now op t n :=
  .left hkept hdrop.not_creates (fun _ => hdrop.not_writes) (peek_congr t (sessions_of_not_removes op hdrop hkept) n)

/-- Every operation has one of the four outcomes for a pair. -/
theorem outcome_perform (st : Store) (now : Instant) (op : Operation) (t : SessionId) (n : String) :
    Outcome st (st.perform now op) now op t n := by
  by_cases hremoves : st.Removes now t op
  · refine .removed hremoves ?_
    unfold peek
    rw [sessions_of_removes hremoves, Option.bind_none]
  cases op with
  | getState s name => exact outcome_getState s name
  | setState | resetScenario => exact outcome_of_put hremoves .rfl fun _ => .rfl
  | setHeld s names writes => exact outcome_setHeld s names writes
  | release c => exact outcome_release c
  | markMinted s => exact .left hremoves (fun h => h) (fun _ h => h) (peek_markMinted st s t n)
  | adopt s => exact .left hremoves (fun h => h) (fun _ h => h) (peek_adopt st s t n)
  | resetSession s => exact outcome_of_mayDrop (u := s) rfl hremoves
  | resetAll => exact absurd trivial hremoves
  | evictIdle | evictMinted => exact outcome_of_mayDrop (u := t) trivial hremoves

/-- A pair is stored after an operation that stores it, and if it was stored and its session is not removed. -/
theorem isSome_peek_perform_iff : ((st.perform now op).peek t n).isSome = true ↔
    op.Creates t n ∨ (st.peek t n).isSome = true ∧ ¬st.Removes now t op := by
  cases outcome_perform st now op t n with
  | removed hremoves hpeek => simp [hpeek, hremoves, hremoves.mayDrop.not_creates]
  | written hkept hwrites hstored hpeek => simpa [hpeek, hkept] using hstored
  | created hkept hcreates hwrites hpeek => simp [hpeek, hcreates]
  | left hkept hcreates hwrites hpeek => simp [hpeek, hkept, hcreates]

theorem effectiveState_of_removes (h : st.Removes now t op) : (st.perform now op).effectiveState t n = startState := by
  unfold effectiveState peek
  rw [sessions_of_removes h]
  rfl

theorem Writes.unique {v' : String} (h : st.Writes t n v op) (h' : st.Writes t n v' op) : v = v' := by
  cases op with
  | setState | resetScenario => exact h.2.2.symm.trans h'.2.2
  | setHeld => exact Option.some.inj (h.2.2.symm.trans h'.2.2)
  | release => exact Option.some.inj (h.2.1.symm.trans h'.2.1)
  | getState | markMinted | adopt | resetSession | resetAll | evictIdle | evictMinted => exact h.elim

theorem effectiveState_of_writes (h : st.Writes t n v op) : (st.perform now op).effectiveState t n = v := by
  unfold effectiveState
  cases outcome_perform st now op t n with
  | removed hremoves hpeek => exact absurd h hremoves.mayDrop.not_writes
  | written hkept hwrites hstored hpeek => rw [hpeek, hwrites.unique h, Option.getD_some]
  | created hkept hcreates hwrites hpeek => exact absurd h (hwrites v)
  | left hkept hcreates hwrites hpeek => exact absurd h (hwrites v)

/-- What is neither removed nor written stays in its state, be it stored only now. -/
theorem effectiveState_of_not_writes (hkept : ¬st.Removes now t op) (hwrites : ∀ v, ¬st.Writes t n v op) :
    (st.perform now op).effectiveState t n = st.effectiveState t n := by
  cases outcome_perform st now op t n with
  | removed hremoves hpeek => exact absurd hremoves hkept
  | written hkept h hstored hpeek => exact absurd h (hwrites _)
  | created hkept hcreates hwrites hpeek => rw [effectiveState, hpeek, Option.getD_some]
  | left hkept hcreates hwrites hpeek => rw [effectiveState, effectiveState, hpeek]

/-! ## Sessions -/

/-- When a stored session was touched last. -/
def lastSeen? (st : Store) (t : SessionId) : Option Instant := (st.stamp t).map Prod.fst

theorem isSome_lastSeen? : (st.lastSeen? t).isSome = st.sessions[t]?.isSome := by
  unfold lastSeen? stamp
  rw [Option.isSome_map, Option.isSome_map]

theorem stamp_setState (s : SessionId) (name state : String) : (st.setState now s name state).stamp t =
    if t = s then some (now, st.isMinted s) else st.stamp t := by
  unfold setState
  rw [stamp_write, stamp_touch]
  simp only [ne_eq, List.cons_ne_nil, not_false_eq_true, and_true]

/-- A session that is touched is seen now, with the mark it has. -/
theorem stamp_of_touches (h : op.Touches t) : (st.perform now op).stamp t = some (now, st.isMinted t) := by
  obtain ⟨n, hcreates⟩ := h
  cases op with
  | getState s name =>
    obtain ⟨rfl, rfl⟩ := hcreates
    exact (stamp_touch st s s now [name]).trans (if_pos ⟨rfl, List.cons_ne_nil _ _⟩)
  | setState | resetScenario =>
    obtain ⟨rfl, rfl⟩ := hcreates
    exact (stamp_setState _ _ _).trans (if_pos rfl)
  | setHeld s names writes =>
    obtain ⟨rfl, hn⟩ := hcreates
    exact (stamp_release _ s _).trans ((stamp_touch st s s now names).trans (if_pos ⟨rfl, List.ne_nil_of_mem hn⟩))
  | release | markMinted | adopt | resetSession | resetAll | evictIdle | evictMinted => exact hcreates.elim

/-- A session that is neither touched nor removed has the stamp it had, unless it is marked or adopted. -/
theorem stamp_of_not_touches (h : ¬op.Touches t) (hkept : ¬st.Removes now t op) (hmark : ∀ s, op ≠ .markMinted s)
    (hadopt : ∀ s, op ≠ .adopt s) : (st.perform now op).stamp t = st.stamp t := by
  cases op with
  | getState s name =>
    refine (stamp_touch st s t now [name]).trans (if_neg fun ht => h ⟨name, ?_⟩)
    exact ⟨ht.1.symm, rfl⟩
  | setState s name state => exact (stamp_setState s name state).trans (if_neg fun ht => h ⟨name, ht.symm, rfl⟩)
  | resetScenario s name => exact (stamp_setState s name startState).trans (if_neg fun ht => h ⟨name, ht.symm, rfl⟩)
  | setHeld s names writes =>
    refine (stamp_release _ t _).trans ((stamp_touch st s t now names).trans (if_neg fun ht => ?_))
    obtain ⟨n, hn⟩ := List.exists_mem_of_ne_nil names ht.2
    exact h ⟨n, ht.1.symm, hn⟩
  | release c => exact stamp_release st t c
  | markMinted s => exact absurd rfl (hmark s)
  | adopt s => exact absurd rfl (hadopt s)
  | resetSession s => exact stamp_congr (sessions_of_not_removes (.resetSession s) rfl hkept)
  | resetAll => exact absurd trivial hkept
  | evictIdle reading limit =>
    exact stamp_congr (sessions_of_not_removes (u := t) (.evictIdle reading limit) trivial hkept)
  | evictMinted reading limit =>
    exact stamp_congr (sessions_of_not_removes (u := t) (.evictMinted reading limit) trivial hkept)

theorem lastSeen?_of_touches (h : op.Touches t) : (st.perform now op).lastSeen? t = some now :=
  congrArg (Option.map Prod.fst) (stamp_of_touches h)

/-- A session that is neither touched nor removed was last seen when it was before. -/
theorem lastSeen?_of_not_touches (h : ¬op.Touches t) (hkept : ¬st.Removes now t op) :
    (st.perform now op).lastSeen? t = st.lastSeen? t := by
  unfold lastSeen?
  cases op with
  | markMinted s =>
    show ((st.markMinted s).stamp t).map Prod.fst = _
    rw [stamp_markMinted]
    split
    case isTrue ht => rw [Option.map_map, ht.1]; rfl
    case isFalse => rfl
  | adopt s =>
    show ((st.adopt s).stamp t).map Prod.fst = _
    rw [stamp_adopt]
    split
    case isTrue ht => rw [Option.map_map, ht]; rfl
    case isFalse => rfl
  | getState | setState | resetScenario | setHeld | release | resetSession | resetAll | evictIdle | evictMinted =>
    rw [stamp_of_not_touches h hkept nofun nofun]

theorem lastSeen?_of_removes (h : st.Removes now t op) : (st.perform now op).lastSeen? t = none := by
  unfold lastSeen?
  rw [stamp_eq_none_iff.mpr (sessions_of_removes h), Option.map_none]

/-- A session is stored after an operation that touches it, and if it was stored and is not removed. -/
theorem isSome_sessions_perform_iff : (st.perform now op).sessions[t]?.isSome = true ↔
    op.Touches t ∨ st.sessions[t]?.isSome = true ∧ ¬st.Removes now t op := by
  rw [← isSome_lastSeen?, ← isSome_lastSeen?]
  by_cases htouches : op.Touches t
  · simp [lastSeen?_of_touches htouches, htouches]
  by_cases hremoves : st.Removes now t op
  · simp [lastSeen?_of_removes hremoves, htouches, hremoves]
  · simp [lastSeen?_of_not_touches htouches hremoves, htouches, hremoves]

theorem Operation.Touches.not_removes (h : op.Touches t) : ¬st.Removes now t op := fun hremoves =>
  h.elim fun _ => hremoves.mayDrop.not_creates

/-- An operation that neither marks nor adopts leaves the mark of every session that it does not remove. -/
theorem isMinted_of_not_marks (hmark : ∀ s, op ≠ .markMinted s) (hadopt : ∀ s, op ≠ .adopt s) :
    (st.perform now op).isMinted t = true ↔ st.isMinted t = true ∧ ¬st.Removes now t op := by
  rw [(keeps_perform hmark hadopt).isMinted_iff, isSome_sessions_perform_iff]
  constructor
  · rintro ⟨htouches | ⟨-, hkept⟩, hminted⟩
    · exact ⟨hminted, htouches.not_removes⟩
    · exact ⟨hminted, hkept⟩
  · rintro ⟨hminted, hkept⟩
    exact ⟨.inr ⟨isSome_of_isMinted hminted, hkept⟩, hminted⟩

/-- A session is marked after an operation that marks it, and if it was marked and is neither removed nor adopted. The
shared session is not marked, nor is one that is not stored. -/
theorem isMinted_perform_iff : (st.perform now op).isMinted t = true ↔
    (op = .markMinted t ∧ t ≠ .global ∧ st.sessions[t]?.isSome = true) ∨
      st.isMinted t = true ∧ ¬st.Removes now t op ∧ op ≠ .adopt t := by
  cases op with
  | markMinted s =>
    refine isMinted_markMinted.trans ?_
    constructor
    · rintro (hminted | ⟨rfl, hmark⟩)
      · exact .inr ⟨hminted, fun h => h, nofun⟩
      · exact .inl ⟨rfl, hmark⟩
    · rintro (⟨heq, hmark⟩ | ⟨hminted, -⟩)
      · cases heq
        exact .inr ⟨rfl, hmark⟩
      · exact .inl hminted
  | adopt s =>
    refine isMinted_adopt.trans ?_
    constructor
    · rintro ⟨hne, hminted⟩
      exact .inr ⟨hminted, fun h => h, fun heq => hne (Operation.adopt.inj heq).symm⟩
    · rintro (⟨heq, -⟩ | ⟨hminted, -, hne⟩)
      · cases heq
      · exact ⟨fun ht => hne (congrArg Operation.adopt ht.symm), hminted⟩
  | getState | setState | resetScenario | setHeld | release | resetSession | resetAll | evictIdle | evictMinted =>
    refine (isMinted_of_not_marks (by rintro _ ⟨⟩) (by rintro _ ⟨⟩)).trans ?_
    constructor
    · rintro ⟨hminted, hkept⟩
      exact .inr ⟨hminted, hkept, nofun⟩
    · rintro (⟨heq, -⟩ | ⟨hminted, hkept, -⟩)
      · cases heq
      · exact ⟨hminted, hkept⟩

/-! ## Eviction -/

theorem lastSeen?_eq_some_iff {seen : Instant} :
    st.lastSeen? t = some seen ↔ ∃ entry, st.sessions[t]? = some entry ∧ entry.lastSeen = seen := by
  unfold lastSeen? stamp
  rw [Option.map_map, Option.map_eq_some_iff]
  rfl

/-- Dropping the expired entries drops a session exactly if its entry is expired. -/
theorem dropped_iff {st' : Store} {expired : SessionEntry → Bool}
    (hst : st'.sessions[t]? = st.sessions[t]?.filter fun entry => !expired entry) :
    st.sessions[t]?.isSome = true ∧ st'.sessions[t]? = none ↔
      ∃ entry, st.sessions[t]? = some entry ∧ expired entry = true := by
  rw [hst]
  cases st.sessions[t]? with
  | none => simp
  | some entry => simp [Option.filter_some]

theorem removes_evictIdle_iff {reading : Instant} {limit : Duration} : st.Removes now t (.evictIdle reading limit) ↔
    t ≠ .global ∧ ∃ seen, st.lastSeen? t = some seen ∧ limit.nanos < (reading.since seen).nanos := by
  refine (dropped_iff (sessions_evictWhere st t _)).trans ?_
  simp only [lastSeen?_eq_some_iff, Bool.and_eq_true, Bool.not_eq_true', ← Bool.not_eq_true, SessionId.isGlobal_iff]
  constructor
  · rintro ⟨entry, hentry, hglobal, hidle⟩
    exact ⟨hglobal, entry.lastSeen, ⟨entry, hentry, rfl⟩, of_decide_eq_true hidle⟩
  · rintro ⟨hglobal, seen, ⟨entry, hentry, rfl⟩, hidle⟩
    exact ⟨entry, hentry, hglobal, decide_eq_true hidle⟩

theorem removes_evictMinted_iff {reading : Instant} {limit : Duration} :
    st.Removes now t (.evictMinted reading limit) ↔
      st.isMinted t = true ∧ ∃ seen, st.lastSeen? t = some seen ∧ limit.nanos < (reading.since seen).nanos := by
  refine (dropped_iff (sessions_evictWhere st t _)).trans ?_
  simp only [lastSeen?_eq_some_iff, Bool.and_eq_true, isMinted, Option.any_eq_true]
  constructor
  · rintro ⟨entry, hentry, hminted, hidle⟩
    exact ⟨⟨entry, hentry, hminted⟩, entry.lastSeen, ⟨entry, hentry, rfl⟩, of_decide_eq_true hidle⟩
  · rintro ⟨⟨entry, hentry, hminted⟩, seen, ⟨entry', hentry', rfl⟩, hidle⟩
    obtain rfl := Option.some.inj (hentry.symm.trans hentry')
    exact ⟨entry, hentry, hminted, decide_eq_true hidle⟩

end Store

end ScenarioStubs
