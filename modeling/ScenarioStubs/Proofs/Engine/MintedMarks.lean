import ScenarioStubs.Proofs.Engine.Eviction
import ScenarioStubs.Proofs.Engine.Stamps
import ScenarioStubs.Proofs.Since

/-!
# The life of a mark

A session is marked as minted from the call that mints it until a client presents it or it is removed.

- A call marks exactly the sessions that it mints and that hold a state after it, and takes the mark off those that are
  presented to it or removed by it (`isMinted_step_iff`).
- A call removes a session only by resetting it or because it was idle for longer than a lifetime that applies to it
  (`removes_cases`); the lifetime of minted sessions applies only while the mark is on.

Together, along a run: `minted_mark_life_cycle`.
-/

namespace ScenarioStubs

/-- The operation resets the session, alone or with all others. -/
def Operation.Resets (s : SessionId) : Operation → Prop
  | .resetSession t => s = t
  | .resetScenarios | .reset => True
  | _ => False

/-- The session holds the state of some scenario. -/
def Store.HoldsState (st : Store) (s : SessionId) : Prop := ∃ n v, st.peek s n = some v

theorem Store.HoldsState.isSome {st : Store} {s : SessionId} (h : st.HoldsState s) :
    st.sessions[s]?.isSome = true := by
  obtain ⟨n, v, hpeek⟩ := h
  obtain ⟨entry, hentry, -⟩ := Option.bind_eq_some_iff.mp hpeek
  rw [hentry]
  rfl

namespace Engine

variable {e : Engine} {c : Call} {s : SessionId}

/-- The call mints the session, which then holds a state. -/
def Mints (s : SessionId) (e : Engine) (c : Call) : Prop :=
  c.operation.minted? e.config = some s ∧ (e.step c).store.HoldsState s

/-- The session is presented to the call. -/
def Presents (s : SessionId) (e : Engine) (c : Call) : Prop := c.operation.presented? e.config = some s

/-- The session is stored before the call, and not after it. -/
def Removes (s : SessionId) (e : Engine) (c : Call) : Prop :=
  e.store.sessions[s]?.isSome = true ∧ (e.step c).store.sessions[s]? = none

/-- The call drops the expired sessions at a reading of the clock, as it is asked to or because it is time to after a
mint. -/
def Sweeps (reading : Instant) (e : Engine) (c : Call) : Prop :=
  c.operation = .evictExpired reading ∨
    (c.operation.minted? e.config).isSome = true ∧ (e.stats.minted + 1) % sweepEvery = 0 ∧ reading = c.now.next

/-- The call finds the session idle for longer than minted sessions may be, with its mark on. -/
def OutlastsMinted (s : SessionId) (e : Engine) (c : Call) : Prop :=
  ∃ entry reading, e.store.sessions[s]? = some entry ∧ entry.minted = true ∧ e.Sweeps reading c ∧
    e.config.sessions.mintedLimit.nanos < (reading.since entry.lastSeen).nanos

theorem OutlastsMinted.isMinted (h : e.OutlastsMinted s c) : e.store.isMinted s = true := by
  obtain ⟨entry, -, hentry, hminted, -⟩ := h
  unfold Store.isMinted
  rw [hentry]
  exact hminted

/-- The call finds the session idle for longer than sessions may be. -/
def OutlastsIdle (s : SessionId) (e : Engine) (c : Call) : Prop :=
  ∃ entry reading limit, e.store.sessions[s]? = some entry ∧ s ≠ .global ∧
    (c.operation = .evictIdle reading limit ∨ e.Sweeps reading c ∧ e.config.sessions.idleLimit = some limit) ∧
    limit.nanos < (reading.since entry.lastSeen).nanos

/-- The call mints no session that is stored, nor the shared one. -/
def MintsFresh (e : Engine) (c : Call) : Prop :=
  ∀ s ∈ c.operation.minted? e.config, e.store.sessions[s]? = none ∧ s ≠ .global

instance : Decidable (e.MintsFresh c) := inferInstanceAs (Decidable (∀ s ∈ c.operation.minted? e.config, _))

/-- Minted sessions are fresh along a run: unknown when they are minted, and minted once. -/
structure FreshMints (e : Engine) (calls : List Call) : Prop where
  unknown : e.Throughout MintsFresh calls
  distinct : (calls.filterMap fun c => c.operation.minted? e.config).Nodup

/-! ## Removal -/

/-- An entry that is gone after expired entries were dropped has expired. -/
theorem dropped_of_filter {entry : SessionEntry} {expired : SessionEntry → Bool}
    (h : (some entry).filter (fun entry => !expired entry) = none) : expired entry = true := by
  rw [Option.filter_some] at h
  split at h
  case isTrue => cases h
  case isFalse hexpired => rwa [Bool.not_eq_true, Bool.not_eq_false'] at hexpired

theorem outlasts_of_expires {reading : Instant} {entry : SessionEntry} (hentry : e.store.sessions[s]? = some entry)
    (hsweeps : e.Sweeps reading c) (hexpires : e.config.sessions.expires reading s entry = true) :
    e.OutlastsIdle s c ∨ e.OutlastsMinted s c := by
  obtain ⟨hminted, hidle⟩ | ⟨hglobal, limit, hlimit, hidle⟩ := SessionSettings.expires_iff.mp hexpires
  · exact .inr ⟨entry, reading, hentry, hminted, hsweeps, hidle⟩
  · exact .inl ⟨entry, reading, limit, hentry, hglobal, .inr ⟨hsweeps, hlimit⟩, hidle⟩

/-- A match drops no session. -/
theorem isSome_storeAfter {now : Instant} {t : SessionId} {r : Request} (h : e.store.sessions[s]?.isSome = true) :
    (e.storeAfter now t r).sessions[s]?.isSome = true := by
  rw [Option.isSome_iff_ne_none, ne_eq, ← Store.stamp_eq_none_iff, stamp_storeAfter]
  split
  · exact Option.some_ne_none _
  · rwa [Store.stamp_eq_none_iff, ← ne_eq, ← Option.isSome_iff_ne_none]

theorem isSome_setScenarioState {now : Instant} {t : SessionId} {name state : String}
    (h : e.store.sessions[s]?.isSome = true) :
    (e.perform now (.setScenarioState t name state)).2.store.sessions[s]?.isSome = true := by
  rw [perform_setScenarioState]
  split
  · show ((e.store.touch now t [name]).write t name state).sessions[s]?.isSome = true
    unfold Store.write
    rw [Store.isSome_modify, Store.sessions_touch]
    split
    · rfl
    · exact h
  · exact h

/-- What a sweep after a mint removes has expired. -/
theorem outlasts_of_serve {now : Instant} {fresh : SessionId} {r : Request} {entry : SessionEntry}
    (hfresh : e.MintsFresh ⟨now, .serve fresh r⟩) (hentry : e.store.sessions[s]? = some entry)
    (hgone : (e.serve now fresh r).2.store.sessions[s]? = none) :
    e.OutlastsIdle s ⟨now, .serve fresh r⟩ ∨ e.OutlastsMinted s ⟨now, .serve fresh r⟩ := by
  have hstored : ∀ t, ((e.storeAfter now t r).adopt t).sessions[s]?.isSome = true := fun t => by
    unfold Store.adopt
    rw [Store.isSome_modify]
    exact isSome_storeAfter (by rw [hentry]; rfl)
  obtain ⟨t, -, -, hstore⟩ | ⟨-, hminted, hafter⟩ | ⟨-, -, hstore⟩ := serve_cases e now fresh r
  · rw [hstore, ← Option.not_isSome_iff_eq_none] at hgone
    exact absurd (hstored t) hgone
  · have hne : s ≠ fresh := by
      rintro rfl
      cases hentry.symm.trans (hfresh s hminted).1
    rw [hafter, sessions_recordMinted, Store.sessions_markMinted, if_neg fun h => hne h.1, matchIn_store,
      sessions_storeAfter_of_ne now s hne, hentry, matchIn_eq] at hgone
    have hexpired := dropped_of_filter hgone
    rw [Bool.and_eq_true, decide_eq_true_iff] at hexpired
    exact outlasts_of_expires hentry (.inr ⟨by rw [hminted]; rfl, hexpired.1, rfl⟩) hexpired.2
  · rw [hstore, ← Option.not_isSome_iff_eq_none] at hgone
    exact absurd (hstored .global) hgone

/-- **Removal.** A stored session is removed by a reset, or because it was idle for longer than a lifetime that applies
to it. -/
theorem removes_cases (hfresh : e.MintsFresh c) (h : e.Removes s c) :
    c.operation.Resets s ∨ e.OutlastsIdle s c ∨ e.OutlastsMinted s c := by
  obtain ⟨hstored, hgone⟩ := h
  obtain ⟨entry, hentry⟩ := Option.isSome_iff_exists.mp hstored
  obtain ⟨now, op⟩ := c
  have hkept : ∀ {st : Store}, st.sessions[s]?.isSome = true → st.sessions[s]? ≠ none := fun h hnone => by
    rw [hnone] at h
    cases h
  cases op with
  | serve fresh r => exact .inr (outlasts_of_serve hfresh hentry hgone)
  | matchIn t r =>
    have hstore : (e.step ⟨now, .matchIn t r⟩).store = e.storeAfter now t r := matchIn_store now
    rw [hstore] at hgone
    exact absurd hgone (hkept (isSome_storeAfter hstored))
  | setScenarioState t name state => exact absurd hgone (hkept (isSome_setScenarioState hstored))
  | resetScenario t name => exact absurd hgone (hkept (isSome_setScenarioState hstored))
  | resetSession t =>
    have hsessions := Store.sessions_resetSession e.store t s
    split at hsessions
    case isTrue hst => exact .inl hst
    case isFalse => exact absurd (hsessions.symm.trans hgone) (hkept hstored)
  | register | registerDefinition | replaceStub | removeStub | clearStubs =>
    refine absurd ?_ (hkept hstored)
    exact (congrArg (·.sessions[s]?) (store_perform_of_editsMappings e now rfl)).symm.trans hgone
  | scenarios t => exact absurd hgone (hkept hstored)
  | resetScenarios | reset => exact .inl trivial
  | evictExpired reading =>
    have hfilter := (sessions_evictExpired e reading s).symm.trans hgone
    rw [hentry] at hfilter
    exact .inr (outlasts_of_expires hentry (.inl rfl) (dropped_of_filter hfilter))
  | evictIdle reading limit =>
    have hfilter := (Store.sessions_evictWhere e.store s _).symm.trans hgone
    rw [hentry] at hfilter
    obtain ⟨hglobal, hidle⟩ := Bool.and_eq_true_iff.mp (dropped_of_filter hfilter)
    rw [Bool.not_eq_true', ← Bool.not_eq_true, SessionId.isGlobal_iff] at hglobal
    exact .inr (.inl ⟨entry, reading, limit, hentry, hglobal, .inl rfl, decide_eq_true_iff.mp hidle⟩)

/-! ## Marks -/

/-- A session that is stored after it was minted holds a state. -/
theorem holdsState_of_minted (hfresh : e.MintsFresh c) (hminted : c.operation.minted? e.config = some s)
    (hstored : (e.step c).store.sessions[s]?.isSome = true) : (e.step c).store.HoldsState s := by
  obtain ⟨now, op⟩ := c
  obtain ⟨fresh, r, rfl⟩ | ⟨-, hnone, -⟩ := op.serve_or e.config
  · have hafter : (e.serve now fresh r).2 = (e.matchIn now s r).2.recordMinted now s := serve_of_minted hminted
    obtain ⟨entry, hentry⟩ := Option.isSome_iff_exists.mp hstored
    have hkept : ((e.storeAfter now s r).markMinted s).sessions[s]? = some entry := by
      have hfilter := sessions_recordMinted (e.matchIn now s r).2 now s s
      rw [← hafter, matchIn_store] at hfilter
      exact (Option.filter_eq_some_iff.mp (hfilter.symm.trans hentry)).1
    have hnamed : e.touched r ≠ [] := fun h => by
      have hsome := congrArg Option.isSome hkept
      rw [Store.isSome_markMinted, storeAfter_of_no_names now h, (hfresh s hminted).1] at hsome
      cases hsome
    obtain ⟨n, hn⟩ := List.exists_mem_of_ne_nil _ hnamed
    refine ⟨n, e.stateAfter s r n, ?_⟩
    have hpeek : (e.serve now fresh r).2.store.peek s n = ((e.storeAfter now s r).markMinted s).peek s n :=
      Store.peek_congr s (hentry.trans hkept.symm) n
    exact hpeek.trans (by rw [Store.peek_markMinted, peek_storeAfter, if_pos ⟨rfl, hn⟩])
  · cases hnone.symm.trans hminted

/-- The shared session is never marked. -/
theorem not_isMinted_global_after (config : EngineConfig) (calls : List Call) (j : Nat) :
    ((Engine.new config).after (calls.take j)).store.isMinted .global = false := by
  refine Throughout.preserves (p := fun _ _ => True) (fun _ _ _ => trivial)
    (fun e => e.store.isMinted .global = false) (fun _ _ _ => not_isMinted_global_step) (Nat.zero_le j) ?_
  exact Store.isMinted_of_none (Store.sessions_empty .global)

/-- **One call.** A session is marked after a call if the call mints it and leaves it with a state, or if it was marked
and the call neither presents nor removes it. -/
theorem isMinted_step_iff (hfresh : e.MintsFresh c) (hglobal : e.store.isMinted .global = false) :
    (e.step c).store.isMinted s = true ↔
      e.Mints s c ∨ e.store.isMinted s = true ∧ ¬(e.Presents s c ∨ e.Removes s c) := by
  constructor
  · intro h
    obtain ⟨-, hstored, hminted | ⟨hmarked, hpresented⟩⟩ := (isMinted_perform c.operation hglobal).mp h
    · exact .inl ⟨hminted, holdsState_of_minted hfresh hminted hstored⟩
    · refine .inr ⟨hmarked, ?_⟩
      rintro (hpresents | ⟨-, hgone⟩)
      · exact hpresented hpresents
      · have hsome : (e.step c).store.sessions[s]?.isSome = true := hstored
        rw [hgone] at hsome
        cases hsome
  · rintro (⟨hminted, hholds⟩ | ⟨hmarked, hkept⟩)
    · exact (isMinted_perform c.operation hglobal).mpr ⟨(hfresh s hminted).2, hholds.isSome, .inl hminted⟩
    · refine (isMinted_perform c.operation hglobal).mpr ⟨fun heq => ?_, ?_, .inr ⟨hmarked, fun h => hkept (.inl h)⟩⟩
      · rw [heq, hglobal] at hmarked
        cases hmarked
      · refine Option.isSome_iff_ne_none.mpr fun hgone => hkept (.inr ⟨Store.isSome_of_isMinted hmarked, hgone⟩)

/-! ## Runs -/

section Run

variable {config : EngineConfig} {calls : List Call} {i j k : Nat} (h : (Engine.new config).FreshMints calls)
include h

/-- A session is marked at a point of a run if an earlier call minted it and left it with a state, and no call since has
presented or removed it. -/
theorem isMinted_after_iff : ((Engine.new config).after (calls.take j)).store.isMinted s = true ↔
    ∃ i < j, (Engine.new config).At (Mints s) calls i ∧ ∀ k, i < k → k < j →
      ¬(Engine.new config).At (fun e c => e.Presents s c ∨ e.Removes s c) calls k := by
  apply holds_iff_begun_since_entry fun calls => ((Engine.new config).after calls).store.isMinted s = true
  · have hnone : (Engine.new config).store.isMinted s = false := Store.isMinted_of_none (Store.sessions_empty s)
    exact Bool.not_eq_true _ ▸ hnone
  · intro j c hc
    rw [after_take_succ _ hc]
    exact isMinted_step_iff (h.unknown j c hc) (not_isMinted_global_after config calls j)

/-- A session that was minted is not minted again. -/
theorem FreshMints.not_minted_again (hij : i < j)
    (hi : (Engine.new config).At (fun e c => c.operation.minted? e.config = some s) calls i) :
    ¬(Engine.new config).At (fun e c => c.operation.minted? e.config = some s) calls j := by
  rintro ⟨d, hd, hmintedj⟩
  obtain ⟨c, hc, hmintedi⟩ := hi
  rw [after_config] at hmintedi hmintedj
  obtain ⟨hilt, rfl⟩ := List.getElem?_eq_some_iff.mp hc
  obtain ⟨hjlt, rfl⟩ := List.getElem?_eq_some_iff.mp hd
  have hpairwise := List.pairwise_iff_getElem.mp (List.pairwise_filterMap.mp h.distinct)
  exact hpairwise i j hilt hjlt hij s hmintedi s hmintedj rfl

/-- Once a minted session was presented, it is not marked any more. -/
theorem FreshMints.not_isMinted_of_presented
    (hi : (Engine.new config).At (fun e c => c.operation.minted? e.config = some s) calls i)
    (hk : (Engine.new config).At (Presents s) calls k) (hik : i < k) (hkj : k < j) :
    ((Engine.new config).after (calls.take j)).store.isMinted s = false := by
  rw [← Bool.not_eq_true]
  intro hmarked
  obtain ⟨i', -, ⟨c, hc, hminted, -⟩, hsince⟩ := (isMinted_after_iff h).mp hmarked
  obtain hlt | rfl | hgt := Nat.lt_trichotomy i i'
  · exact h.not_minted_again hlt hi ⟨c, hc, hminted⟩
  · obtain ⟨d, hd, hpresents⟩ := hk
    exact hsince k hik hkj ⟨d, hd, .inl hpresents⟩
  · exact h.not_minted_again hgt ⟨c, hc, hminted⟩ hi

end Run

/-- **The life of a mark.** Take a run of a new engine in which minted sessions are fresh. A session is marked at a
point of the run exactly if an earlier call minted it and left it with a state, and no call since was presented it or
removed it. A session is removed by a reset, or for being idle for longer than sessions may be, or for being idle for
longer than minted sessions may be; once a minted session was presented, it is not marked any more, and what removes it
is a reset or the general lifetime. -/
theorem minted_mark_life_cycle (config : EngineConfig) (calls : List Call) (s : SessionId)
    (h : (Engine.new config).FreshMints calls) :
    (∀ j, ((Engine.new config).after (calls.take j)).store.isMinted s = true ↔
        ∃ i < j, (Engine.new config).At (Mints s) calls i ∧ ∀ k, i < k → k < j →
          ¬(Engine.new config).At (fun e c => e.Presents s c ∨ e.Removes s c) calls k) ∧
      (∀ j, (Engine.new config).At (Removes s) calls j → (Engine.new config).At
        (fun e c => c.operation.Resets s ∨ e.OutlastsIdle s c ∨ e.OutlastsMinted s c) calls j) ∧
      ∀ i k j, i < k → k < j →
        (Engine.new config).At (fun e c => c.operation.minted? e.config = some s) calls i →
        (Engine.new config).At (Presents s) calls k →
        ((Engine.new config).after (calls.take j)).store.isMinted s = false ∧
          ((Engine.new config).At (Removes s) calls j →
            (Engine.new config).At (fun e c => c.operation.Resets s ∨ e.OutlastsIdle s c) calls j) := by
  refine ⟨fun j => isMinted_after_iff h, fun j ⟨c, hc, hremoves⟩ => ⟨c, hc, removes_cases (h.unknown j c hc) hremoves⟩,
    fun i k j hik hkj hi hk => ?_⟩
  have hunmarked := h.not_isMinted_of_presented hi hk hik hkj
  refine ⟨hunmarked, fun ⟨c, hc, hremoves⟩ => ⟨c, hc, ?_⟩⟩
  obtain hresets | hidle | hminted := removes_cases (h.unknown j c hc) hremoves
  · exact .inl hresets
  · exact .inr hidle
  · exact absurd hminted.isMinted (Bool.not_eq_true _ ▸ hunmarked)

/-- Sessions `m` and `n` are minted, and `m` is presented. The sweep drops `n`, whose mark is on, and spares `m`; being
idle drops `m` in the end. -/
theorem minted_mark_life_cycle_of_m_and_n :
    let m : SessionId := ⟨"m", by decide⟩
    let n : SessionId := ⟨"n", by decide⟩
    let first : StubMapping := ⟨⟨1⟩, 5, .always, some ⟨"S", some "Started", some "Seen"⟩, .ofStatus 201⟩
    let r := Request.new "GET" "/"
    let e := Engine.new (EngineConfig.withSignalNames {} "S" "C")
    let calls : List Call := [⟨⟨0⟩, .register first⟩, ⟨⟨1⟩, .serve m r⟩, ⟨⟨2⟩, .serve n r⟩,
      ⟨⟨3⟩, .serve ⟨"o", by decide⟩ (r.withHeader "S" "m")⟩, ⟨⟨4⟩, .evictExpired ⟨301000000000⟩⟩,
      ⟨⟨5⟩, .evictIdle ⟨302000000000⟩ ⟨60000000000⟩⟩]
    (∃ i < 3, e.At (Mints m) calls i) ∧ e.At (OutlastsMinted n) calls 4 ∧
      (∀ j, 3 < j → (e.after (calls.take j)).store.isMinted m = false) ∧ e.At (OutlastsIdle m) calls 5 := by
  intro m n first r e calls
  have h : e.FreshMints calls := ⟨by decide +kernel, by decide +kernel⟩
  obtain ⟨hmarked, -, hpresented⟩ := minted_mark_life_cycle _ calls m h
  obtain ⟨-, hremoved, -⟩ := minted_mark_life_cycle _ calls n h
  have hminted : e.At (fun e c => c.operation.minted? e.config = some m) calls 1 := ⟨_, rfl, by decide +kernel⟩
  have hpresents : e.At (Presents m) calls 3 := ⟨_, rfl, (by decide +kernel : _ = _)⟩
  have hdropped : e.At (Removes n) calls 4 := ⟨_, rfl, (by decide +kernel : _ = _), (by decide +kernel : _ = _)⟩
  have hidle : e.At (Removes m) calls 5 := ⟨_, rfl, (by decide +kernel : _ = _), (by decide +kernel : _ = _)⟩
  refine ⟨?_, ?_, fun j hj => (hpresented 1 3 j (by decide) hj hminted hpresents).1, ?_⟩
  · obtain ⟨i, hi, hmints, -⟩ := (hmarked 3).mp (by decide +kernel)
    exact ⟨i, hi, hmints⟩
  · obtain ⟨c, hc, hresets | ⟨entry, reading, limit, -, -, hevicts | ⟨-, hlimit⟩, -⟩ | houtlasts⟩ := hremoved 4 hdropped
    · cases hc
      cases hresets
    · cases hc
      cases hevicts
    · rw [after_config] at hlimit
      cases hlimit
    · exact ⟨c, hc, houtlasts⟩
  · obtain ⟨c, hc, hresets | houtlasts⟩ := (hpresented 1 3 5 (by decide) (by decide) hminted hpresents).2 hidle
    · cases hc
      cases hresets
    · exact ⟨c, hc, houtlasts⟩

end Engine
end ScenarioStubs
