import ScenarioStubs.Proofs.Engine.Counters
import ScenarioStubs.Proofs.Engine.Eviction
import ScenarioStubs.Proofs.Engine.Recency

/-!
# How many sessions are marked

Where minted sessions have no lifetime, the sweep after every so many mints leaves no session marked
(`not_isMinted_of_swept`). In between, a call marks one session at most, and only if it counts a mint
(`mintedSessions_subset`, `minted_step`), so the number of marked sessions is bounded by the number of mints since the
last sweep: `minted_count_le`.
-/

namespace ScenarioStubs

namespace Store

/-- The sessions that are marked as minted, ascending. -/
def mintedSessions (st : Store) : List SessionId := st.sessions.keys.filter st.isMinted

/-- Every stored session was seen at the given reading of the clock or before. -/
def SeenBy (st : Store) (now : Instant) : Prop :=
  ∀ (t : SessionId) (entry : SessionEntry), st.sessions[t]? = some entry → entry.lastSeen.nanos ≤ now.nanos

variable {st : Store} {t : SessionId}

theorem mem_mintedSessions : t ∈ st.mintedSessions ↔ st.isMinted t = true := by
  unfold mintedSessions
  rw [List.mem_filter, Std.ExtTreeMap.mem_keys, Std.ExtTreeMap.mem_iff_isSome_getElem?]
  exact ⟨And.right, fun h => ⟨isSome_of_isMinted h, h⟩⟩

theorem nodup_mintedSessions (st : Store) : st.mintedSessions.Nodup :=
  List.Nodup.sublist List.filter_sublist st.sessions.nodup_keys

theorem seenBy_empty (now : Instant) : empty.SeenBy now := fun t entry h => by
  rw [sessions_empty] at h
  cases h

theorem SeenBy.mono {now now' : Instant} (h : st.SeenBy now) (hnow : now.nanos ≤ now'.nanos) : st.SeenBy now' :=
  fun t entry hentry => Nat.le_trans (h t entry hentry) hnow

end Store

namespace Engine

variable {e : Engine} {c : Call} {s t : SessionId}

theorem seenBy_step (h : e.store.SeenBy c.now) : (e.step c).store.SeenBy c.now := fun t =>
  seen_perform (p := fun seen => seen.nanos ≤ c.now.nanos) (Nat.le_refl _) (h t) c.operation

/-! ## Sweeps -/

/-- Where minted sessions have no lifetime, the sweep after a mint leaves no session marked. -/
theorem not_isMinted_of_swept (hzero : e.config.sessions.mintedSeconds = 0) (hseen : e.store.SeenBy c.now)
    (hminted : c.operation.minted? e.config = some s) (hsweep : (e.stats.minted + 1) % sweepEvery = 0) :
    (e.step c).store.isMinted t = false := by
  rw [← Bool.not_eq_true]
  intro hmarked
  obtain ⟨entry, hentry, hmark⟩ := (Option.any_eq_true _ _).mp hmarked
  have hrecent : entry.lastSeen.nanos ≤ c.now.nanos := seenBy_step hseen t entry hentry
  obtain ⟨now, op⟩ := c
  obtain ⟨fresh, r, rfl⟩ | ⟨-, hnone, -⟩ := op.serve_or e.config
  · -- The entry was in the store when the sweep ran, and the sweep spared it.
    have hentry : (e.serve now fresh r).2.store.sessions[t]? = some entry := hentry
    rw [serve_of_minted hminted, sessions_recordMinted, matchIn_eq] at hentry
    obtain ⟨-, hspared⟩ := Option.filter_eq_some_iff.mp hentry
    have hlimit : e.config.sessions.mintedLimit.nanos < (now.next.since entry.lastSeen).nanos := by
      simp only [SessionSettings.mintedLimit, hzero, Duration.ofSeconds, Instant.since, Instant.next]
      simp only at hrecent
      exact Nat.sub_pos_of_lt (Nat.lt_succ_of_le hrecent)
    have hexpired := SessionSettings.expires_iff (s := t).mpr (.inl ⟨hmark, hlimit⟩)
    have hsweep : ((e.statsAfter s r).minted + 1) % sweepEvery = 0 := hsweep
    simp [hexpired, hsweep] at hspared
  · cases hnone.symm.trans hminted

/-! ## The number of marked sessions -/

/-- A call marks at most the session that it mints. -/
theorem mintedSessions_subset (hglobal : e.store.isMinted .global = false) :
    (e.step c).store.mintedSessions ⊆ (c.operation.minted? e.config).toList ++ e.store.mintedSessions := by
  intro t ht
  rw [List.mem_append, Option.mem_toList, Store.mem_mintedSessions]
  obtain ⟨-, -, hminted | ⟨hmarked, -⟩⟩ := (isMinted_perform c.operation hglobal).mp (Store.mem_mintedSessions.mp ht)
  · exact .inl hminted
  · exact .inr hmarked

/-- A call keeps the number of marked sessions within the number of mints since the last sweep. -/
theorem mintedSessions_step (hzero : e.config.sessions.mintedSeconds = 0) (hglobal : e.store.isMinted .global = false)
    (hseen : e.store.SeenBy c.now) (hcount : e.store.mintedSessions.length ≤ e.stats.minted % sweepEvery) :
    (e.step c).store.mintedSessions.length ≤ (e.step c).stats.minted % sweepEvery := by
  have hlength := (Store.nodup_mintedSessions _).length_le_of_subset (mintedSessions_subset (c := c) hglobal)
  rw [List.length_append, Option.length_toList] at hlength
  rw [minted_step]
  cases hminted : c.operation.minted? e.config with
  | none =>
    rw [hminted] at hlength
    simp only [Option.isSome_none, Bool.false_eq_true, if_false, Nat.add_zero] at hlength ⊢
    omega
  | some s =>
    rw [hminted] at hlength
    simp only [Option.isSome_some, if_true] at hlength ⊢
    by_cases hsweep : (e.stats.minted + 1) % sweepEvery = 0
    · have hempty : (e.step c).store.mintedSessions = [] := List.eq_nil_iff_forall_not_mem.mpr fun t ht => by
        have hmarked := Store.mem_mintedSessions.mp ht
        rw [not_isMinted_of_swept hzero hseen hminted hsweep] at hmarked
        cases hmarked
      rw [hempty]
      exact Nat.zero_le _
    · rw [sweepEvery] at *
      omega

/-! ## Runs -/

/-- Where the clock does not run backwards, no session is seen later than the next call. -/
theorem throughout_seenBy {calls : List Call} (hclock : calls.Pairwise fun c d => c.now.nanos ≤ d.now.nanos)
    (hseen : ∀ c ∈ calls, e.store.SeenBy c.now) : e.Throughout (fun e c => e.store.SeenBy c.now) calls := by
  induction calls generalizing e with
  | nil => exact fun i c hc => by cases hc
  | cons d rest ih =>
    obtain ⟨hd, hrest⟩ := List.pairwise_cons.mp hclock
    have hafter := seenBy_step (hseen d List.mem_cons_self)
    intro i c hc
    cases i with
    | zero =>
      cases hc
      exact hseen d List.mem_cons_self
    | succ i => exact ih hrest (fun c hc => hafter.mono (hd c hc)) i c hc

/-- **Minted sessions do not pile up.** Take a run of a new engine in which minted sessions have no lifetime, and a
clock that does not run backwards. At every point of the run, no more sessions are marked than were minted since the
last sweep, so fewer than there are mints between two sweeps. -/
theorem minted_count_le (config : EngineConfig) (calls : List Call) (hzero : config.sessions.mintedSeconds = 0)
    (hclock : calls.Pairwise fun c d => c.now.nanos ≤ d.now.nanos) (j : Nat) :
    ((Engine.new config).after (calls.take j)).store.mintedSessions.length ≤
        ((Engine.new config).after (calls.take j)).stats.minted % sweepEvery ∧
      ((Engine.new config).after (calls.take j)).store.mintedSessions.length ≤ 1023 := by
  have hseen := throughout_seenBy (e := Engine.new config) hclock fun c _ => Store.seenBy_empty c.now
  obtain ⟨-, -, hcount⟩ := hseen.preserves
    (fun e => e.config = config ∧ e.store.isMinted .global = false ∧
      e.store.mintedSessions.length ≤ e.stats.minted % sweepEvery)
    (fun e c hseen ⟨hconfig, hglobal, hcount⟩ => ⟨(step_config e c).trans hconfig, not_isMinted_global_step hglobal,
      mintedSessions_step (hconfig ▸ hzero) hglobal hseen hcount⟩)
    (Nat.zero_le j) ⟨rfl, Store.isMinted_of_none (Store.sessions_empty .global), Nat.zero_le _⟩
  exact ⟨hcount, Nat.le_of_lt_succ (Nat.lt_of_le_of_lt hcount (Nat.mod_lt _ (by decide)))⟩

/-- Three sessions are minted, of which `m` is presented, and a sweep at an early reading of the clock drops none. -/
theorem minted_count_le_of_three_mints :
    let m : SessionId := ⟨"m", by decide⟩
    let first : StubMapping := ⟨⟨1⟩, 5, .always, some ⟨"S", some "Started", some "Seen"⟩, .ofStatus 201⟩
    let r := Request.new "GET" "/"
    let config := (EngineConfig.withSignalNames {} "S" "C").withMintedLimit ⟨999999999⟩
    let calls : List Call := [⟨⟨0⟩, .register first⟩, ⟨⟨1⟩, .serve m r⟩, ⟨⟨2⟩, .serve ⟨"n", by decide⟩ r⟩,
      ⟨⟨2⟩, .serve ⟨"o", by decide⟩ r⟩, ⟨⟨3⟩, .serve ⟨"p", by decide⟩ (r.withHeader "S" "m")⟩, ⟨⟨4⟩, .evictExpired ⟨1⟩⟩]
    ((Engine.new config).after (calls.take 4)).store.mintedSessions.length = 3 ∧
      ((Engine.new config).after (calls.take 6)).store.mintedSessions.length = 2 ∧
      ∀ j, ((Engine.new config).after (calls.take j)).store.mintedSessions.length ≤
        ((Engine.new config).after (calls.take j)).stats.minted % sweepEvery := by
  intro m first r config calls
  refine ⟨by decide +kernel, by decide +kernel, fun j => ?_⟩
  obtain ⟨hcount, -⟩ := minted_count_le config calls (by decide +kernel) (by decide) j
  exact hcount

end Engine

end ScenarioStubs
