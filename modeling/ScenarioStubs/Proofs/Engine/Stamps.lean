import ScenarioStubs.Proofs.Engine.Effect
import ScenarioStubs.Proofs.Engine.Operation
import ScenarioStubs.Proofs.Session.Resolver
import ScenarioStubs.Proofs.Store.Marks

/-!
# What an operation does to the mark of a session

An operation other than serving a request leaves the mark of every session that it keeps as it was (`keeps_perform`).
Serving a request adopts the session that the request presents, or marks the one that is minted for it (`serve_cases`);
in between, the match keeps every session. For any operation:

- a session stored after it was last seen now, or when it was before (`lastSeen_perform`);
- a session stored after it is marked if it was minted by it, or was marked before and not presented to it
  (`isMinted_perform`).
-/

namespace ScenarioStubs

/-! ## The session of a served request -/

/-- The session that the client of a served request presents, by a header or a cookie. -/
def Operation.presented? (c : EngineConfig) : Operation → Option SessionId
  | .serve _ r =>
    if c.sessions.sessionAware then (c.sessions.resolver.presented? r.headers r.cookies).map (·.id) else none
  | _ => none

/-- Only served requests mint or present sessions. -/
theorem Operation.serve_or (op : Operation) (c : EngineConfig) :
    (∃ fresh r, op = .serve fresh r) ∨
      (∀ fresh r, op ≠ .serve fresh r) ∧ op.minted? c = none ∧ op.presented? c = none := by
  cases op with
  | serve fresh r => exact .inl ⟨fresh, r, rfl⟩
  | _ => exact .inr ⟨fun _ _ h => Operation.noConfusion h, rfl, rfl⟩

namespace Engine

variable {e : Engine} {now : Instant} {s t : SessionId} {fresh : SessionId} {r : Request}

/-- The three ways in which a request is served. -/
theorem serve_cases (e : Engine) (now : Instant) (fresh : SessionId) (r : Request) :
    (∃ s, (Operation.serve fresh r).presented? e.config = some s ∧ (Operation.serve fresh r).minted? e.config = none ∧
        (e.serve now fresh r).2.store = (e.storeAfter now s r).adopt s) ∨
      ((Operation.serve fresh r).presented? e.config = none ∧
        (Operation.serve fresh r).minted? e.config = some fresh ∧
        (e.serve now fresh r).2 = (e.matchIn now fresh r).2.recordMinted now fresh) ∨
      ((Operation.serve fresh r).presented? e.config = none ∧ (Operation.serve fresh r).minted? e.config = none ∧
        (e.serve now fresh r).2.store = (e.storeAfter now .global r).adopt .global) := by
  have hadopt : ∀ s, ({ (e.matchIn now s r).2 with store := (e.matchIn now s r).2.store.adopt s } : Engine).store =
      (e.storeAfter now s r).adopt s := fun s => congrArg (·.adopt s) (matchIn_store now)
  rw [serve_eq]
  unfold resolveSession resolver Operation.presented? Operation.minted?
  obtain ⟨p, haware, hp, hresolve⟩ | ⟨haware, hp, hresolve⟩ | ⟨haware, hresolve⟩ :=
    Resolver.resolve_cases e.config.sessions.resolver fresh r.headers r.cookies
  · have haware : e.config.sessions.sessionAware = true := haware
    have hkept := Resolver.not_isEphemeral_of_presented? hp
    refine .inl ⟨p.id, ?_, ?_, ?_⟩
    · simp [haware, hp]
    · simp [hresolve, hkept]
    · simp only [hresolve, hkept, Bool.false_eq_true, if_false]
      exact hadopt p.id
  · have haware : e.config.sessions.sessionAware = true := haware
    refine .inr (.inl ⟨by simp [haware, hp], by simp [hresolve, ResolvedSession.isEphemeral], ?_⟩)
    rw [hresolve]
    rfl
  · have haware : e.config.sessions.sessionAware = false := haware
    refine .inr (.inr ⟨by simp [haware], by simp [hresolve, ResolvedSession.isEphemeral], ?_⟩)
    rw [hresolve]
    exact hadopt .global

/-- A request for which a session is minted is matched in that session, which is then marked. -/
theorem serve_of_minted (h : (Operation.serve fresh r).minted? e.config = some s) :
    (e.serve now fresh r).2 = (e.matchIn now s r).2.recordMinted now s := by
  obtain ⟨t, -, hnone, -⟩ | ⟨-, hsome, hafter⟩ | ⟨-, hnone, -⟩ := serve_cases e now fresh r
  · cases hnone.symm.trans h
  · obtain rfl : fresh = s := Option.some.inj (hsome.symm.trans h)
    exact hafter
  · cases hnone.symm.trans h

/-! ## What an operation does to a session -/

theorem keeps_storeAfter : Store.Keeps now e.store (e.storeAfter now s r) t := by
  have hstamp := stamp_storeAfter (e := e) (s := s) (r := r) now t
  split at hstamp
  case isTrue h => exact .inr (.inr (by rw [hstamp, h.1]))
  case isFalse => exact .inr (.inl hstamp)

theorem keeps_setScenarioState (name state : String) :
    Store.Keeps now e.store (e.perform now (.setScenarioState s name state)).2.store t := by
  rw [perform_setScenarioState]
  split
  · exact .setState name state
  · exact .of_eq rfl

/-- Only serving a request changes the mark of a session that stays. -/
theorem keeps_perform {op : Operation} (hserve : ∀ fresh r, op ≠ .serve fresh r) :
    Store.Keeps now e.store (e.perform now op).2.store t := by
  cases op with
  | serve fresh r => exact absurd rfl (hserve fresh r)
  | matchIn s r =>
    have hstore : (e.perform now (.matchIn s r)).2.store = e.storeAfter now s r := matchIn_store now
    rw [hstore]
    exact keeps_storeAfter
  | setScenarioState s name state => exact keeps_setScenarioState name state
  | resetScenario s name => exact keeps_setScenarioState name startState
  | resetSession s =>
    have hsessions := Store.sessions_resetSession e.store s t
    split at hsessions
    · exact .of_none hsessions
    · exact .of_eq hsessions
  | register | registerDefinition | replaceStub | removeStub | clearStubs =>
    exact .of_eq (congrArg (·.sessions[t]?) (store_perform_of_editsMappings e now rfl))
  | resetScenarios | reset => exact .of_none (Store.sessions_resetAll e.store t)
  | evictExpired reading => exact .of_filter (sessions_evictExpired e reading t)
  | evictIdle reading limit => exact .of_filter (Store.sessions_evictWhere e.store t _)
  | scenarios => exact .of_eq rfl

/-- A session that is stored after an operation was last seen now, or when it was before. -/
theorem lastSeen_perform (op : Operation) {seen : Instant} {mark : Bool}
    (hstamp : (e.perform now op).2.store.stamp t = some (seen, mark)) :
    seen = now ∨ ∃ mark, e.store.stamp t = some (seen, mark) := by
  obtain ⟨fresh, r, rfl⟩ | ⟨hserve, -⟩ := op.serve_or e.config
  · -- What follows the match touches no session.
    have hmatch : ∃ s mark, (e.storeAfter now s r).stamp t = some (seen, mark) := by
      have hstamp : (e.serve now fresh r).2.store.stamp t = some (seen, mark) := hstamp
      obtain ⟨s, -, -, hstore⟩ | ⟨-, -, hminted⟩ | ⟨-, -, hstore⟩ := serve_cases e now fresh r
      · exact ⟨s, Store.lastSeen_adopt (hstore ▸ hstamp)⟩
      · obtain hgone | hsame := Store.stamp_of_filter (sessions_recordMinted (e.matchIn now fresh r).2 now fresh t)
        · rw [hminted, hgone] at hstamp
          cases hstamp
        · rw [hminted, hsame, matchIn_store] at hstamp
          exact ⟨fresh, Store.lastSeen_markMinted hstamp⟩
      · exact ⟨.global, Store.lastSeen_adopt (hstore ▸ hstamp)⟩
    obtain ⟨s, mark, hmatch⟩ := hmatch
    exact keeps_storeAfter.lastSeen hmatch
  · exact (keeps_perform hserve).lastSeen hstamp

theorem isMinted_serve (hmarked : e.store.isMinted t = true → t ≠ .global) :
    (e.serve now fresh r).2.store.isMinted t = true ↔
      t ≠ .global ∧ (e.serve now fresh r).2.store.sessions[t]?.isSome = true ∧
        ((Operation.serve fresh r).minted? e.config = some t ∨
          e.store.isMinted t = true ∧ (Operation.serve fresh r).presented? e.config ≠ some t) := by
  have hmatch : ∀ s, (e.storeAfter now s r).isMinted t = true ↔
      (e.storeAfter now s r).sessions[t]?.isSome = true ∧ e.store.isMinted t = true :=
    fun s => keeps_storeAfter.isMinted_iff
  obtain ⟨s, hpresented, hminted, hstore⟩ | ⟨hpresented, hminted, hafter⟩ | ⟨hpresented, hminted, hstore⟩ :=
    serve_cases e now fresh r
  · rw [hpresented, hminted, hstore, Store.isMinted_adopt, Store.adopt, Store.isSome_modify, hmatch]
    grind
  · have hfilter := sessions_recordMinted (e.matchIn now fresh r).2 now fresh t
    have hkept : Store.Keeps now _ _ t := .of_filter hfilter
    have hstored : ((e.serve now fresh r).2.store.sessions[t]?).isSome = true →
        (e.storeAfter now fresh r).sessions[t]?.isSome = true := fun h => by
      rw [hafter, hfilter] at h
      obtain ⟨entry, hentry⟩ := Option.isSome_iff_exists.mp h
      rw [← Store.isSome_markMinted (s := fresh), ← matchIn_store, (Option.filter_eq_some_iff.mp hentry).1]
      rfl
    rw [hpresented, hminted, hafter, hkept.isMinted_iff, Store.isMinted_markMinted, matchIn_store, hmatch, ← hafter]
    grind
  · rw [hpresented, hminted, hstore, Store.isMinted_adopt, Store.adopt, Store.isSome_modify, hmatch]
    grind

/-- **Marks.** As long as the shared session is not marked, the marked sessions after an operation are those that it
minted and those that were marked before and that it was not presented, as far as they are stored. -/
theorem isMinted_perform (op : Operation) (hglobal : e.store.isMinted .global = false) :
    (e.perform now op).2.store.isMinted t = true ↔
      t ≠ .global ∧ (e.perform now op).2.store.sessions[t]?.isSome = true ∧
        (op.minted? e.config = some t ∨ e.store.isMinted t = true ∧ op.presented? e.config ≠ some t) := by
  have hmarked : e.store.isMinted t = true → t ≠ .global := fun ht heq => by
    rw [heq, hglobal] at ht
    cases ht
  obtain ⟨fresh, r, rfl⟩ | ⟨hserve, hminted, hpresented⟩ := op.serve_or e.config
  · exact isMinted_serve hmarked
  · rw [hminted, hpresented, (keeps_perform hserve).isMinted_iff]
    simp only [reduceCtorEq, false_or, ne_eq, not_false_eq_true, and_true]
    exact ⟨fun ⟨hstored, ht⟩ => ⟨hmarked ht, hstored, ht⟩, fun ⟨_, hstored, ht⟩ => ⟨hstored, ht⟩⟩

/-- No call marks the shared session. -/
theorem not_isMinted_global_step {c : Call} (hglobal : e.store.isMinted .global = false) :
    (e.step c).store.isMinted .global = false := by
  rw [← Bool.not_eq_true]
  exact fun h => ((isMinted_perform c.operation hglobal).mp h).1 rfl

end Engine

end ScenarioStubs
