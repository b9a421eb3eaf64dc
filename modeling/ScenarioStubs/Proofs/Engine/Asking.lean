import ScenarioStubs.Proofs.Engine.Effect
import ScenarioStubs.Proofs.Engine.Operation

/-!
# Operations that answer a request

A request is answered in a session when it is served or matched in that session (`Operation.Asks`). The stub in the
answer is that of the best mapping (`Engine.stub?_answer_iff`).

What is done to the store after the match depends on the operation: a session that is presented is adopted, one that is
minted is marked, and sometimes a sweep follows. `Engine.matched` is the engine in between.
-/

namespace ScenarioStubs

namespace Operation

/-- The operation answers the request `r` in the session `s`. -/
inductive Asks (c : EngineConfig) : Operation → SessionId → Request → Prop
  | serve (fresh : SessionId) (r : Request) :
    Asks c (.serve fresh r) (c.sessions.resolver.resolve fresh r.headers r.cookies).id r
  | matchIn (s : SessionId) (r : Request) : Asks c (.matchIn s r) s r

/-- Whether the operation takes the session that it acts on as presented by a client. -/
def presents : Operation → Bool
  | .serve _ _ => true
  | _ => false

theorem Asks.of_id {c : EngineConfig} {fresh s : SessionId} {r : Request}
    (h : (c.sessions.resolver.resolve fresh r.headers r.cookies).id = s) : Asks c (.serve fresh r) s r :=
  h ▸ .serve fresh r

/-- An operation answers at most one request. -/
theorem Asks.unique {c : EngineConfig} {op : Operation} {s s' : SessionId} {r r' : Request} (h : op.Asks c s r)
    (h' : op.Asks c s' r') : s = s' ∧ r = r' := by
  cases h <;> cases h' <;> exact ⟨rfl, rfl⟩

end Operation

/-- The stub that an answer serves. -/
def Answer.stub? : Answer → Option ServedStub
  | .served event => event.stub
  | .matched stub => stub
  | _ => none

namespace Engine

variable {e e' : Engine} {op : Operation} {now now' : Instant} {s : SessionId} {r : Request}

/-- The call is answered in the session `s` by the mapping `m`. -/
def Serves (e : Engine) (c : Call) (s : SessionId) (m : StubMapping) : Prop :=
  ∃ r i, c.operation.Asks e.config s r ∧ e.IsBest s r i m

/-- The engine when the request of an operation was matched and nothing else was done yet; the engine before the
operation if it answers no request. -/
def matched (e : Engine) (now : Instant) : Operation → Engine
  | .serve fresh r => (e.matchIn now (e.resolveSession fresh r).id r).2
  | .matchIn s r => (e.matchIn now s r).2
  | _ => e

/-! ## Answers -/

theorem stub?_perform (h : op.Asks e.config s r) : (e.perform now op).1.stub? = (e.matchIn now s r).1 := by
  cases h <;> rfl

/-- Who serves a call is what its answer tells. -/
theorem stub?_answer_iff {c : Call} {stub : ServedStub} (h : c.operation.Asks e.config s r) :
    (e.answer c).stub? = some stub ↔ ∃ m, e.Serves c s m ∧ stub = ⟨m.id, m.response⟩ := by
  unfold answer Serves
  rw [stub?_perform h, matchIn_fst_eq_some_iff]
  constructor
  · rintro ⟨i, m, hbest, rfl⟩
    exact ⟨m, ⟨r, i, h, hbest⟩, rfl⟩
  · rintro ⟨m, ⟨r', i, h', hbest⟩, rfl⟩
    obtain ⟨-, rfl⟩ := h.unique h'
    exact ⟨i, m, hbest, rfl⟩

/-- A call is answered by at most one mapping. -/
theorem Serves.unique {c : Call} {m m' : StubMapping} (h : e.Serves c s m) (h' : e.Serves c s m') : m = m' := by
  obtain ⟨r, i, hasks, hbest⟩ := h
  obtain ⟨r', j, hasks', hbest'⟩ := h'
  obtain ⟨-, rfl⟩ := hasks.unique hasks'
  exact (hbest.unique hbest').2

/-- The session in the answer depends on the settings only, and the stub in it on the match. -/
theorem perform_fst_congr (h : op.Asks e.config s r) (hconfig : e.config = e'.config)
    (hmatch : (e.matchIn now s r).1 = (e'.matchIn now' s r).1) : (e.perform now op).1 = (e'.perform now' op).1 := by
  cases h with
  | serve fresh r =>
    have hsession : e'.resolveSession fresh r = e.resolveSession fresh r := by
      unfold resolveSession resolver
      rw [hconfig]
    show Answer.served (e.serve now fresh r).1 = .served (e'.serve now' fresh r).1
    rw [serve_eq, serve_eq, hsession]
    exact congrArg (fun stub => Answer.served ⟨e.resolveSession fresh r, stub⟩) hmatch
  | matchIn s r => exact congrArg Answer.matched hmatch

/-! ## After the match -/

theorem matched_of_asks (h : op.Asks e.config s r) :
    e.matched now op = { e with store := e.storeAfter now s r, stats := e.statsAfter s r } := by
  cases h <;> exact congrArg Prod.snd (matchIn_eq e now _ r)

/-- Unless a session is minted, all that follows the match is that a session that is presented is adopted. -/
theorem perform_of_asks (h : op.Asks e.config s r) (hminted : op.minted? e.config = none) :
    (e.perform now op).2 =
      { e.matched now op with
        store := if op.presents then (e.matched now op).store.adopt s else (e.matched now op).store } := by
  cases h with
  | serve fresh r =>
    have hkept : (e.resolveSession fresh r).isEphemeral = false :=
      Bool.eq_false_iff.mpr fun hephemeral => Option.some_ne_none _ ((if_pos hephemeral).symm.trans hminted)
    show (e.serve now fresh r).2 = _
    rw [serve_eq]
    simp only [hkept, Bool.false_eq_true, if_false]
    rfl
  | matchIn s r => rfl

end Engine

end ScenarioStubs
