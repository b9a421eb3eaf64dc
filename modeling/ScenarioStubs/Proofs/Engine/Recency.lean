import ScenarioStubs.Proofs.Engine.Stamps

/-!
# Sessions that were seen lately

A session that is stored was last seen when an operation touched it, so in a run that starts at some reading of the
clock every entry made or touched in the run was seen since then (`Store.SeenSince`, `Engine.seenSince_step`). As long
as the clock is less than a second past that reading, no sweep between two mints drops such an entry
(`Engine.sessions_recordMinted_of_seenSince`).
-/

namespace ScenarioStubs

namespace Store

/-- If the session is stored, it was last seen at the given reading of the clock or later. -/
def SeenSince (st : Store) (t : SessionId) (start : Instant) : Prop :=
  ∀ entry, st.sessions[t]? = some entry → start.nanos ≤ entry.lastSeen.nanos

variable {st st' : Store} {t : SessionId} {start : Instant}

theorem SeenSince.congr (h : st.SeenSince t start) (hst : st'.sessions[t]? = st.sessions[t]?) :
    st'.SeenSince t start := fun entry he => h entry (hst ▸ he)

theorem seenSince_of_none (h : st.sessions[t]? = none) : st.SeenSince t start := fun entry he => by
  rw [h] at he
  cases he

end Store

namespace Engine

variable {e : Engine} {t : SessionId} {start now : Instant}

/-- What is true of the clock now and of the last touch of a session stays true of the last touch of the session. -/
theorem seen_perform {p : Instant → Prop} (hnow : p now)
    (h : ∀ entry, e.store.sessions[t]? = some entry → p entry.lastSeen) (op : Operation) :
    ∀ entry, (e.perform now op).2.store.sessions[t]? = some entry → p entry.lastSeen := fun entry he => by
  obtain hseen | ⟨mark, hold⟩ := lastSeen_perform op (Store.stamp_of_sessions he)
  · rw [hseen]
    exact hnow
  · obtain ⟨old, hold, heq⟩ := Option.map_eq_some_iff.mp hold
    have hseen : old.lastSeen = entry.lastSeen := congrArg Prod.fst heq
    exact hseen ▸ h old hold

/-- An operation touches entries no earlier than it is performed, and makes none look older. -/
theorem seenSince_perform (h : e.store.SeenSince t start) (hnow : start.nanos ≤ now.nanos) (op : Operation) :
    (e.perform now op).2.store.SeenSince t start :=
  seen_perform (p := fun seen => start.nanos ≤ seen.nanos) hnow h op

theorem seenSince_step {c : Call} (h : e.store.SeenSince t start) (hnow : start.nanos ≤ c.now.nanos) :
    (e.step c).store.SeenSince t start := seenSince_perform h hnow c.operation

/-- Less than a second after the start of a run, the sweep after a mint spares every session seen since the start. -/
theorem sessions_recordMinted_of_seenSince (hc : e.config.sessions.Lasting) (h : e.store.SeenSince t start)
    (hnow : now.nanos < start.nanos + 1000000000) (s : SessionId) :
    (e.recordMinted now s).store.sessions[t]? = (e.store.markMinted s).sessions[t]? := by
  rw [sessions_recordMinted]
  cases hentry : (e.store.markMinted s).sessions[t]? with
  | none => rfl
  | some entry =>
    have hseen : start.nanos ≤ entry.lastSeen.nanos := by
      obtain ⟨mark, hstamp⟩ := Store.lastSeen_markMinted (Store.stamp_of_sessions hentry)
      obtain ⟨old, hold, heq⟩ := Option.map_eq_some_iff.mp hstamp
      have hsame : old.lastSeen = entry.lastSeen := congrArg Prod.fst heq
      exact hsame ▸ h old hold
    have hrecent : now.next.nanos ≤ entry.lastSeen.nanos + 1000000000 := by
      show now.nanos + 1 ≤ _
      omega
    simp [Option.filter_some, SessionSettings.not_expires_of_recent hc hrecent]

end Engine

end ScenarioStubs
