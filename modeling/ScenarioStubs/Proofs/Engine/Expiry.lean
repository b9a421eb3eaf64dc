import ScenarioStubs.Engine.Admin
import ScenarioStubs.Proofs.Store.Basic

/-!
# Expired sessions

When the entry of a session has expired under given settings (`SessionSettings.expires`), and what the sweeps leave:
exactly the entries that have not (`sessions_evictExpired`, `sessions_recordMinted`). A session that was seen within a
second has not expired, since lifetimes are whole seconds and none is zero (`not_expires_of_recent`).
-/

namespace ScenarioStubs

/-- Whether a session has expired: it is marked as minted and idle for longer than minted sessions may be, or it is not
the shared session and idle for longer than sessions may be. -/
def SessionSettings.expires (c : SessionSettings) (now : Instant) (s : SessionId) (entry : SessionEntry) : Bool :=
  entry.minted && entry.idlePast now c.mintedLimit || !s.isGlobal && c.idleLimit.any (entry.idlePast now)

/-- No lifetime is zero. -/
structure SessionSettings.Lasting (c : SessionSettings) : Prop where
  minted : 0 < c.mintedSeconds
  idle : ∀ n, c.idleSeconds = some n → 0 < n

namespace SessionSettings

variable {c : SessionSettings} {now : Instant} {s : SessionId} {entry : SessionEntry}

theorem second_le_ofSeconds {n : UInt64} (h : 0 < n) : 1000000000 ≤ (Duration.ofSeconds n.toNat).nanos := by
  have hn : 0 < n.toNat := UInt64.lt_iff_toNat_lt.mp h
  simp only [Duration.ofSeconds]
  omega

theorem idlePast_of_recent {limit : Duration} (hl : 1000000000 ≤ limit.nanos)
    (h : now.nanos ≤ entry.lastSeen.nanos + 1000000000) : entry.idlePast now limit = false := by
  unfold SessionEntry.idlePast Instant.since
  rw [decide_eq_false_iff_not]
  simp only
  omega

/-- An entry that was seen within the last second has not expired. -/
theorem not_expires_of_recent (hc : c.Lasting) (h : now.nanos ≤ entry.lastSeen.nanos + 1000000000) :
    c.expires now s entry = false := by
  have hminted : entry.idlePast now c.mintedLimit = false := idlePast_of_recent (second_le_ofSeconds hc.minted) h
  have hidle : c.idleLimit.any (entry.idlePast now) = false := by
    unfold idleLimit
    cases hi : c.idleSeconds with
    | none => rfl
    | some n => rw [Option.map_some, Option.any_some, idlePast_of_recent (second_le_ofSeconds (hc.idle n hi)) h]
  simp [expires, hminted, hidle]

end SessionSettings

namespace Engine

variable (e : Engine) (now : Instant) (s t : SessionId)

/-- A sweep changes the store alone. -/
theorem evictExpired_snd : (e.evictExpired now).2 = { e with store := (e.evictExpired now).2.store } := by
  unfold evictExpired
  cases e.config.sessions.idleLimit <;> rfl

/-- Minting a session changes no setting and no mapping. -/
theorem recordMinted_config_registry :
    (e.recordMinted now s).config = e.config ∧ (e.recordMinted now s).registry = e.registry := by
  unfold recordMinted
  by_cases h : (e.stats.minted + 1) % sweepEvery = 0
  · simp only [h, if_true]
    rw [evictExpired_snd]
    exact ⟨rfl, rfl⟩
  · simp only [h, if_false, and_self]

/-- The sweep keeps exactly the entries that have not expired, as they are. -/
theorem sessions_evictExpired : (e.evictExpired now).2.store.sessions[t]? =
    e.store.sessions[t]?.filter fun entry => !e.config.sessions.expires now t entry := by
  unfold evictExpired SessionSettings.expires Store.evictMinted Store.evictIdle
  cases h : e.config.sessions.idleLimit with
  | none => simp [Store.sessions_evictWhere]
  | some limit => simp [Store.sessions_evictWhere, Option.filter_filter]

/-- The entries after a session was minted: its own is marked, and of all those that have expired are dropped if it is
time for a sweep. -/
theorem sessions_recordMinted : (e.recordMinted now s).store.sessions[t]? =
    ((e.store.markMinted s).sessions[t]?).filter fun entry =>
      !((e.stats.minted + 1) % sweepEvery = 0 && e.config.sessions.expires now.next t entry) := by
  unfold recordMinted
  by_cases h : (e.stats.minted + 1) % sweepEvery = 0
  · simp [h, sessions_evictExpired]
  · rw [if_neg h]
    cases (e.store.markMinted s).sessions[t]? with
    | none => rfl
    | some entry => simp [h, Option.filter_some]

end Engine

end ScenarioStubs
