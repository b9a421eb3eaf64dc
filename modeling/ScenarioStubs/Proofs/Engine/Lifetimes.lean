import ScenarioStubs.Proofs.Engine.Eviction
import ScenarioStubs.Proofs.Engine.Stamps

/-!
# Configured lifetimes

A lifetime is given as a span of time and kept in whole seconds, so a sweep drops a session as soon as it has been idle
for longer than the whole seconds of the span (`mem_lost_of_unmarked`, `mem_lost_of_marked`). Some engine holds a
session that was seen at the start of its clock (`idleRun`, `mintedRun`), and where the span has a fraction of a second
a sweep at the end of the span drops it (`not_idleLimitKept`, `not_mintedLimitKept`). Sessions live as long as
configured exactly if there is no such fraction: `lifetimes_kept_iff`.
-/

namespace ScenarioStubs

namespace Duration

variable {d : Duration}

theorem nanos_ofSeconds_wholeSeconds_le (d : Duration) : (ofSeconds d.wholeSeconds).nanos ≤ d.nanos :=
  Nat.div_mul_le_self d.nanos 1000000000

/-- A span has no fraction of a second if it is no longer than its whole seconds. -/
theorem ofSeconds_wholeSeconds_eq_iff : ofSeconds d.wholeSeconds = d ↔ d.nanos ≤ (ofSeconds d.wholeSeconds).nanos := by
  constructor
  · exact fun h => Nat.le_of_eq (congrArg nanos h).symm
  · intro h
    have hnanos : (ofSeconds d.wholeSeconds).nanos = d.nanos :=
      Nat.le_antisymm (nanos_ofSeconds_wholeSeconds_le d) h
    exact congrArg Duration.mk hnanos

end Duration

namespace EngineConfig

variable {d : Duration}

/-- A number of seconds that fits in the settings is read back as it is. -/
theorem toNat_wholeSeconds (hrange : d.wholeSeconds < UInt64.size) : d.wholeSeconds.toUInt64.toNat = d.wholeSeconds :=
  (UInt64.toNat_ofNat').trans (Nat.mod_eq_of_lt hrange)

theorem idleLimit_withIdleLimit (c : EngineConfig) (hrange : d.wholeSeconds < UInt64.size) :
    (c.withIdleLimit d).sessions.idleLimit = some (.ofSeconds d.wholeSeconds) :=
  congrArg (fun n => some (Duration.ofSeconds n)) (toNat_wholeSeconds hrange)

theorem mintedLimit_withMintedLimit (c : EngineConfig) (hrange : d.wholeSeconds < UInt64.size) :
    (c.withMintedLimit d).sessions.mintedLimit = .ofSeconds d.wholeSeconds :=
  congrArg Duration.ofSeconds (toNat_wholeSeconds hrange)

end EngineConfig

namespace Engine

variable {e : Engine} {c : EngineConfig} {d limit : Duration} {now : Instant} {s : SessionId} {entry : SessionEntry}

theorem mem_lost_evictExpired (hentry : e.store.sessions[s]? = some entry) :
    s ∈ e.store.lost (e.evictExpired now).2.store ↔ e.config.sessions.expires now s entry = true := by
  rw [Store.mem_lost, sessions_evictExpired, hentry, Option.filter_some]
  cases e.config.sessions.expires now s entry <;> simp

/-- An unmarked session is dropped if it is not the shared one and was idle for longer than sessions may be. -/
theorem mem_lost_of_unmarked (hlimit : e.config.sessions.idleLimit = some limit)
    (hentry : e.store.sessions[s]? = some entry) (hmark : entry.minted = false) :
    s ∈ e.store.lost (e.evictExpired now).2.store ↔
      s ≠ .global ∧ limit.nanos < (now.since entry.lastSeen).nanos := by
  rw [mem_lost_evictExpired hentry, SessionSettings.expires_iff, hmark, hlimit]
  simp

/-- Where there is no lifetime for all sessions, a marked one is dropped if it was idle for longer than marked sessions
may be. -/
theorem mem_lost_of_marked (hlimit : e.config.sessions.idleLimit = none)
    (hentry : e.store.sessions[s]? = some entry) (hmark : entry.minted = true) :
    s ∈ e.store.lost (e.evictExpired now).2.store ↔
      e.config.sessions.mintedLimit.nanos < (now.since entry.lastSeen).nanos := by
  rw [mem_lost_evictExpired hentry, SessionSettings.expires_iff, hmark, hlimit]
  simp

/-! ## What a lifetime promises -/

/-- Whatever happens to an engine with a lifetime for sessions, no sweep drops an unmarked session that has been idle
for no longer. -/
def IdleLimitKept (d : Duration) : Prop :=
  ∀ (c : EngineConfig) (calls : List Call) (now : Instant) (s : SessionId) (entry : SessionEntry),
    let e := (new (c.withIdleLimit d)).after calls
    e.store.sessions[s]? = some entry → entry.minted = false → (now.since entry.lastSeen).nanos ≤ d.nanos →
      s ∉ e.store.lost (e.evictExpired now).2.store

/-- Whatever happens to an engine with a lifetime for minted sessions only, no sweep drops a marked session that has
been idle for no longer. -/
def MintedLimitKept (d : Duration) : Prop :=
  ∀ (c : EngineConfig) (calls : List Call) (now : Instant) (s : SessionId) (entry : SessionEntry),
    let e := (new (c.withMintedLimit d)).after calls
    c.sessions.idleSeconds = none → e.store.sessions[s]? = some entry → entry.minted = true →
      (now.since entry.lastSeen).nanos ≤ d.nanos → s ∉ e.store.lost (e.evictExpired now).2.store

theorem idleLimitKept_of_whole (hrange : d.wholeSeconds < UInt64.size) (hwhole : .ofSeconds d.wholeSeconds = d) :
    IdleLimitKept d := by
  intro c calls now s entry e hentry hmark hidle hlost
  have hlimit : e.config.sessions.idleLimit = some d := by
    rw [after_config]
    exact (EngineConfig.idleLimit_withIdleLimit c hrange).trans (congrArg some hwhole)
  obtain ⟨-, hover⟩ := (mem_lost_of_unmarked hlimit hentry hmark).mp hlost
  omega

theorem mintedLimitKept_of_whole (hrange : d.wholeSeconds < UInt64.size) (hwhole : .ofSeconds d.wholeSeconds = d) :
    MintedLimitKept d := by
  intro c calls now s entry e hnone hentry hmark hidle hlost
  have hidleLimit : e.config.sessions.idleLimit = none := by
    rw [after_config]
    exact congrArg (Option.map _) hnone
  have hover := (mem_lost_of_marked hidleLimit hentry hmark).mp hlost
  rw [after_config, new, EngineConfig.mintedLimit_withMintedLimit c hrange, hwhole] at hover
  omega

/-! ## Sessions that are dropped early -/

/-- A mapping with a scenario that admits every request. -/
def scenarioMapping : StubMapping := ⟨⟨1⟩, 5, .always, some ⟨"S", none, none⟩, .ofStatus 200⟩

/-- The session `a` is seen at the start of the clock. -/
def idleRun : List Call := [⟨⟨0⟩, .register scenarioMapping⟩, ⟨⟨0⟩, .setScenarioState ⟨"a", by decide⟩ "S" "Seen"⟩]

/-- The session `a` is minted at the start of the clock. -/
def mintedRun : List Call := [⟨⟨0⟩, .register scenarioMapping⟩, ⟨⟨0⟩, .serve ⟨"a", by decide⟩ (.new "GET" "/")⟩]

theorem stamp_idleRun (c : EngineConfig) :
    ((new c).after idleRun).store.stamp ⟨"a", by decide⟩ = some (⟨0⟩, false) := rfl

theorem stamp_mintedRun (d : Duration) :
    ((new (EngineConfig.withMintedLimit {} d)).after mintedRun).store.stamp ⟨"a", by decide⟩ = some (⟨0⟩, true) := by
  let e := (new (EngineConfig.withMintedLimit {} d)).register scenarioMapping
  let a : SessionId := ⟨"a", by decide⟩
  have hminted : (Operation.serve a (.new "GET" "/")).minted? e.config = some a := rfl
  have htouched : e.touched (.new "GET" "/") ≠ [] := List.cons_ne_nil "S" []
  have hfirst : ¬((e.matchIn ⟨0⟩ a (.new "GET" "/")).2.stats.minted + 1) % sweepEvery = 0 :=
    (by decide : ¬(0 + 1) % sweepEvery = 0)
  show (e.serve ⟨0⟩ a (.new "GET" "/")).2.store.stamp a = _
  rw [serve_of_minted hminted, recordMinted, if_neg hfirst, Store.stamp_markMinted, if_pos ⟨rfl, rfl⟩, matchIn_store,
    stamp_storeAfter, if_pos ⟨rfl, htouched⟩]
  rfl

/-- At the end of a span with a fraction of a second a sweep drops a session that was seen at its beginning. -/
theorem not_idleLimitKept (hrange : d.wholeSeconds < UInt64.size)
    (hfraction : (Duration.ofSeconds d.wholeSeconds).nanos < d.nanos) : ¬IdleLimitKept d := by
  intro hkept
  obtain ⟨entry, hentry, hstamp⟩ := Option.map_eq_some_iff.mp (stamp_idleRun (EngineConfig.withIdleLimit {} d))
  obtain ⟨hseen, hmark⟩ := Prod.mk.inj hstamp
  have hidle : (Instant.since ⟨d.nanos⟩ entry.lastSeen).nanos = d.nanos := by
    rw [hseen]
    rfl
  have hlimit : ((new (EngineConfig.withIdleLimit {} d)).after idleRun).config.sessions.idleLimit =
      some (.ofSeconds d.wholeSeconds) := by
    rw [after_config]
    exact EngineConfig.idleLimit_withIdleLimit {} hrange
  refine hkept {} idleRun ⟨d.nanos⟩ _ entry hentry hmark (Nat.le_of_eq hidle) ?_
  exact (mem_lost_of_unmarked hlimit hentry hmark).mpr ⟨by decide, hidle.symm ▸ hfraction⟩

theorem not_mintedLimitKept (hrange : d.wholeSeconds < UInt64.size)
    (hfraction : (Duration.ofSeconds d.wholeSeconds).nanos < d.nanos) : ¬MintedLimitKept d := by
  intro hkept
  obtain ⟨entry, hentry, hstamp⟩ := Option.map_eq_some_iff.mp (stamp_mintedRun d)
  obtain ⟨hseen, hmark⟩ := Prod.mk.inj hstamp
  have hidle : (Instant.since ⟨d.nanos⟩ entry.lastSeen).nanos = d.nanos := by
    rw [hseen]
    rfl
  have hconfig := after_config (new (EngineConfig.withMintedLimit {} d)) mintedRun
  refine hkept {} mintedRun ⟨d.nanos⟩ _ entry rfl hentry hmark (Nat.le_of_eq hidle) ?_
  refine (mem_lost_of_marked (by rw [hconfig]; rfl) hentry hmark).mpr ?_
  rw [hidle, hconfig, new, EngineConfig.mintedLimit_withMintedLimit {} hrange]
  exact hfraction

/-- **Lifetimes are kept in whole seconds.** Take a span of time that the settings can hold as the lifetime of sessions,
or of minted sessions where there is no other. A sweep drops an unmarked session other than the shared one, or a marked
one, exactly if it was idle for longer than the whole seconds of the span. So whatever is done to an engine, no session
is dropped that was idle for no longer than the span, exactly if the span has no fraction of a second. -/
theorem lifetimes_kept_iff (d : Duration) (hrange : d.wholeSeconds < UInt64.size) :
    (∀ (c : EngineConfig) (e : Engine) (now : Instant) (s : SessionId) (entry : SessionEntry),
      e.config = c.withIdleLimit d → e.store.sessions[s]? = some entry → entry.minted = false →
        (s ∈ e.store.lost (e.evictExpired now).2.store ↔
          s ≠ .global ∧ (Duration.ofSeconds d.wholeSeconds).nanos < (now.since entry.lastSeen).nanos)) ∧
      (∀ (c : EngineConfig) (e : Engine) (now : Instant) (s : SessionId) (entry : SessionEntry),
        e.config = c.withMintedLimit d → c.sessions.idleSeconds = none → e.store.sessions[s]? = some entry →
          entry.minted = true → (s ∈ e.store.lost (e.evictExpired now).2.store ↔
            (Duration.ofSeconds d.wholeSeconds).nanos < (now.since entry.lastSeen).nanos)) ∧
      (IdleLimitKept d ↔ .ofSeconds d.wholeSeconds = d) ∧ (MintedLimitKept d ↔ .ofSeconds d.wholeSeconds = d) := by
  have hwhole : .ofSeconds d.wholeSeconds = d ↔ ¬(Duration.ofSeconds d.wholeSeconds).nanos < d.nanos := by
    rw [Duration.ofSeconds_wholeSeconds_eq_iff, Nat.not_lt]
  refine ⟨?_, ?_, ?_, ?_⟩
  · intro c e now s entry hconfig hentry hmark
    exact mem_lost_of_unmarked (hconfig ▸ EngineConfig.idleLimit_withIdleLimit c hrange) hentry hmark
  · intro c e now s entry hconfig hnone hentry hmark
    have hidleLimit : e.config.sessions.idleLimit = none := by
      rw [hconfig]
      exact congrArg (Option.map _) hnone
    rw [mem_lost_of_marked hidleLimit hentry hmark, hconfig, EngineConfig.mintedLimit_withMintedLimit c hrange]
  · exact ⟨fun hkept => hwhole.mpr fun hfraction => not_idleLimitKept hrange hfraction hkept,
      idleLimitKept_of_whole hrange⟩
  · exact ⟨fun hkept => hwhole.mpr fun hfraction => not_mintedLimitKept hrange hfraction hkept,
      mintedLimitKept_of_whole hrange⟩

/-- Two seconds are kept, half a second is not. -/
theorem lifetimes_kept_iff_of_two_seconds :
    IdleLimitKept ⟨2000000000⟩ ∧ MintedLimitKept ⟨2000000000⟩ ∧ ¬IdleLimitKept ⟨500000000⟩ := by
  obtain ⟨-, -, hidle, hminted⟩ := lifetimes_kept_iff ⟨2000000000⟩ (by decide)
  obtain ⟨-, -, hhalf, -⟩ := lifetimes_kept_iff ⟨500000000⟩ (by decide)
  exact ⟨hidle.mpr rfl, hminted.mpr rfl, fun hkept => absurd (hhalf.mp hkept) (by decide)⟩

/-- With lifetimes of a second and a half, a session is gone after 1.2 seconds, and so is a minted one. -/
theorem dropped_before_one_and_a_half_seconds :
    let a : SessionId := ⟨"a", by decide⟩
    let d : Duration := ⟨1500000000⟩
    let e := (new (EngineConfig.withIdleLimit {} d)).after idleRun
    let e' := (new (EngineConfig.withMintedLimit {} d)).after mintedRun
    (e.store.stamp a = some (⟨0⟩, false) ∧ e.store.lost (e.evictExpired ⟨1200000000⟩).2.store = [a]) ∧
      (e'.store.stamp a = some (⟨0⟩, true) ∧ e'.store.lost (e'.evictExpired ⟨1200000000⟩).2.store = [a]) := by
  decide +kernel

end Engine

end ScenarioStubs
