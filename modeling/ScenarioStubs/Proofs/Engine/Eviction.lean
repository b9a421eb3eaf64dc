import ScenarioStubs.Proofs.Engine.Expiry

/-!
# What a sweep drops

Dropping entries gives the number of sessions that are lost by it (`Store.evictWhere_fst`), and doing it again drops
nothing (`Store.evictWhere_again`). A sweep goes over the store twice, for minted sessions and for idle ones; it comes
to the same as dropping once whatever has expired (`evictExpired_eq`), so no session is counted twice. Together:
`evictExpired_exact`.
-/

namespace ScenarioStubs

namespace Store

variable (st : Store) (expired : SessionId → SessionEntry → Bool)

/-- The sessions of a store that another store does not hold, ascending. -/
def lost (st st' : Store) : List SessionId := st.sessions.keys.filter fun s => !st'.sessions.contains s

theorem mem_lost {st' : Store} {s : SessionId} :
    s ∈ st.lost st' ↔ (∃ entry, st.sessions[s]? = some entry) ∧ st'.sessions[s]? = none := by
  unfold lost
  rw [List.mem_filter, Std.ExtTreeMap.mem_keys, Std.ExtTreeMap.mem_iff_isSome_getElem?, Option.isSome_iff_exists,
    Std.ExtTreeMap.contains_eq_isSome_getElem?, Bool.not_eq_true', Option.isSome_eq_false_iff,
    Option.isNone_iff_eq_none]

/-- The number that dropping entries gives is the number of sessions that are lost by it. -/
theorem evictWhere_fst : (st.evictWhere expired).1 = (st.lost (st.evictWhere expired).2).length := by
  have hlost : st.lost (st.evictWhere expired).2 =
      (st.sessions.toList.filter fun p => expired p.1 p.2).map Prod.fst := by
    unfold lost
    rw [← Std.ExtTreeMap.map_fst_toList_eq_keys, List.filter_map]
    refine congrArg (List.map Prod.fst) (List.filter_congr fun p hp => ?_)
    have hentry : st.sessions[p.1]? = some p.2 := Std.ExtTreeMap.mem_toList_iff_getElem?_eq_some.mp hp
    rw [Function.comp_apply, Std.ExtTreeMap.contains_eq_isSome_getElem?, sessions_evictWhere, hentry,
      Option.filter_some]
    cases expired p.1 p.2 <;> rfl
  rw [hlost, List.length_map, ← Std.ExtTreeMap.toList_filter, Std.ExtTreeMap.length_toList]
  rfl

/-- Every session is either dropped or kept. -/
theorem evictWhere_fst_add_size :
    (st.evictWhere expired).1 + (st.evictWhere expired).2.sessions.size = st.sessions.size := by
  show (st.sessions.filter expired).size + (st.sessions.filter fun s e => !expired s e).size = st.sessions.size
  simp only [← Std.ExtTreeMap.length_toList, Std.ExtTreeMap.toList_filter, ← List.countP_eq_length_filter]
  rw [List.length_eq_countP_add_countP fun p : SessionId × SessionEntry => expired p.1 p.2]
  simp only [Bool.not_eq_true, Bool.decide_eq_false]

/-- Where no entry is to be dropped, the store stays as it is. -/
theorem evictWhere_of_forall_not (h : ∀ s entry, st.sessions[s]? = some entry → expired s entry = false) :
    st.evictWhere expired = (0, st) := by
  have hstore : (st.evictWhere expired).2 = st := by
    refine eq_of_sessions_eq fun t => ?_
    rw [sessions_evictWhere]
    cases hentry : st.sessions[t]? with
    | none => rfl
    | some entry => rw [Option.filter_some, h t entry hentry, Bool.not_false, if_pos rfl]
  have hsize := evictWhere_fst_add_size st expired
  rw [hstore] at hsize
  refine Prod.ext ?_ hstore
  show (st.evictWhere expired).1 = 0
  omega

/-- Nothing is left to be dropped a second time. -/
theorem evictWhere_again :
    (st.evictWhere expired).2.evictWhere expired = (0, (st.evictWhere expired).2) := by
  refine evictWhere_of_forall_not _ expired fun s entry hentry => ?_
  rw [sessions_evictWhere, Option.filter_eq_some_iff] at hentry
  exact (Bool.not_eq_true' _).mp hentry.2

end Store

/-! ## Sweeps -/

namespace SessionSettings

variable {c : SessionSettings} {now : Instant} {s : SessionId} {entry : SessionEntry}

/-- When a session has expired: idle for longer than the lifetime that applies to it. -/
theorem expires_iff : c.expires now s entry = true ↔
    (entry.minted = true ∧ c.mintedLimit.nanos < (now.since entry.lastSeen).nanos) ∨
      (s ≠ .global ∧ ∃ limit, c.idleLimit = some limit ∧ limit.nanos < (now.since entry.lastSeen).nanos) := by
  unfold expires SessionEntry.idlePast
  rw [Bool.or_eq_true, Bool.and_eq_true, Bool.and_eq_true, decide_eq_true_iff, Bool.not_eq_true',
    Option.any_eq_true, ← Bool.not_eq_true, SessionId.isGlobal_iff]
  simp only [decide_eq_true_iff, ne_eq]

end SessionSettings

namespace Engine

variable (e : Engine) (now : Instant)

/-- Both passes of a sweep count the sessions that they drop themselves. -/
theorem evictExpired_fst_add_size :
    (e.evictExpired now).1 + (e.evictExpired now).2.store.sessions.size = e.store.sessions.size := by
  have hminted : (e.store.evictMinted now e.config.sessions.mintedLimit).1 +
      (e.store.evictMinted now e.config.sessions.mintedLimit).2.sessions.size = e.store.sessions.size :=
    Store.evictWhere_fst_add_size e.store _
  unfold evictExpired
  cases e.config.sessions.idleLimit with
  | none => exact hminted
  | some limit =>
    have hidle := Store.evictWhere_fst_add_size (e.store.evictMinted now e.config.sessions.mintedLimit).2
      fun s entry => !s.isGlobal && entry.idlePast now limit
    dsimp only [Store.evictIdle]
    omega

/-- A sweep drops at once whatever has expired. -/
theorem evictExpired_eq : e.evictExpired now =
    ((e.store.evictWhere (e.config.sessions.expires now)).1,
      { e with store := (e.store.evictWhere (e.config.sessions.expires now)).2 }) := by
  have hstore : (e.evictExpired now).2.store = (e.store.evictWhere (e.config.sessions.expires now)).2 :=
    Store.eq_of_sessions_eq fun t => by rw [sessions_evictExpired, Store.sessions_evictWhere]
  have hcount := Store.evictWhere_fst_add_size e.store (e.config.sessions.expires now)
  rw [← hstore] at hcount
  refine Prod.ext ?_ ?_
  · exact Nat.add_right_cancel ((evictExpired_fst_add_size e now).trans hcount.symm)
  · rw [evictExpired_snd, hstore]

theorem evictExpired_again :
    (e.evictExpired now).2.evictExpired now = (0, (e.evictExpired now).2) := by
  rw [evictExpired_eq e, evictExpired_eq]
  dsimp only
  rw [Store.evictWhere_again]

/-- **A sweep is exact.** A stored session is dropped exactly if it is marked as minted and idle for longer than the
lifetime of minted sessions, or is not the shared one and idle for longer than the general lifetime, if there is one.
The number given is that of the sessions dropped, the entry of every other session stays as it is, and a second sweep
at the same reading of the clock drops nothing and changes nothing. -/
theorem evictExpired_exact :
    (∀ s, s ∈ e.store.lost (e.evictExpired now).2.store ↔ ∃ entry, e.store.sessions[s]? = some entry ∧
        ((entry.minted = true ∧ e.config.sessions.mintedLimit.nanos < (now.since entry.lastSeen).nanos) ∨
          (s ≠ .global ∧ ∃ limit, e.config.sessions.idleLimit = some limit ∧
            limit.nanos < (now.since entry.lastSeen).nanos))) ∧
      (e.evictExpired now).1 = (e.store.lost (e.evictExpired now).2.store).length ∧
      (∀ s, s ∉ e.store.lost (e.evictExpired now).2.store →
        (e.evictExpired now).2.store.sessions[s]? = e.store.sessions[s]?) ∧
      (e.evictExpired now).2.evictExpired now = (0, (e.evictExpired now).2) := by
  refine ⟨fun s => ?_, ?_, fun s hs => ?_, evictExpired_again e now⟩
  · rw [Store.mem_lost, sessions_evictExpired]
    cases hentry : e.store.sessions[s]? with
    | none => simp
    | some entry => simp [Option.filter_some, ← SessionSettings.expires_iff]
  · rw [evictExpired_eq]
    exact Store.evictWhere_fst e.store _
  · rw [Store.mem_lost, sessions_evictExpired] at hs
    rw [sessions_evictExpired]
    cases hentry : e.store.sessions[s]? with
    | none => rfl
    | some entry =>
      cases hexpires : e.config.sessions.expires now s entry <;> simp_all

end Engine

end ScenarioStubs
