import ScenarioStubs.Proofs.Store.Basic

/-!
# Marks of stored sessions

- A store keeps a session of another if it has dropped it, left it alone, or touched it now without changing its mark
  (`Store.Keeps`). Touching, writing and dropping keep every session.
- Marking marks the session, adopting takes its mark off (`isMinted_markMinted`, `isMinted_adopt`); neither touches a
  session (`lastSeen_markMinted`, `lastSeen_adopt`).
-/

namespace ScenarioStubs

namespace Store

variable {st st' : Store} {s t : SessionId} {now : Instant}

/-- The session is dropped, or left alone, or touched now with the mark it has. -/
def Keeps (now : Instant) (st st' : Store) (t : SessionId) : Prop :=
  st'.stamp t = none ∨ st'.stamp t = st.stamp t ∨ st'.stamp t = some (now, st.isMinted t)

theorem isMinted_of_none (h : st.sessions[t]? = none) : st.isMinted t = false := by
  unfold isMinted
  rw [h]
  rfl

theorem isSome_of_isMinted (h : st.isMinted t = true) : st.sessions[t]?.isSome = true := by
  refine Option.isSome_iff_ne_none.mpr fun hnone => ?_
  rw [isMinted_of_none hnone] at h
  cases h

theorem stamp_eq_none_iff : st.stamp t = none ↔ st.sessions[t]? = none := Option.map_eq_none_iff

theorem stamp_of_sessions {entry : SessionEntry} (h : st.sessions[t]? = some entry) :
    st.stamp t = some (entry.lastSeen, entry.minted) := congrArg (Option.map _) h

theorem stamp_congr (h : st'.sessions[t]? = st.sessions[t]?) : st'.stamp t = st.stamp t := congrArg (Option.map _) h

/-- Where entries were dropped or kept, the stamp of a session is gone or the same. -/
theorem stamp_of_filter {p : SessionEntry → Bool} (h : st'.sessions[t]? = st.sessions[t]?.filter p) :
    st'.stamp t = none ∨ st'.stamp t = st.stamp t :=
  (sessions_of_filter t h).imp stamp_eq_none_iff.mpr stamp_congr

theorem isMinted_congr (h : st'.stamp t = st.stamp t) : st'.isMinted t = st.isMinted t := by
  rw [isMinted_eq, isMinted_eq, h]

namespace Keeps

theorem of_eq (h : st'.sessions[t]? = st.sessions[t]?) : Keeps now st st' t := .inr (.inl (stamp_congr h))

theorem of_none (h : st'.sessions[t]? = none) : Keeps now st st' t := .inl (stamp_eq_none_iff.mpr h)

theorem of_filter {p : SessionEntry → Bool} (h : st'.sessions[t]? = st.sessions[t]?.filter p) :
    Keeps now st st' t :=
  (stamp_of_filter h).imp_right .inl

theorem touch (names : List String) : Keeps now st (st.touch now s names) t := by
  have hstamp := stamp_touch st s t now names
  split at hstamp
  case isTrue h => exact .inr (.inr (by rw [hstamp, h.1]))
  case isFalse => exact .inr (.inl hstamp)

theorem setState (name state : String) : Keeps now st (st.setState now s name state) t := by
  have htouch : Keeps now st (st.touch now s [name]) t := touch [name]
  unfold Keeps Store.setState at *
  rwa [stamp_write]

/-- A kept session that is still stored has the mark that it had. -/
theorem isMinted_iff (h : Keeps now st st' t) :
    st'.isMinted t = true ↔ st'.sessions[t]?.isSome = true ∧ st.isMinted t = true := by
  obtain hgone | hsame | hnow := h
  · have hnone := stamp_eq_none_iff.mp hgone
    simp [isMinted_of_none hnone, hnone]
  · rw [isMinted_congr hsame]
    refine ⟨fun hminted => ⟨isSome_of_isMinted ?_, hminted⟩, And.right⟩
    rw [isMinted_congr hsame, hminted]
  · have hmark : st'.isMinted t = st.isMinted t := by rw [isMinted_eq, hnow, Option.any_some]
    refine ⟨fun hminted => ⟨isSome_of_isMinted hminted, hmark ▸ hminted⟩, fun h => hmark.trans h.2⟩

/-- A session that is still stored was last seen now, or when it was before. -/
theorem lastSeen (h : Keeps now st st' t) {seen : Instant} {mark : Bool} (hstamp : st'.stamp t = some (seen, mark)) :
    seen = now ∨ ∃ mark, st.stamp t = some (seen, mark) := by
  obtain hgone | hsame | hnow := h
  · cases hgone.symm.trans hstamp
  · exact .inr ⟨mark, hsame.symm.trans hstamp⟩
  · exact .inl (congrArg Prod.fst (Option.some.inj (hnow.symm.trans hstamp))).symm

end Keeps

/-! ## Adopting and marking -/

/-- A change of an entry that leaves its last touch alone touches no session. -/
theorem lastSeen_modify {f : SessionEntry → SessionEntry} (hf : ∀ entry, (f entry).lastSeen = entry.lastSeen)
    {seen : Instant} {mark : Bool} (h : (st.modify s f).stamp t = some (seen, mark)) :
    ∃ mark, st.stamp t = some (seen, mark) := by
  obtain ⟨entry, hentry, heq⟩ := Option.map_eq_some_iff.mp h
  have hseen : entry.lastSeen = seen := congrArg Prod.fst heq
  rw [sessions_modify] at hentry
  split at hentry
  case isTrue ht =>
    obtain ⟨old, hold, rfl⟩ := Option.map_eq_some_iff.mp hentry
    rw [← ht] at hold
    exact ⟨old.minted, by rw [stamp_of_sessions hold, ← hseen, hf]⟩
  case isFalse => exact ⟨entry.minted, by rw [stamp_of_sessions hentry, hseen]⟩

theorem lastSeen_markMinted {seen : Instant} {mark : Bool} (h : (st.markMinted s).stamp t = some (seen, mark)) :
    ∃ mark, st.stamp t = some (seen, mark) := by
  unfold markMinted at h
  split at h
  · exact ⟨mark, h⟩
  · refine lastSeen_modify (fun _ => ?_) h
    rfl

theorem lastSeen_adopt {seen : Instant} {mark : Bool} (h : (st.adopt s).stamp t = some (seen, mark)) :
    ∃ mark, st.stamp t = some (seen, mark) := by
  refine lastSeen_modify (fun _ => ?_) h
  rfl

theorem isSome_modify (f : SessionEntry → SessionEntry) :
    (st.modify s f).sessions[t]?.isSome = st.sessions[t]?.isSome := by
  rw [sessions_modify]
  split
  case isTrue ht => rw [Option.isSome_map, ht]
  case isFalse => rfl

theorem isSome_markMinted : (st.markMinted s).sessions[t]?.isSome = st.sessions[t]?.isSome := by
  unfold markMinted
  split
  · rfl
  · exact isSome_modify _

/-- A session is marked after an adoption if it was before and is not the one that is adopted. -/
theorem isMinted_adopt : (st.adopt s).isMinted t = true ↔ t ≠ s ∧ st.isMinted t = true := by
  rw [isMinted_eq, isMinted_eq, stamp_adopt]
  by_cases ht : t = s
  · cases st.stamp s <;> simp [ht]
  · simp [ht]

theorem minted_of_not_isMinted {entry : SessionEntry} (h : st.isMinted t = false)
    (hentry : st.sessions[t]? = some entry) : entry.minted = false := by
  unfold isMinted at h
  rwa [hentry] at h

/-- Adopting a session that is not marked changes nothing. -/
theorem adopt_of_not_isMinted (h : st.isMinted s = false) : st.adopt s = st := by
  refine eq_of_sessions_eq fun t => ?_
  rw [sessions_adopt]
  by_cases ht : t = s
  · subst ht
    rw [if_pos rfl]
    cases hentry : st.sessions[t]? with
    | none => rfl
    | some entry =>
      have hunmarked := minted_of_not_isMinted h hentry
      obtain ⟨scenarios, lastSeen, minted⟩ := entry
      cases hunmarked
      rfl
  · rw [if_neg ht]

/-- Marking a session marks it if it is stored and not the shared one. -/
theorem isMinted_markMinted : (st.markMinted s).isMinted t = true ↔
    st.isMinted t = true ∨ t = s ∧ s ≠ .global ∧ st.sessions[t]?.isSome = true := by
  have hglobal : s.isGlobal = false ↔ s ≠ .global := by
    rw [ne_eq, ← SessionId.isGlobal_iff, Bool.not_eq_true]
  rw [isMinted_eq, isMinted_eq, stamp_markMinted, ← hglobal]
  unfold stamp
  by_cases ht : t = s ∧ s.isGlobal = false
  · cases h : st.sessions[s]? <;> simp [ht, h]
  · rw [if_neg ht]
    simp only [← and_assoc, ht, false_and, or_false]

end Store

end ScenarioStubs
