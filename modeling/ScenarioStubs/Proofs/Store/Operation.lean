import ScenarioStubs.Proofs.Store.Holding
import ScenarioStubs.Proofs.Store.Marks

/-!
# Runs of a store

Everything that can be done to a store is a `Store.Operation`; a run is a list of operations, each with the reading of
the clock when it is performed (`Store.after`).

- An operation other than marking and adopting leaves the mark of every session that it keeps as it was
  (`keeps_perform`).
- A stored pair stays stored, unless the operation may drop its session (`isSome_peek_perform`).
-/

namespace ScenarioStubs

/-- Puts held scenarios into states, one after the other. -/
def Cells.setAll (c : Cells) (writes : List (String × String)) : Cells :=
  writes.foldl (fun c w => (c.set w.1 w.2).2) c

namespace Store

/-- What can be done to a store. -/
inductive Operation
  | getState (s : SessionId) (name : String)
  | setState (s : SessionId) (name state : String)
  | resetScenario (s : SessionId) (name : String)
  /-- Hold scenarios, put some of them into states, and let all of them go. -/
  | setHeld (s : SessionId) (names : List String) (writes : List (String × String))
  /-- Let go scenarios that were held some time ago. Pairs that were dropped and stored anew since then are no longer
  held and not among the cells. -/
  | release (c : Cells)
  | markMinted (s : SessionId)
  | adopt (s : SessionId)
  | resetSession (s : SessionId)
  | resetAll
  /-- Drop the sessions that have been idle for longer than a span at a given reading of the clock. -/
  | evictIdle (reading : Instant) (limit : Duration)
  /-- Drop the marked sessions that have been idle for longer than a span at a given reading of the clock. -/
  | evictMinted (reading : Instant) (limit : Duration)

/-- Whether the operation may drop a session. -/
def Operation.MayDrop (t : SessionId) : Operation → Prop
  | .resetSession s => s = t
  | .resetAll | .evictIdle .. | .evictMinted .. => True
  | _ => False

/-- The store after an operation. -/
def perform (st : Store) (now : Instant) : Operation → Store
  | .getState s name => (st.getState now s name).2
  | .setState s name state => st.setState now s name state
  | .resetScenario s name => st.resetScenario now s name
  | .setHeld s names writes => (st.hold now s names).2.release ((st.hold now s names).1.setAll writes)
  | .release c => st.release c
  | .markMinted s => st.markMinted s
  | .adopt s => st.adopt s
  | .resetSession s => st.resetSession s
  | .resetAll => st.resetAll
  | .evictIdle reading limit => (st.evictIdle reading limit).2
  | .evictMinted reading limit => (st.evictMinted reading limit).2

/-- The store after a run. -/
def after (st : Store) (calls : List (Instant × Operation)) : Store := calls.foldl (fun st c => st.perform c.1 c.2) st

variable {st : Store} {now : Instant} {op : Operation} {t : SessionId} {n : String}

/-- What every operation preserves holds after every run. -/
theorem after_preserves (inv : Store → Prop) (hstep : ∀ st now op, inv st → inv (st.perform now op)) (hst : inv st)
    (calls : List (Instant × Operation)) : inv (st.after calls) := by
  induction calls generalizing st with
  | nil => exact hst
  | cons c rest ih => exact ih (hstep st c.1 c.2 hst)

/-! ## Marks -/

theorem keeps_release (c : Cells) : Keeps now st (st.release c) t := .inr (.inl (stamp_release st t c))

/-- Only marking and adopting change the mark of a session that stays. -/
theorem keeps_perform (hmark : ∀ s, op ≠ .markMinted s) (hadopt : ∀ s, op ≠ .adopt s) :
    Keeps now st (st.perform now op) t := by
  cases op with
  | markMinted s => exact absurd rfl (hmark s)
  | adopt s => exact absurd rfl (hadopt s)
  | getState s name => exact .touch [name]
  | setState s name state => exact .setState name state
  | resetScenario s name => exact .setState name startState
  | setHeld s names writes =>
    have htouch : Keeps now st (st.touch now s names) t := .touch names
    unfold Keeps perform at *
    rwa [stamp_release, hold_snd]
  | release c => exact keeps_release c
  | resetSession s =>
    have hsessions := sessions_resetSession st s t
    split at hsessions
    · exact .of_none hsessions
    · exact .of_eq hsessions
  | resetAll => exact .of_none (sessions_resetAll st t)
  | evictIdle reading limit | evictMinted reading limit => exact .of_filter (sessions_evictWhere st t _)

/-! ## Pairs -/

theorem isSome_peek_touch (s : SessionId) (names : List String) (h : (st.peek t n).isSome = true) :
    ((st.touch now s names).peek t n).isSome = true := by
  rw [peek_touch]
  split
  · rfl
  · exact h

theorem isSome_peek_write (s : SessionId) (name state : String) (h : (st.peek t n).isSome = true) :
    ((st.write s name state).peek t n).isSome = true := by
  rw [peek_write]
  split
  case isTrue heq => rwa [Option.isSome_map, ← heq.1, ← heq.2]
  case isFalse => exact h

theorem isSome_peek_release (c : Cells) (h : (st.peek t n).isSome = true) :
    ((st.release c).peek t n).isSome = true := by
  rw [peek_release]
  split
  · rwa [Option.isSome_map]
  · exact h

/-- A stored pair stays stored, unless the operation may drop its session. -/
theorem isSome_peek_perform (h : (st.peek t n).isSome = true) (hdrop : ¬op.MayDrop t) :
    ((st.perform now op).peek t n).isSome = true := by
  cases op with
  | getState s name => exact isSome_peek_touch s [name] h
  | setState s name state => exact isSome_peek_write s name state (isSome_peek_touch s [name] h)
  | resetScenario s name => exact isSome_peek_write s name startState (isSome_peek_touch s [name] h)
  | setHeld s names writes => exact isSome_peek_release _ (isSome_peek_touch s names h)
  | release c => exact isSome_peek_release c h
  | markMinted s => rwa [perform, peek_markMinted]
  | adopt s => rwa [perform, peek_adopt]
  | resetSession s =>
    have hkept := (sessions_resetSession st s t).trans (if_neg fun heq => hdrop heq.symm)
    rwa [perform, peek_congr t hkept n]
  | resetAll | evictIdle | evictMinted => exact absurd trivial hdrop

end Store

end ScenarioStubs
