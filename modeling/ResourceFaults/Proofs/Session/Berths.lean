import Mathlib
import ResourceFaults.Proofs.Engine.Runs
import ResourceFaults.Proofs.Session.Deeds
import ResourceFaults.Proofs.Session.Idle

/-!
# One worker through a session

A worker that has been launched waits until it enters, and then keeps its place among
the workers that have entered.  While it waits, its place changes whenever a worker
before it enters.  A `Berth` is a place of either kind, and `Session.track` follows one
worker from berth to berth through a course of a session.

`Session.play_at` is the induction over such a course: what holds of a worker, and is
kept by its own steps, holds of it wherever the course leads.
-/

namespace ResourceFaults

variable {ε σ : Type}

/-- Where a worker of an engine is found: among those that wait to enter, or among those
that have entered. -/
inductive Berth where
  | waiting (i : Nat)
  | entered (i : Nat)
  deriving DecidableEq, Repr

namespace Engine

/-- The worker of a berth. -/
def at? (e : Engine ε σ) : Berth → Option (Worker σ)
  | .waiting i => e.launching[i]?
  | .entered i => e.workers[i]?

/-- Where the worker of a berth is found after a tick. -/
def moved (e : Engine ε σ) : Berth → Tick → Berth
  | .waiting i, .launch j =>
    if j = i then .entered e.workers.length else if j < i then .waiting (i - 1) else .waiting i
  | b, _ => b

variable {a : Allocator ε σ} {e e' : Engine ε σ} {b : Berth} {w : Worker σ}

/-- A request launches workers behind those that wait. -/
theorem at?_execute (r : Request) (h : e.at? b = some w) : (e.execute r).1.at? b = some w := by
  cases b with
  | entered i => rwa [at?, execute_workers]
  | waiting i =>
    have hlt : i < e.launching.length := (List.getElem?_eq_some_iff.1 h).1
    cases r with
    | stop | unrecognized command => exact h
    | cpu o | mem o => exact (List.getElem?_append_left hlt).trans h

/-- An entry changes the places of workers, and no worker. -/
theorem at?_launch {j : Nat} (hlaunch : e.launch? j = some e') (h : e.at? b = some w) :
    e'.at? (e.moved b (.launch j)) = some w := by
  obtain ⟨w₁, hw₁, rfl⟩ := launch?_eq_some_iff.1 hlaunch
  cases b with
  | entered i =>
    have hlt : i < e.workers.length := (List.getElem?_eq_some_iff.1 h).1
    exact (List.getElem?_append_left hlt).trans h
  | waiting i =>
    rw [at?] at h
    rw [moved]
    split
    case isTrue heq =>
      subst heq
      rw [at?, List.getElem?_concat_length, ← h, hw₁]
    case isFalse hne =>
      split
      case isTrue hlt =>
        have hlater : ¬i - 1 < j := by omega
        have hnext : i - 1 + 1 = i := by omega
        rw [at?, List.getElem?_eraseIdx, if_neg hlater, hnext, h]
      case isFalse hle =>
        have hearlier : i < j := by omega
        rw [at?, List.getElem?_eraseIdx, if_pos hearlier, h]

/-- After a tick the worker of a berth is as it was, or has made one step. -/
theorem at?_tick {t : Tick} (htick : e.tick a t = some e') (h : e.at? b = some w) :
    e'.at? (e.moved b t) = some w ∨
      ∃ s w', w.Moves a e.scene s w' ∧ e'.at? (e.moved b t) = some w' := by
  cases t with
  | launch j => exact .inl (at?_launch htick h)
  | pass time =>
    cases htick
    exact .inl (by cases b <;> exact h)
  | work j =>
    cases b with
    | waiting i =>
      obtain ⟨w₁, s, w', -, -, rfl⟩ := work?_eq_some_iff.1 htick
      exact .inl h
    | entered i =>
      rcases step_worker (m := .tick (.work j)) htick h with ⟨hsame, -⟩ | ⟨-, s, w', hmoves, hw'⟩
      · exact .inl hsame
      · exact .inr ⟨s, w', hmoves, hw'⟩

end Engine

namespace Session

/-- Where a worker is found after a course. -/
def track (a : Allocator ε σ) (processes : ProcessTable) :
    Session ε σ → Berth → List (SessionEvent σ) → Berth
  | _, b, [] => b
  | s, b, .step step :: events => track a processes (s.perform processes step).1 b events
  | s, b, .tick t :: events =>
    match s.engine.tick a t with
    | none => b
    | some engine => track a processes { s with engine } (s.engine.moved b t) events

variable {a : Allocator ε σ} {processes : ProcessTable} {s s' : Session ε σ} {b : Berth}
  {w : Worker σ}

/-- No step of a session moves a worker from its berth. -/
theorem at?_perform (step : SessionStep σ) (h : s.engine.at? b = some w) :
    (s.perform processes step).1.engine.at? b = some w := by
  cases hrequest : s.request? processes step with
  | some r =>
    rw [(perform_of_request hrequest).1]
    exact Engine.at?_execute r h
  | none =>
    rw [(perform_of_no_request hrequest).1]
    cases b <;> exact h

/-- What holds of a worker and is kept by its steps holds of it in every course. -/
theorem play_at {P : Worker σ → Prop} (hkeep : ∀ s s' w w', w.Moves a s s' w' → P w → P w')
    {events : List (SessionEvent σ)} (hplay : s.play a processes events = some s')
    (hat : s.engine.at? b = some w) (h : P w) :
    ∃ w', s'.engine.at? (s.track a processes b events) = some w' ∧ P w' := by
  induction events generalizing s b w with
  | nil =>
    cases hplay
    exact ⟨w, hat, h⟩
  | cons event events ih =>
    cases event with
    | step step => exact ih hplay (at?_perform step hat) h
    | tick t =>
      rw [play] at hplay
      rw [track]
      cases htick : s.engine.tick a t with
      | none =>
        rw [htick] at hplay
        cases hplay
      | some engine =>
        rw [htick] at hplay
        rcases Engine.at?_tick htick hat with hsame | ⟨scene, w', hmoves, hw'⟩
        · exact ih hplay hsame h
        · exact ih hplay hw' (hkeep _ _ _ _ hmoves h)

end Session

end ResourceFaults
