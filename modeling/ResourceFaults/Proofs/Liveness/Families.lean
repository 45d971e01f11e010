import Mathlib
import ResourceFaults.Liveness

/-!
# Families of handles

A course of operations on handles is told by what was asked and answered: from these
events alone one can see which new signal each handle comes from (`descentsOf`) and what was
done to the flag of each family (`movesOf`).

`HandleForest.families_tell_latest` says that every handle reports the latest move of its
own family.  The invariant `Tracks` ties the forest to the events: handles see the same
flag if and only if they come from the same new signal, and the flag is what the moves of
the family make it.  One operation keeps it (`Tracks.perform`), and so does a course.

What the answers of lowering come to does not depend on handles any more.  It follows from
the moves of one family, in which each lowering answers what the moves before it have made
of the flag (`IsTruthful`).
-/

namespace ResourceFaults

/-! ## Moves of a flag -/

/-- What is done to a flag.  Lowering answers whether the flag was up. -/
inductive FlagMove where
  | raise
  | lower (wasUp : Bool)
  deriving DecidableEq, Repr

namespace FlagMove

/-- Whether a flag is up after some moves; a new one is down. -/
def isUpAfter (moves : List FlagMove) : Bool :=
  moves.getLast? == some raise

/-- Whether each lowering answers what the moves before it have made of the flag. -/
def IsTruthful (moves : List FlagMove) : Prop :=
  ∀ before wasUp after, moves = before ++ lower wasUp :: after → wasUp = isUpAfter before

variable {moves before between after : List FlagMove} {m : FlagMove}

@[simp] theorem isUpAfter_concat : isUpAfter (moves ++ [m]) = (m == raise) := by
  simp [isUpAfter]

theorem IsTruthful.concat (h : IsTruthful moves)
    (hm : ∀ wasUp, m = lower wasUp → wasUp = isUpAfter moves) : IsTruthful (moves ++ [m]) := by
  intro before wasUp after heq
  rcases List.eq_nil_or_concat after with rfl | ⟨after, m', rfl⟩
  · obtain ⟨rfl, hlast⟩ := List.append_inj' heq rfl
    exact hm wasUp (List.singleton_inj.1 hlast)
  · rw [List.concat_eq_append, ← List.cons_append, ← List.append_assoc] at heq
    exact h before wasUp after (List.append_inj' heq rfl).1

theorem IsTruthful.of_concat (h : IsTruthful (moves ++ [m])) :
    IsTruthful moves ∧ ∀ wasUp, m = lower wasUp → wasUp = isUpAfter moves := by
  constructor
  · rintro before wasUp after rfl
    exact h before wasUp (after ++ [m]) (by simp)
  · rintro wasUp rfl
    exact h moves wasUp [] rfl

/-- A flag is found up by a lowering at most as often as it was raised, and once less if
it is still up. -/
theorem IsTruthful.count_lower_le (h : IsTruthful moves) :
    moves.count (lower true) + (isUpAfter moves).toNat ≤ moves.count raise := by
  induction moves using List.reverseRecOn with
  | nil => exact Nat.le_refl 0
  | append_singleton moves m ih =>
    obtain ⟨hmoves, hm⟩ := h.of_concat
    have hle := ih hmoves
    rw [isUpAfter_concat, List.count_append, List.count_append]
    cases m with
    | raise =>
      have hlower : [raise].count (lower true) = 0 := rfl
      have hraise : [raise].count raise = 1 := rfl
      have hup : (raise == raise).toNat = 1 := rfl
      omega
    | lower wasUp =>
      have hraise : [lower wasUp].count raise = 0 := by cases wasUp <;> rfl
      have hup : (lower wasUp == raise).toNat = 0 := by cases wasUp <;> rfl
      have hbefore := hm wasUp rfl
      cases wasUp with
      | false =>
        have hlower : [lower false].count (lower true) = 0 := rfl
        omega
      | true =>
        have hlower : [lower true].count (lower true) = 1 := rfl
        rw [← hbefore] at hle
        have hone : true.toNat = 1 := rfl
        omega

/-- Between two lowerings that find a flag up it is raised. -/
theorem IsTruthful.raise_mem
    (h : IsTruthful (before ++ lower true :: (between ++ lower true :: after))) :
    raise ∈ between := by
  have hup := h (before ++ lower true :: between) true after (by simp)
  have hlast : (before ++ lower true :: between).getLast? = some raise :=
    eq_of_beq hup.symm
  rcases List.eq_nil_or_concat between with rfl | ⟨between, m, rfl⟩
  · simp at hlast
  · rw [List.concat_eq_append, ← List.cons_append, ← List.append_assoc,
      List.getLast?_concat] at hlast
    rw [List.concat_eq_append, Option.some.inj hlast]
    exact List.mem_append_right _ List.mem_cons_self

end FlagMove

/-! ## Events -/

/-- What a handle is, and the number of the new signal that it comes from. -/
structure Descent where
  kind : HandleKind
  origin : Nat
  deriving DecidableEq, Repr

/-- An operation on handles and its answer. -/
abbrev HandleEvent := HandleOperation × HandleAnswer

namespace HandleEvent

/-- The signal of a number. -/
def signal? (descents : List Descent) (i : Nat) : Option Descent :=
  descents[i]?.filter fun d => d.kind = .signal

/-- All handles after an operation.  A new signal is its own origin, and what is made from
a handle has the origin of that.  Only signals give probes. -/
def descentsAfter (descents : List Descent) : HandleOperation → List Descent
  | .new => descents ++ [⟨.signal, descents.length⟩]
  | .clone i => descents ++ descents[i]?.toList
  | .probe i => descents ++ ((signal? descents i).map fun d => { d with kind := .probe }).toList
  | _ => descents

/-- All handles after some events. -/
def descentsOf (events : List HandleEvent) : List Descent :=
  events.foldl (fun descents e => descentsAfter descents e.1) []

/-- What an event does to a flag, and the origin of the family that the flag belongs to. -/
def move? (descents : List Descent) : HandleEvent → Option (Nat × FlagMove)
  | (.arm i, _) => (signal? descents i).map fun d => (d.origin, .raise)
  | (.disarm i, .flag wasUp) => (signal? descents i).map fun d => (d.origin, .lower wasUp)
  | _ => none

/-- What some events do to flags, from a point where the handles are these. -/
def movesFrom (descents : List Descent) : List HandleEvent → List (Nat × FlagMove)
  | [] => []
  | e :: events => (move? descents e).toList ++ movesFrom (descentsAfter descents e.1) events

/-- The moves of one family among those of all. -/
def family (r : Nat) (moves : List (Nat × FlagMove)) : List FlagMove :=
  (moves.filter fun m => m.1 == r).map Prod.snd

/-- What some events do to the flag of a family, from the start. -/
def movesOf (r : Nat) (events : List HandleEvent) : List FlagMove :=
  family r (movesFrom [] events)

variable {descents : List Descent} {d : Descent} {i r r' : Nat} {m : FlagMove}
  {moves : List (Nat × FlagMove)} {e : HandleEvent} {events : List HandleEvent}

theorem signal?_eq_some_iff : signal? descents i = some d ↔
    descents[i]? = some d ∧ d.kind = .signal := by
  simp [signal?, Option.filter_eq_some_iff]

/-- Handles stay what they are. -/
theorem getElem?_descentsAfter (op : HandleOperation) (hi : descents[i]? = some d) :
    (descentsAfter descents op)[i]? = some d := by
  have hlt := (List.getElem?_eq_some_iff.1 hi).1
  cases op with
  | new => exact (List.getElem?_append_left hlt).trans hi
  | clone j => exact (List.getElem?_append_left hlt).trans hi
  | probe j => exact (List.getElem?_append_left hlt).trans hi
  | arm j => exact hi
  | disarm j => exact hi
  | mayContinue j duration => exact hi

/-- A flag is moved through a signal of its family. -/
theorem move?_eq_some {move : Nat × FlagMove} (h : move? descents e = some move) :
    ∃ j d, (e.1 = .arm j ∨ e.1 = .disarm j) ∧ descents[j]? = some d ∧ d.origin = move.1 := by
  unfold move? at h
  split at h
  case h_1 j answer =>
    obtain ⟨d, hd, rfl⟩ := Option.map_eq_some_iff.1 h
    exact ⟨j, d, .inl rfl, (signal?_eq_some_iff.1 hd).1, rfl⟩
  case h_2 j wasUp =>
    obtain ⟨d, hd, rfl⟩ := Option.map_eq_some_iff.1 h
    exact ⟨j, d, .inr rfl, (signal?_eq_some_iff.1 hd).1, rfl⟩
  case h_3 => exact nomatch h

theorem descentsOf_concat :
    descentsOf (events ++ [e]) = descentsAfter (descentsOf events) e.1 :=
  List.foldl_concat ..

theorem movesFrom_concat (descents : List Descent) :
    movesFrom descents (events ++ [e]) = movesFrom descents events ++
      (move? (events.foldl (fun descents e => descentsAfter descents e.1) descents) e).toList := by
  induction events generalizing descents with
  | nil => simp [movesFrom]
  | cons e' events ih => simp [movesFrom, ih]

theorem family_concat_self : family r (moves ++ [(r, m)]) = family r moves ++ [m] := by
  simp [family]

theorem family_concat_of_ne (h : r' ≠ r) : family r (moves ++ [(r', m)]) = family r moves := by
  simp [family, h]

theorem family_eq_nil (h : ∀ m ∈ moves, m.1 ≠ r) : family r moves = [] := by
  rw [family, List.map_eq_nil_iff, List.filter_eq_nil_iff]
  intro m hm
  simpa using h m hm

/-- All moves are the moves of the families together. -/
theorem count_eq_sum_family {families : Finset ℕ} (h : ∀ m ∈ moves, m.1 ∈ families)
    (m : FlagMove) :
    (moves.map Prod.snd).count m = ∑ r ∈ families, (family r moves).count m := by
  induction moves with
  | nil => simp [family]
  | cons m' moves ih =>
    rw [List.forall_mem_cons] at h
    have hcons : ∀ r, (family r (m' :: moves)).count m =
        (if m'.1 = r then [m'.2].count m else 0) + (family r moves).count m := by
      intro r
      by_cases hr : m'.1 = r
      · simp [family, hr, List.count_cons, Nat.add_comm]
      · simp [family, hr]
    rw [List.map_cons, ← List.singleton_append, List.count_append, ih h.2,
      Finset.sum_congr rfl fun r _ => hcons r, Finset.sum_add_distrib,
      Finset.sum_ite_eq, if_pos h.1]

end HandleEvent

open HandleEvent FlagMove

namespace HandleForest

/-- Operations at their instants, one after the other. -/
def run (f : HandleForest) (steps : List (Nanos × HandleOperation)) : HandleForest :=
  steps.foldl (fun f s => (f.perform s.1 s.2).1) f

/-- The events of a course of operations. -/
def events (f : HandleForest) : List (Nanos × HandleOperation) → List HandleEvent
  | [] => []
  | s :: steps => (s.2, (f.perform s.1 s.2).2) :: events (f.perform s.1 s.2).1 steps

variable {f : HandleForest} {descents : List Descent} {moves : List (Nat × FlagMove)}
  {h : Handle} {d : Descent} {i j r : Nat}

theorem run_concat (f : HandleForest) (steps : List (Nanos × HandleOperation))
    (s : Nanos × HandleOperation) :
    f.run (steps ++ [s]) = ((f.run steps).perform s.1 s.2).1 :=
  List.foldl_concat ..

theorem events_concat (f : HandleForest) (steps : List (Nanos × HandleOperation))
    (s : Nanos × HandleOperation) :
    f.events (steps ++ [s]) = f.events steps ++ [(s.2, ((f.run steps).perform s.1 s.2).2)] := by
  induction steps generalizing f with
  | nil => rfl
  | cons s' steps ih => exact congrArg (_ :: ·) (ih _)

theorem find?_of_kind_eq (hi : f.handles[i]? = some h) : f.find? i h.kind = some h := by
  simp [find?, hi]

theorem find?_of_kind_ne {kind : HandleKind} (hi : f.handles[i]? = some h) (hkind : h.kind ≠ kind) :
    f.find? i kind = none := by
  simp [find?, hi, hkind]

theorem find?_of_none {kind : HandleKind} (hi : f.handles[i]? = none) : f.find? i kind = none := by
  simp [find?, hi]

/-! ## The forest and its events -/

/-- Whether a forest is what events with these handles and moves have made of it. -/
structure Tracks (f : HandleForest) (descents : List Descent) (moves : List (Nat × FlagMove)) :
    Prop where
  length_eq : f.handles.length = descents.length
  kind_eq : ∀ p ∈ f.handles.zip descents, p.1.kind = p.2.kind
  family_lt : ∀ p ∈ f.handles.zip descents, p.1.family < f.flags.length
  /-- Handles see the same flag exactly if they have the same origin. -/
  family_eq_iff : ∀ p ∈ f.handles.zip descents, ∀ q ∈ f.handles.zip descents,
    p.1.family = q.1.family ↔ p.2.origin = q.2.origin
  origin_lt : ∀ d ∈ descents, d.origin < descents.length
  moved_lt : ∀ m ∈ moves, m.1 < descents.length
  isAlive_eq : ∀ p ∈ f.handles.zip descents, f.isAlive p.1 = isUpAfter (family p.2.origin moves)
  truthful : ∀ r, IsTruthful (family r moves)

namespace Tracks

/-- A number stands for a handle in the forest exactly if it does in the events. -/
theorem handle_cases (ht : Tracks f descents moves) (i : Nat) :
    f.handles[i]? = none ∧ descents[i]? = none ∨
    ∃ h d, f.handles[i]? = some h ∧ descents[i]? = some d ∧ (h, d) ∈ f.handles.zip descents := by
  rcases Nat.lt_or_ge i f.handles.length with hlt | hge
  · have hh := List.getElem?_eq_getElem hlt
    have hd := List.getElem?_eq_getElem (ht.length_eq ▸ hlt)
    exact .inr ⟨_, _, hh, hd, List.mem_of_getElem? (List.getElem?_zip_eq_some.2 ⟨hh, hd⟩)⟩
  · exact .inl ⟨List.getElem?_eq_none hge, List.getElem?_eq_none (ht.length_eq ▸ hge)⟩

/-- The same for signals. -/
theorem signal_cases (ht : Tracks f descents moves) (i : Nat) :
    f.find? i .signal = none ∧ signal? descents i = none ∨
    ∃ h d, f.handles[i]? = some h ∧ f.find? i .signal = some h ∧ signal? descents i = some d ∧
      (h, d) ∈ f.handles.zip descents := by
  rcases ht.handle_cases i with ⟨hh, hd⟩ | ⟨h, d, hh, hd, hmem⟩
  · exact .inl ⟨find?_of_none hh, by simp [signal?, hd]⟩
  · have hkind := ht.kind_eq _ hmem
    by_cases hsignal : d.kind = .signal
    · exact .inr ⟨h, d, hh, (hkind.trans hsignal) ▸ find?_of_kind_eq hh,
        signal?_eq_some_iff.2 ⟨hd, hsignal⟩, hmem⟩
    · exact .inl ⟨find?_of_kind_ne hh (hkind ▸ hsignal), by simp [signal?, hd, hsignal]⟩

theorem start : Tracks {} [] [] where
  length_eq := rfl
  kind_eq := nofun
  family_lt := nofun
  family_eq_iff := nofun
  origin_lt := nofun
  moved_lt := nofun
  isAlive_eq := nofun
  truthful r := by
    intro before wasUp after heq
    simp [family] at heq

/-- One handle more, with or without a flag of its own. -/
theorem append (ht : Tracks f descents moves) (flags : List Bool) (hkind : h.kind = d.kind)
    (hlt : h.family < (f.flags ++ flags).length)
    (hiff : ∀ p ∈ f.handles.zip descents, p.1.family = h.family ↔ p.2.origin = d.origin)
    (horigin : d.origin < descents.length + 1)
    (halive : (f.flags ++ flags).getD h.family false = isUpAfter (family d.origin moves)) :
    Tracks { handles := f.handles ++ [h], flags := f.flags ++ flags } (descents ++ [d]) moves := by
  have hzip : (f.handles ++ [h]).zip (descents ++ [d]) = f.handles.zip descents ++ [(h, d)] :=
    List.zip_append ht.length_eq
  constructor
  case length_eq => simp [ht.length_eq]
  case kind_eq =>
    simp only [hzip, List.forall_mem_append, List.forall_mem_singleton]
    exact ⟨ht.kind_eq, hkind⟩
  case family_lt =>
    simp only [hzip, List.forall_mem_append, List.forall_mem_singleton]
    refine ⟨fun p hp => ?_, hlt⟩
    rw [List.length_append]
    exact Nat.lt_add_right _ (ht.family_lt p hp)
  case family_eq_iff =>
    simp only [hzip, List.forall_mem_append, List.forall_mem_singleton]
    refine ⟨fun p hp => ⟨ht.family_eq_iff p hp, hiff p hp⟩, fun p hp => ?_, trivial⟩
    exact eq_comm.trans ((hiff p hp).trans eq_comm)
  case origin_lt =>
    simp only [List.forall_mem_append, List.forall_mem_singleton, List.length_append,
      List.length_singleton]
    exact ⟨fun d hd => Nat.lt_succ_of_lt (ht.origin_lt d hd), horigin⟩
  case moved_lt =>
    intro m hm
    rw [List.length_append]
    exact Nat.lt_add_right 1 (ht.moved_lt m hm)
  case isAlive_eq =>
    simp only [hzip, List.forall_mem_append, List.forall_mem_singleton, isAlive, familyAlive]
    refine ⟨fun p hp => ?_, halive⟩
    rw [List.getD_append _ _ _ _ (ht.family_lt p hp)]
    exact ht.isAlive_eq p hp
  case truthful => exact ht.truthful

/-- A new signal is down, and nothing was done to its family. -/
theorem new (ht : Tracks f descents moves) :
    Tracks { handles := f.handles ++ [⟨.signal, f.flags.length⟩], flags := f.flags ++ [false] }
      (descents ++ [⟨.signal, descents.length⟩]) moves := by
  refine ht.append [false] rfl ?_ (fun p hp => ?_) (Nat.lt_succ_self _) ?_
  · rw [List.length_append]
    exact Nat.lt_succ_self _
  · have horigin := ht.origin_lt p.2 (List.of_mem_zip hp).2
    exact iff_of_false (ht.family_lt p hp).ne horigin.ne
  · rw [family_eq_nil fun m hm => (ht.moved_lt m hm).ne]
    simp [isUpAfter]

/-- What is made from a handle belongs to its family. -/
theorem make (ht : Tracks f descents moves) (hmem : (h, d) ∈ f.handles.zip descents)
    (kind : HandleKind) :
    Tracks { f with handles := f.handles ++ [{ h with kind := kind }] }
      (descents ++ [{ d with kind := kind }]) moves := by
  have horigin := ht.origin_lt d (List.of_mem_zip hmem).2
  have hlt : h.family < (f.flags ++ []).length := by
    rw [List.append_nil]
    exact ht.family_lt _ hmem
  have halive : (f.flags ++ []).getD h.family false = isUpAfter (family d.origin moves) := by
    rw [List.append_nil]
    exact ht.isAlive_eq _ hmem
  have happend := ht.append (h := { h with kind := kind }) (d := { d with kind := kind }) [] rfl
    hlt (fun p hp => ht.family_eq_iff p hp _ hmem) (Nat.lt_succ_of_lt horigin) halive
  rwa [List.append_nil] at happend

/-- A move of a flag is seen by the family of the flag and by no other. -/
theorem moveFlag (ht : Tracks f descents moves) (hmem : (h, d) ∈ f.handles.zip descents)
    {m : FlagMove} (hm : ∀ wasUp, m = .lower wasUp → wasUp = f.isAlive h) :
    Tracks { f with flags := f.flags.set h.family (m == .raise) } descents
      (moves ++ [(d.origin, m)]) := by
  constructor
  case length_eq => exact ht.length_eq
  case kind_eq => exact ht.kind_eq
  case family_lt =>
    intro p hp
    rw [List.length_set]
    exact ht.family_lt p hp
  case family_eq_iff => exact ht.family_eq_iff
  case origin_lt => exact ht.origin_lt
  case moved_lt =>
    simp only [List.forall_mem_append, List.forall_mem_singleton]
    exact ⟨ht.moved_lt, ht.origin_lt d (List.of_mem_zip hmem).2⟩
  case isAlive_eq =>
    intro p hp
    have hiff := ht.family_eq_iff _ hmem p hp
    by_cases hr : d.origin = p.2.origin
    · have hfamily := hiff.2 hr
      have hlt := ht.family_lt p hp
      rw [← hr, family_concat_self, isUpAfter_concat, isAlive, familyAlive, ← hfamily,
        List.getD_eq_getElem?_getD, List.getElem?_set_self (hfamily ▸ hlt), Option.getD_some]
    · have hfamily : h.family ≠ p.1.family := fun heq => hr (hiff.1 heq)
      rw [family_concat_of_ne hr, ← ht.isAlive_eq p hp, isAlive, familyAlive, isAlive,
        familyAlive, List.getD_eq_getElem?_getD, List.getElem?_set_ne hfamily,
        ← List.getD_eq_getElem?_getD]
  case truthful =>
    intro r
    by_cases hr : d.origin = r
    · subst hr
      rw [family_concat_self]
      refine (ht.truthful _).concat fun wasUp heq => ?_
      rw [hm wasUp heq]
      exact ht.isAlive_eq _ hmem
    · rw [family_concat_of_ne hr]
      exact ht.truthful r

/-- One operation keeps what the events have made of a forest. -/
theorem perform (ht : Tracks f descents moves) (now : Nanos) (op : HandleOperation) :
    Tracks (f.perform now op).1 (descentsAfter descents op)
      (moves ++ (move? descents (op, (f.perform now op).2)).toList) := by
  cases op with
  | new =>
    simp only [HandleForest.perform, descentsAfter, move?, Option.toList_none, List.append_nil]
    exact ht.new
  | clone i =>
    rcases ht.handle_cases i with ⟨hh, hd⟩ | ⟨h, d, hh, hd, hmem⟩
    · simp only [HandleForest.perform, hh, descentsAfter, hd, move?, Option.toList_none,
        List.append_nil]
      exact ht
    · simp only [HandleForest.perform, hh, descentsAfter, hd, move?, Option.toList_none,
        List.append_nil, Option.toList_some]
      have hmake := ht.make hmem h.kind
      nth_rewrite 2 [ht.kind_eq _ hmem] at hmake
      exact hmake
  | probe i =>
    rcases ht.signal_cases i with ⟨hh, hd⟩ | ⟨h, d, -, hh, hd, hmem⟩
    · simp only [HandleForest.perform, hh, descentsAfter, hd, move?, Option.toList_none,
        List.append_nil, Option.map_none]
      exact ht
    · simp only [HandleForest.perform, hh, descentsAfter, hd, move?, Option.toList_none,
        List.append_nil, Option.map_some, Option.toList_some]
      exact ht.make hmem .probe
  | arm i =>
    rcases ht.signal_cases i with ⟨hh, hd⟩ | ⟨h, d, -, hh, hd, hmem⟩
    · simp only [HandleForest.perform, hh, descentsAfter, hd, move?, Option.toList_none,
        List.append_nil, Option.map_none]
      exact ht
    · simp only [HandleForest.perform, hh, descentsAfter, hd, move?, Option.map_some,
        Option.toList_some]
      exact ht.moveFlag hmem (m := .raise) nofun
  | disarm i =>
    rcases ht.signal_cases i with ⟨hh, hd⟩ | ⟨h, d, -, hh, hd, hmem⟩
    · simp only [HandleForest.perform, hh, descentsAfter, move?, Option.toList_none,
        List.append_nil]
      exact ht
    · simp only [HandleForest.perform, hh, descentsAfter, hd, move?, Option.map_some,
        Option.toList_some]
      exact ht.moveFlag hmem (m := .lower (f.isAlive h)) fun wasUp heq =>
        (FlagMove.lower.inj heq).symm
  | mayContinue i duration =>
    have hsame : Tracks f descents (moves ++ []) := (List.append_nil moves).symm ▸ ht
    cases hi : f.find? i .probe with
    | none =>
      simp only [HandleForest.perform, hi]
      exact hsame
    | some h =>
      simp only [HandleForest.perform, hi]
      exact hsame

/-- A course keeps it as well. -/
theorem run (steps : List (Nanos × HandleOperation)) :
    Tracks (HandleForest.run {} steps) (descentsOf (events {} steps))
      (movesFrom [] (events {} steps)) := by
  induction steps using List.reverseRecOn with
  | nil => exact start
  | append_singleton steps s ih =>
    rw [run_concat, events_concat, descentsOf_concat, movesFrom_concat]
    exact ih.perform s.1 s.2

/-- Every handle reports the latest move of its family. -/
theorem view_eq (ht : Tracks f descents moves) :
    f.view = descents.map fun d => isUpAfter (family d.origin moves) := by
  have hhandles : f.handles = (f.handles.zip descents).map Prod.fst :=
    (List.map_fst_zip ht.length_eq.le).symm
  have hdescents : descents = (f.handles.zip descents).map Prod.snd :=
    (List.map_snd_zip ht.length_eq.ge).symm
  calc f.view
    _ = (f.handles.zip descents).map fun p => f.isAlive p.1 := by
      rw [view, hhandles, List.map_map, ← hhandles]
      rfl
    _ = (f.handles.zip descents).map fun p => isUpAfter (family p.2.origin moves) :=
      List.map_congr_left ht.isAlive_eq
    _ = descents.map fun d => isUpAfter (family d.origin moves) := by
      rw [hdescents, List.map_map, ← hdescents]
      rfl

theorem getElem?_view (ht : Tracks f descents moves) (hi : descents[i]? = some d) :
    f.view[i]? = some (isUpAfter (family d.origin moves)) := by
  rw [ht.view_eq, List.getElem?_map, hi, Option.map_some]

/-- A family that is not moved reports the same afterwards. -/
theorem getElem?_view_perform (ht : Tracks f descents moves) (now : Nanos) {op : HandleOperation}
    (hi : descents[i]? = some d)
    (hop : ∀ j d', op = .arm j ∨ op = .disarm j → descents[j]? = some d' → d'.origin ≠ d.origin) :
    (f.perform now op).1.view[i]? = f.view[i]? := by
  rw [(ht.perform now op).getElem?_view (getElem?_descentsAfter op hi), ht.getElem?_view hi]
  cases hmove : move? descents (op, (f.perform now op).2) with
  | none => rw [Option.toList_none, List.append_nil]
  | some m =>
    obtain ⟨j, d', hj, hd', hm⟩ := move?_eq_some hmove
    have hne : m.1 ≠ d.origin := hm ▸ hop j d' hj hd'
    rw [Option.toList_some, family_concat_of_ne hne]

/-- Lowering through a signal answers what its handle has reported. -/
theorem disarm_answer (ht : Tracks f descents moves) (now : Nanos)
    (hj : signal? descents j = some d) :
    ∃ wasUp, (f.perform now (.disarm j)).2 = .flag wasUp ∧ f.view[j]? = some wasUp := by
  rcases ht.signal_cases j with ⟨-, hnone⟩ | ⟨h, -, hh, hfind, -⟩
  · simp [hnone] at hj
  · refine ⟨f.isAlive h, by simp only [HandleForest.perform, hfind], ?_⟩
    rw [view, List.getElem?_map, hh, Option.map_some]

theorem count_lower_le (ht : Tracks f descents moves) (r : Nat) :
    (family r moves).count (.lower true) ≤ (family r moves).count .raise :=
  Nat.le_of_add_right_le (ht.truthful r).count_lower_le

theorem count_lower_le_all (ht : Tracks f descents moves) :
    (moves.map Prod.snd).count (.lower true) ≤ (moves.map Prod.snd).count .raise := by
  have hmoved : ∀ m ∈ moves, m.1 ∈ Finset.range descents.length := fun m hm =>
    Finset.mem_range.2 (ht.moved_lt m hm)
  rw [count_eq_sum_family hmoved, count_eq_sum_family hmoved]
  exact Finset.sum_le_sum fun r _ => ht.count_lower_le r

end Tracks

/-! ## What handles report -/

/-- What handles report after some events. -/
structure TellsLatest (f : HandleForest) (events : List HandleEvent) : Prop where
  /-- Every handle reports whether the latest move of its family raised the flag. -/
  view_eq : f.view = (descentsOf events).map fun d => isUpAfter (movesOf d.origin events)
  /-- All handles that come from one new signal report the same. -/
  agree : ∀ (i j : Nat) (d d' : Descent), (descentsOf events)[i]? = some d →
    (descentsOf events)[j]? = some d' → d.origin = d'.origin → f.view[i]? = f.view[j]?
  /-- No operation but a move of its own family changes what a handle reports. -/
  isolated : ∀ (now : Nanos) (op : HandleOperation) (i : Nat) (d : Descent),
    (descentsOf events)[i]? = some d →
    (∀ (j : Nat) (d' : Descent), op = .arm j ∨ op = .disarm j →
      (descentsOf events)[j]? = some d' → d'.origin ≠ d.origin) →
    (f.perform now op).1.view[i]? = f.view[i]?
  /-- Lowering through a signal answers what its family has reported just before. -/
  lowering : ∀ (now : Nanos) (j : Nat) (d : Descent), signal? (descentsOf events) j = some d →
    ∃ wasUp, (f.perform now (.disarm j)).2 = .flag wasUp ∧ f.view[j]? = some wasUp
  /-- A family is found up at most as often as it was raised. -/
  count_lower_le : ∀ r : Nat,
    (movesOf r events).count (.lower true) ≤ (movesOf r events).count .raise
  /-- So are all families together. -/
  count_lower_le_all : ((movesFrom [] events).map Prod.snd).count (.lower true) ≤
    ((movesFrom [] events).map Prod.snd).count .raise
  /-- A family that is found up twice was raised in between. -/
  raise_between : ∀ (r : Nat) (before between after : List FlagMove),
    movesOf r events = before ++ .lower true :: (between ++ .lower true :: after) →
    .raise ∈ between

/-- After any course of operations every handle reports the latest move of its own family,
whatever was done to the others.  Lowering finds a flag up at most as often as it was
raised, in each family and over all, and never twice without a raise between. -/
theorem families_tell_latest (steps : List (Nanos × HandleOperation)) :
    TellsLatest (run {} steps) (events {} steps) := by
  have ht := Tracks.run steps
  constructor
  case view_eq => exact ht.view_eq
  case agree =>
    intro i j d d' hi hj horigin
    rw [ht.getElem?_view hi, ht.getElem?_view hj, horigin]
  case isolated => exact fun now op i d hi hop => ht.getElem?_view_perform now hi hop
  case lowering => exact fun now j d hj => ht.disarm_answer now hj
  case count_lower_le => exact ht.count_lower_le
  case count_lower_le_all => exact ht.count_lower_le_all
  case raise_between =>
    intro r before between after heq
    have htruthful : IsTruthful (movesOf r (events {} steps)) := ht.truthful r
    rw [heq] at htruthful
    exact htruthful.raise_mem

/-- A clone raises the flag of its own family, and the other signal stays down. -/
example : (run {} [(0, .new), (0, .clone 0), (0, .probe 1), (0, .new), (0, .arm 1)]).view =
    [true, true, true, false] := by
  decide

end HandleForest

end ResourceFaults
