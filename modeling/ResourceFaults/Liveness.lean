import ResourceFaults.Clock

/-!
# Liveness signals

A signal says whether faults are to go on.  A probe of a signal can be taken, and
both can be cloned; the clones and probes that come from one signal are a family
and share one flag.  A signal can raise and lower the flag, a probe can only
look.

`HandleForest` holds all handles in the order in which they were made.  Each
handle knows its family, and each family has one flag, so that one family cannot
see another's.
-/

namespace ResourceFaults

/-- What a handle may do with its flag. -/
inductive HandleKind where
  | signal
  | probe
  deriving DecidableEq, Repr, Inhabited

/-- A handle of a family. -/
structure Handle where
  kind : HandleKind
  family : Nat
  deriving DecidableEq, Repr, Inhabited

/-- All handles, and the flag of each family. -/
structure HandleForest where
  handles : List Handle := []
  flags : List Bool := []
  deriving DecidableEq, Repr, Inhabited

/-- What can be done with handles; they are numbered in the order in which they
were made. -/
inductive HandleOperation where
  | new
  | clone (handle : Nat)
  | probe (handle : Nat)
  | arm (handle : Nat)
  | disarm (handle : Nat)
  | mayContinue (handle : Nat) (duration : Nanos)
  deriving DecidableEq, Repr

/-- What an operation answers. -/
inductive HandleAnswer where
  | done
  | flag (b : Bool)
  | unsupported
  deriving DecidableEq, Repr

namespace HandleForest

/-- The flag of a family. -/
def familyAlive (f : HandleForest) (family : Nat) : Bool :=
  f.flags.getD family false

/-- The flag that a handle sees. -/
def isAlive (f : HandleForest) (h : Handle) : Bool :=
  f.familyAlive h.family

/-- The flags that all handles see, in order. -/
def view (f : HandleForest) : List Bool :=
  f.handles.map f.isAlive

/-- The handle of a number and a kind. -/
def find? (f : HandleForest) (handle : Nat) (kind : HandleKind) : Option Handle :=
  match f.handles[handle]? with
  | some h => if h.kind = kind then some h else none
  | none => none

/-- One operation at an instant.  A new signal is down.  Lowering a flag answers
whether it was up.  Every handle can be cloned; only signals give probes and move flags, and
only probes are asked whether to go on. -/
def perform (f : HandleForest) (now : Nanos) : HandleOperation → HandleForest × HandleAnswer
  | .new =>
    ({ handles := f.handles ++ [⟨.signal, f.flags.length⟩], flags := f.flags ++ [false] }, .done)
  | .clone handle =>
    match f.handles[handle]? with
    | some h => ({ f with handles := f.handles ++ [h] }, .done)
    | none => (f, .unsupported)
  | .probe handle =>
    match f.find? handle .signal with
    | some h => ({ f with handles := f.handles ++ [{ h with kind := .probe }] }, .done)
    | none => (f, .unsupported)
  | .arm handle =>
    match f.find? handle .signal with
    | some h => ({ f with flags := f.flags.set h.family true }, .done)
    | none => (f, .unsupported)
  | .disarm handle =>
    match f.find? handle .signal with
    | some h => ({ f with flags := f.flags.set h.family false }, .flag (f.isAlive h))
    | none => (f, .unsupported)
  | .mayContinue handle duration =>
    match f.find? handle .probe with
    | some h => (f, .flag (shouldContinue (f.isAlive h) (Deadline.after now duration) now))
    | none => (f, .unsupported)

end HandleForest

end ResourceFaults
