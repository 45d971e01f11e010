import ResourceFaults.Proofs.Engine.Requests
import ResourceFaults.Proofs.Host.Lines

/-!
# What comes of commands

Commands that are delivered to a host one after the other are each carried out or
rejected.  Which it is depends on the commands and on what their starts meet, and on
nothing else (`answers`).  A command that is carried out is recorded and leaves a line
that tells what came of it; a command that is rejected leaves a message that tells why.
-/

namespace ResourceFaults.Host

/-- The message for a command that is rejected. -/
def errorLine (error : FaultError) : String :=
  "[ERROR] " ++ (AttachError.delivery error).message

/-- A command and the answer to it. -/
structure Answer where
  command : String
  reply : Except FaultError Outcome

/-- The answers to commands that are delivered one after the other. -/
def answers : List (Option Shortage) → List String → List Answer
  | _, [] => []
  | shortages, command :: commands =>
    ⟨command, Request.replyTo shortages command⟩ ::
      answers (Request.laterThan shortages command) commands

/-- The commands that are carried out. -/
def carriedOut (as : List Answer) : List String :=
  as.filterMap fun a => a.reply.toOption.map fun _ => a.command

/-- The lines for the commands that are carried out. -/
def tellings (as : List Answer) : List String :=
  as.filterMap fun a => a.reply.toOption.map injectLine

/-- The messages for the commands that are rejected. -/
def complaints (as : List Answer) : List String :=
  as.filterMap fun a =>
    match a.reply with
    | .ok _ => none
    | .error error => some (errorLine error)

/-- Whether all commands are carried out. -/
def allCarriedOut (as : List Answer) : Bool :=
  as.all fun a => a.reply.isOk

section Cons

variable {command : String} {o : Outcome} {error : FaultError} {as : List Answer}

@[simp] theorem carriedOut_ok : carriedOut (⟨command, .ok o⟩ :: as) = command :: carriedOut as := rfl

@[simp] theorem carriedOut_error : carriedOut (⟨command, .error error⟩ :: as) = carriedOut as := rfl

@[simp] theorem tellings_ok : tellings (⟨command, .ok o⟩ :: as) = injectLine o :: tellings as := rfl

@[simp] theorem tellings_error : tellings (⟨command, .error error⟩ :: as) = tellings as := rfl

@[simp] theorem complaints_ok : complaints (⟨command, .ok o⟩ :: as) = complaints as := rfl

@[simp] theorem complaints_error :
    complaints (⟨command, .error error⟩ :: as) = errorLine error :: complaints as := rfl

end Cons

/-- Only commands that were delivered are carried out. -/
theorem mem_of_mem_carriedOut {shortages : List (Option Shortage)} {commands : List String}
    {c : String} (h : c ∈ carriedOut (answers shortages commands)) : c ∈ commands := by
  induction commands generalizing shortages with
  | nil => exact h
  | cons command commands ih =>
    rw [answers] at h
    cases hreply : Request.replyTo shortages command with
    | ok o =>
      rw [hreply, carriedOut_ok, List.mem_cons] at h
      exact List.mem_cons.2 (h.imp id ih)
    | error error =>
      rw [hreply, carriedOut_error] at h
      exact List.mem_cons_of_mem _ (ih h)

end ResourceFaults.Host
