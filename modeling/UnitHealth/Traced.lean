import UnitHealth.Log.Event

/-!
# Traced computations

A run has effects of two kinds: it asks its host to run programs, and it notes events. A traced
computation is a result together with the steps that led to it, in order. Composition appends the
steps, so the account of a whole is the accounts of its parts one after the other, and what a part
does can depend on earlier results but on nothing else.

Two views split the steps again: the programs that were asked for, and the events.
-/

namespace UnitHealth

structure Invocation where
  program : String
  arguments : List String
  deriving DecidableEq

inductive Step where
  | invoke (i : Invocation)
  | note (e : Event)
  deriving DecidableEq

/-- The attempt to run a program that a step is, if it is one. -/
def Step.invocation? : Step → Option Invocation
  | invoke i => some i
  | note _ => none

/-- The event that a step notes, if it notes one. -/
def Step.event? : Step → Option Event
  | invoke _ => none
  | note e => some e

/-- A result with the steps that led to it. -/
structure Traced (α : Type) where
  steps : List Step
  result : α
  deriving DecidableEq

namespace Traced

variable {α β : Type}

instance : Monad Traced where
  pure a := ⟨[], a⟩
  bind t f := ⟨t.steps ++ (f t.result).steps, (f t.result).result⟩

def note (e : Event) : Traced PUnit := ⟨[.note e], ⟨⟩⟩

def invoke (host : Host) (i : Invocation) : Traced Reply :=
  ⟨[.invoke i], host.spawn i.program i.arguments⟩

def invocations (t : Traced α) : List Invocation :=
  t.steps.filterMap Step.invocation?

def events (t : Traced α) : List Event :=
  t.steps.filterMap Step.event?

@[simp] theorem steps_pure (a : α) : (pure a : Traced α).steps = [] := rfl

@[simp] theorem result_pure (a : α) : (pure a : Traced α).result = a := rfl

@[simp] theorem steps_bind (t : Traced α) (f : α → Traced β) :
    (t >>= f).steps = t.steps ++ (f t.result).steps := rfl

@[simp] theorem result_bind (t : Traced α) (f : α → Traced β) :
    (t >>= f).result = (f t.result).result := rfl

@[simp] theorem steps_note (e : Event) : (note e).steps = [.note e] := rfl

@[simp] theorem steps_invoke (host : Host) (i : Invocation) :
    (invoke host i).steps = [.invoke i] := rfl

@[simp] theorem result_invoke (host : Host) (i : Invocation) :
    (invoke host i).result = host.spawn i.program i.arguments := rfl

@[simp] theorem invocations_pure (a : α) : (pure a : Traced α).invocations = [] := rfl

@[simp] theorem events_pure (a : α) : (pure a : Traced α).events = [] := rfl

@[simp] theorem invocations_bind (t : Traced α) (f : α → Traced β) :
    (t >>= f).invocations = t.invocations ++ (f t.result).invocations := by
  simp [invocations]

@[simp] theorem events_bind (t : Traced α) (f : α → Traced β) :
    (t >>= f).events = t.events ++ (f t.result).events := by
  simp [events]

@[simp] theorem invocations_note (e : Event) : (note e).invocations = [] := rfl

@[simp] theorem events_note (e : Event) : (note e).events = [e] := rfl

@[simp] theorem invocations_of_notes (events : List Event) (a : α) :
    (⟨events.map .note, a⟩ : Traced α).invocations = [] := by
  simp [invocations, Step.invocation?, Function.comp_def]

@[simp] theorem events_of_notes (events : List Event) (a : α) :
    (⟨events.map .note, a⟩ : Traced α).events = events := by
  simp [Traced.events, Step.event?, Function.comp_def]

@[simp] theorem invocations_invoke (host : Host) (i : Invocation) :
    (invoke host i).invocations = [i] := rfl

@[simp] theorem events_invoke (host : Host) (i : Invocation) : (invoke host i).events = [] := rfl

end Traced

end UnitHealth
