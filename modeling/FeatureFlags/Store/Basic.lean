import FeatureFlags.Cache.Basic
import FeatureFlags.Memory.Flag
import FeatureFlags.Provider.Status
import FeatureFlags.Store.Journal

/-!
# The store

Everything that outlives an evaluation: the state of each component, held under the number that the
component was given, the time, and what was noted and logged. Computations over the store may crash,
and what they did before stays done.
-/
namespace FeatureFlags

/-- What an isolated provider holds for a thread: the hand-over of the evaluation that is under
way. -/
structure Capture where
  flag : String
  type : FlagType
  captured : Captured

/-- The state of every component of one kind. -/
abbrev Slots (α : Type) := Nat → α

def Slots.set {α : Type} (s : Slots α) (owner : Nat) (value : α) : Slots α :=
  fun i => if i = owner then value else s i

@[simp]
theorem Slots.set_apply {α : Type} (s : Slots α) (owner i : Nat) (value : α) :
    s.set owner value i = if i = owner then value else s i := rfl

structure Store where
  /-- Milliseconds since 1970. -/
  now : Nat
  /-- The thread that runs, and how many there have been. -/
  thread : Nat
  threads : Nat
  /-- How many components have been given a number. -/
  owners : Nat
  caches : Slots Cache
  /-- By isolated provider and thread. -/
  captures : Slots (Slots (Option Capture))
  flags : Slots (Table MemoryFlag)
  environments : Slots (Table String)
  /-- The time until which a remote provider sends no request. -/
  suspensions : Slots (Option Nat)
  /-- How many answers of a script have been given. -/
  positions : Slots Nat
  statuses : Slots (Option Status)
  journal : List (String × Event)
  log : List LogRecord

namespace Store

/-- A store in which nothing has happened. -/
def fresh (now : Nat) : Store where
  now := now
  thread := 0
  threads := 1
  owners := 0
  caches := fun _ => .ofSettings {}
  captures := fun _ _ => none
  flags := fun _ => .empty
  environments := fun _ => .empty
  suspensions := fun _ => none
  positions := fun _ => 0
  statuses := fun _ => none
  journal := []
  log := []

end Store

/-- An evaluation was broken off. -/
inductive Crash where
  | crash
deriving DecidableEq

/-- A computation over the store. -/
abbrev Eval := ExceptT Crash (StateM Store)

namespace Eval

def crash {α : Type} : Eval α := throw .crash

/-- The number of a new component. -/
def newOwner : Eval Nat := do
  let n := (← get).owners
  modify fun s => { s with owners := n + 1 }
  return n

def now : Eval Nat := return (← get).now

def thread : Eval Nat := return (← get).thread

def note (channel : String) (event : Event) : Eval Unit :=
  modify fun s => { s with journal := s.journal ++ [(channel, event)] }

def report (severity : Severity) (message : String) (fields : List (String × Json)) : Eval Unit :=
  modify fun s => { s with log := s.log ++ [⟨severity, message, fields⟩] }

/-- The outcome of a computation, which may be that it crashed. -/
def attempt {α : Type} (x : Eval α) : Eval (Except Crash α) :=
  ExceptT.mk do return .ok (← x.run)

/-- Runs a computation on a thread of its own; a crash ends that thread only. -/
def onThread {α : Type} (x : Eval α) : Eval (Except Crash α) := do
  let home ← thread
  modify fun s => { s with thread := s.threads, threads := s.threads + 1 }
  let outcome ← attempt x
  modify fun s => { s with thread := home }
  return outcome

end Eval

end FeatureFlags
