import FeatureFlags.Regex.Size.ByteRun
import FeatureFlags.Regex.Size.Room
import FeatureFlags.Regex.Size.Slots

/-!
# The states of a set

A set of characters takes the states that spell its members in bytes. Parts of the spelling that are
alike share a state as far as it is still found.
-/
namespace FeatureFlags.Regex

/-- The room of an automaton while the states of a set are added, with the states of that set. -/
structure SetDraft where
  room : Room
  known : Slots

/-- The state of a key. If it is not found it is made, with some transitions. -/
def SetDraft.state (d : SetDraft) (key : List Nat) (transitions : Nat) : Nat × SetDraft :=
  match d.known.find? key with
  | some state => (state, d)
  | none =>
    let state := d.room.states
    (state, ⟨(d.room.addStates 1).addTransitions transitions, d.known.insert key state⟩)

/-! ## Forward -/

/-- What may follow each first byte range, for runs in ascending order. -/
def restsByRange (runs : List ByteRun) : List (ByteRange × List ByteRun) :=
  (runs.splitBy fun a b => a.head? == b.head?).filterMap fun
    | alike@((range :: _) :: _) => some (range, alike.map (·.drop 1))
    | _ => none

/-- The number of slots for the states of a set that is read forward. -/
def forwardSlots : Nat := 10000

/-- Adds the tree of some runs, told where they lead and how long they are at most. What follows a
range stands before the state that holds the range, and its state is a part of the key. -/
def addRuns (target : Nat) : Nat → List ByteRun → SetDraft → Nat × SetDraft
  | 0, _, d => (target, d)
  | length + 1, runs, d =>
    if runs.all (·.isEmpty) then (target, d)
    else
      let rests := restsByRange runs
      let (key, d) := rests.foldl
        (fun (key, d) ((low, high), rest) =>
          let (next, d) := addRuns target length rest d
          (next :: high :: low :: key, d))
        (([], d) : List Nat × SetDraft)
      d.state key.reverse rests.length

def Room.addForwardSet (r : Room) (runs : List ByteRun) : Room :=
  (addRuns r.states 4 runs ⟨r.addStates 1, .empty forwardSlots⟩).2.room

/-! ## Backward -/

/-- The number of slots for the states of a set that is read backward. -/
def backwardSlots : Nat := 1000

/-- Adds the states of a run that leads to a state. Runs share what is next to that state. -/
def addRun (target : Nat) (run : ByteRun) (d : SetDraft) : SetDraft :=
  (run.foldl (fun (next, d) (low, high) => d.state [next, low, high] 0)
    ((target, d) : Nat × SetDraft)).2

/-- Each run is entered on its own. -/
def Room.addBackwardSet (r : Room) (runs : List ByteRun) : Room :=
  let target := r.states + 1
  let d := runs.foldl (fun d run => addRun target run d) ⟨r.addStates 2, .empty backwardSlots⟩
  d.room.addReferences runs.length

end FeatureFlags.Regex
