import EtcdBackup.Pattern.Analysis
import EtcdBackup.Pattern.Fault
import EtcdBackup.Unicode.Lookup

/-!
# Matching parts that are not hard

Parts that are not hard are compiled to an automaton whose states are numbered steps. The search
follows the preferred way first and never visits a state twice at one place of the text, so its
effort is bounded by the number of states times the length of the text, and it finds the end of
the match that comes first in the order of preference.
-/

set_option autoImplicit false
set_option relaxedAutoImplicit false

namespace EtcdBackup.Pattern

/-- A step of an automaton. -/
inductive Automaton.Step
  | done
  | any
  | anyButNewline
  | char (c : Char)
  | set (chars : CharSet)
  | assertion (a : Assertion)
  | jump (target : Nat)
  /-- Two ways on, the preferred one first. -/
  | fork (first second : Nat)

/-- An automaton: steps, begun at number zero. -/
structure Automaton where
  steps : Array Automaton.Step
  deriving Inhabited

namespace Automaton

/-- The greatest number of steps of an automaton. -/
def maxSteps : Nat := 300000

/-- The monad that appends steps. -/
abbrev Build : Type → Type := StateT (Array Step) (Except Fault)

/-- The number of the next step. -/
def position : Build Nat := return (← get).size

/-- Appends a step. -/
def emit (s : Step) : Build Unit := do
  if (← get).size ≥ maxSteps then throw Fault.tooLarge
  modify (·.push s)

/-- Replaces the step with a number. -/
def patch (n : Nat) (s : Step) : Build Unit := modify (·.setIfInBounds n s)

/-- A choice between going on and leaving, in the order of greed. -/
def choice (greedy : Bool) (on leave : Nat) : Step :=
  if greedy then .fork on leave else .fork leave on

/-- Does something a number of times. -/
def times (n : Nat) (act : Build Unit) : Build Unit :=
  match n with
  | 0 => pure ()
  | n + 1 => do
    act
    times n act

/-- Up to `n` more rounds, each of which may be left; the numbers of the choices. -/
def rounds (n : Nat) (act : Build Unit) (acc : List Nat) : Build (List Nat) :=
  match n with
  | 0 => pure acc
  | n + 1 => do
    let here ← position
    emit .done
    act
    rounds n act (here :: acc)

/-- A repeated part, where `nullable` tells that it can match nothing. -/
def buildRepeated (nullable greedy : Bool) (low : Nat) (high : Option Nat) (act : Build Unit) :
    Build Unit := do
  match high with
  | some high =>
    if high < low ∨ UInt32.size ≤ high then throw Fault.invalidRepetition
    if maxSteps < high then throw Fault.tooLarge
    times low act
    let choices ← rounds (high - low) act []
    let after ← position
    choices.forM fun n ↦ patch n (choice greedy (n + 1) after)
  | none =>
    if low = 0 then
      let question ← position
      emit .done
      act
      let plus ← position
      if nullable then
        emit (choice greedy (question + 1) (plus + 1))
        patch question (choice greedy (question + 1) (plus + 1))
      else
        emit (.jump question)
        patch question (choice greedy (question + 1) (plus + 1))
    else
      if UInt32.size ≤ low then throw Fault.invalidRepetition
      if maxSteps < low then throw Fault.tooLarge
      times (low - 1) act
      let start ← position
      act
      let union ← position
      emit (choice greedy start (union + 1))

mutual

/-- Appends the steps of a part that is not hard. -/
def build : Node → Build Unit
  | .empty => pure ()
  | .any newline => emit (if newline then .any else .anyButNewline)
  | .assertion a => emit (.assertion a)
  | .literal c false => emit (.char c)
  | .literal c true => emit (.set (Unicode.foldCase (CharSet.singleton c.toNat)))
  | .set chars => emit (.set chars)
  | .concat parts => buildAll parts
  | .alt choices => buildAny choices
  | .group _ child => build child
  | .repeated child low high greedy =>
    buildRepeated ((child.shape []).least = 0) greedy low high (build child)
  | _ => throw Fault.unreadable

/-- Appends the steps of a sequence. -/
def buildAll : List Node → Build Unit
  | [] => pure ()
  | part :: rest => do
    build part
    buildAll rest

/-- Appends the steps of a choice. -/
def buildAny : List Node → Build Unit
  | [] => pure ()
  | choice :: [] => build choice
  | choice :: rest => do
    let here ← position
    emit .done
    build choice
    let leave ← position
    emit .done
    patch here (.fork (here + 1) (leave + 1))
    buildAny rest
    patch leave (.jump (← position))

end

/-- The automaton of a sequence of parts. -/
def ofNodes (nodes : List Node) : Except Fault Automaton := do
  let ((), steps) ← (do buildAll nodes; emit .done : Build Unit).run #[]
  .ok ⟨steps⟩

/-- Goes on with the ways still open, the last opened first; the end of the match if there is
one. `fuel` bounds the number of ways. -/
def run (a : Automaton) (isWordChar : Char → Bool) (text : Array Char)
    (stack : List (Nat × Nat)) (visited : Array Bool) (start : Nat) :
    Nat → Option Nat × Array Bool
  | 0 => (none, visited)
  | fuel + 1 =>
    match stack with
    | [] => (none, visited)
    | (pc, ix) :: stack =>
      let place := pc * (text.size + 1 - start) + (ix - start)
      if visited.getD place true then run a isWordChar text stack visited start fuel
      else
        let visited := visited.setIfInBounds place true
        let one (matched : Char → Bool) : List (Nat × Nat) :=
          match text[ix]? with
          | some c => if matched c then (pc + 1, ix + 1) :: stack else stack
          | none => stack
        match a.steps.getD pc .done with
        | .done => (some ix, visited)
        | .any => run a isWordChar text (one fun _ ↦ true) visited start fuel
        | .anyButNewline => run a isWordChar text (one (· ≠ '\n')) visited start fuel
        | .char c => run a isWordChar text (one (· = c)) visited start fuel
        | .set s => run a isWordChar text (one fun c ↦ s.contains c.toNat) visited start fuel
        | .assertion p =>
          let before := if ix = 0 then none else text[ix - 1]?
          let stack := if p.holds isWordChar before text[ix]? then (pc + 1, ix) :: stack else stack
          run a isWordChar text stack visited start fuel
        | .jump target => run a isWordChar text ((target, ix) :: stack) visited start fuel
        | .fork x y => run a isWordChar text ((x, ix) :: (y, ix) :: stack) visited start fuel

/-- The end of the preferred match that begins at a place. -/
def matchAt? (a : Automaton) (isWordChar : Char → Bool) (text : Array Char) (start : Nat) :
    Option Nat :=
  let places := a.steps.size * (text.size + 1 - start)
  (run a isWordChar text [(0, start)] (Array.replicate places false) start (2 * places + 2)).1

/-- Whether the automaton matches at some place from `start` on. -/
def findFrom (a : Automaton) (isWordChar : Char → Bool) (text : Array Char)
    (visited : Array Bool) (start : Nat) : Nat → Bool
  | 0 => false
  | fuel + 1 =>
    let places := a.steps.size * (text.size + 1)
    match run a isWordChar text [(0, start)] visited 0 (2 * places + 2) with
    | (some _, _) => true
    | (none, visited) => findFrom a isWordChar text visited (start + 1) fuel

/-- Whether the automaton matches some part of a text. -/
def isMatch (a : Automaton) (isWordChar : Char → Bool) (text : Array Char) : Bool :=
  let places := a.steps.size * (text.size + 1)
  findFrom a isWordChar text (Array.replicate places false) 0 (text.size + 1)

end Automaton

end EtcdBackup.Pattern
