import EtcdBackup.Pattern.Program

/-!
# The backtracking machine

The machine runs a program against a text. Where a program may go on in two ways it takes the
first and keeps the other, with the slots as they are, for the case that the first fails. After a
million such returns, or with a million ways kept, it gives up.
-/

set_option autoImplicit false
set_option relaxedAutoImplicit false

namespace EtcdBackup.Pattern

/-- The answer of a search. -/
inductive Outcome
  | matched
  | unmatched
  | gaveUp
  deriving DecidableEq, Repr

namespace Machine

/-- What the machine remembers along a way: the slots, and how many ways were kept when each of
the atomic groups still open began. -/
structure Memory where
  slots : Array (Option Nat)
  atomics : List Nat
  deriving Inhabited

/-- A way that was kept: where to go on in the program and in the text. -/
structure Branch where
  pc : Nat
  ix : Nat
  memory : Memory

/-- The ways kept, the latest first, and their number. -/
structure Stack where
  branches : List Branch := []
  size : Nat := 0

/-- The number of returns after which the machine gives up. -/
def backtrackLimit : Nat := 1000000

/-- The number of ways that can be kept. -/
def stackLimit : Nat := 1000000

/-- What an instruction leads to. -/
inductive Move
  | go (pc ix : Nat) (memory : Memory)
  /-- On at `pc`, and later perhaps at `other`. -/
  | fork (pc : Nat) (memory : Memory) (other : Nat)
  | fail
  | finish
  /-- Drops the ways kept beyond a number. -/
  | cut (count : Nat) (memory : Memory)
  /-- Drops the ways kept since the one that goes on at `pc`, which is dropped too. -/
  | failLook (pc : Nat)

/-- The content of a slot. -/
def Memory.get (m : Memory) (slot : Nat) : Option Nat := (m.slots.getD slot none)

/-- Writes a slot. -/
def Memory.set (m : Memory) (slot : Nat) (value : Nat) : Memory :=
  { m with slots := m.slots.setIfInBounds slot (some value) }

/-- Whether characters stand at a place of the text. -/
def standsAt (text : Array Char) (ix : Nat) : List Char → Bool
  | [] => true
  | c :: rest => text[ix]? = some c && standsAt text (ix + 1) rest

/-- Whether the text between two places stands at a third. -/
def repeats (text : Array Char) (start ix : Nat) : Nat → Bool
  | 0 => true
  | n + 1 =>
    match text[ix]? with
    | some c => text[start]? = some c && repeats text (start + 1) (ix + 1) n
    | none => false

/-- The effect of an instruction. -/
def step (isWordChar : Char → Bool) (text : Array Char) (kept pc ix : Nat) (m : Memory) :
    Inst → Move
  | .finish => .finish
  | .any => if ix < text.size then .go (pc + 1) (ix + 1) m else .fail
  | .anyButNewline =>
    match text[ix]? with
    | some c => if c = '\n' then .fail else .go (pc + 1) (ix + 1) m
    | none => .fail
  | .text cs => if standsAt text ix cs then .go (pc + 1) (ix + cs.length) m else .fail
  | .assertion a =>
    let before := if ix = 0 then none else text[ix - 1]?
    if a.holds isWordChar before text[ix]? then .go (pc + 1) ix m else .fail
  | .split first second => .fork first m second
  | .jump target => .go target ix m
  | .save slot => .go (pc + 1) ix (m.set slot ix)
  | .saveZero slot => .go (pc + 1) ix (m.set slot 0)
  | .restore slot =>
    match m.get slot with
    | some ix => .go (pc + 1) ix m
    | none => .fail
  | .again greedy low high next slot =>
    let count := (m.get slot).getD 0
    if some count = high then .go next ix m
    else
      let m := m.set slot (count + 1)
      if low ≤ count then
        if greedy then .fork (pc + 1) m next else .fork next m (pc + 1)
      else .go (pc + 1) ix m
  | .againUnlessEmpty greedy low next slot check =>
    let count := (m.get slot).getD 0
    if 0 < count ∧ m.get check = some ix then .fail
    else
      let m := m.set slot (count + 1)
      if low ≤ count then
        let m := m.set check ix
        if greedy then .fork (pc + 1) m next else .fork next m (pc + 1)
      else .go (pc + 1) ix m
  | .goBack count => if count ≤ ix then .go (pc + 1) (ix - count) m else .fail
  | .failLook => .failLook (pc + 1)
  | .backref slot =>
    match m.get slot, m.get (slot + 1) with
    | some start, some stop =>
      if repeats text start ix (stop - start) then .go (pc + 1) (ix + (stop - start)) m else .fail
    | _, _ => .fail
  | .groupMatched group => if (m.get (2 * group)).isSome then .go (pc + 1) ix m else .fail
  | .beginAtomic => .go (pc + 1) ix { m with atomics := kept :: m.atomics }
  | .endAtomic =>
    match m.atomics with
    | [] => .go (pc + 1) ix m
    | count :: rest => .cut count { m with atomics := rest }
  | .searchStart => if ix = 0 then .go (pc + 1) ix m else .fail
  | .automaton a =>
    match a.steps.toList with
    | [.set s, .done] =>
      match text[ix]? with
      | some c => if s.contains c.toNat then .go (pc + 1) (ix + 1) m else .fail
      | none => .fail
    | _ =>
      match a.matchAt? isWordChar text ix with
      | some ix => .go (pc + 1) ix m
      | none => .fail

/-- The ways kept below one that goes on at `pc`. -/
def dropThrough (pc : Nat) : List Branch → Nat → List Branch × Nat
  | [], n => ([], n)
  | b :: rest, n => if b.pc = pc then (rest, n - 1) else dropThrough pc rest (n - 1)

/-- Runs a program; `returns` counts the returns so far, and `fuel` bounds the steps. -/
def run (insts : Array Inst) (isWordChar : Char → Bool) (text : Array Char)
    (pc ix : Nat) (m : Memory) (stack : Stack) (returns : Nat) : Nat → Outcome
  | 0 => .gaveUp
  | fuel + 1 =>
    let back (stack : Stack) : Outcome :=
      match stack.branches with
      | [] => .unmatched
      | b :: rest =>
        if backtrackLimit ≤ returns then .gaveUp
        else
          run insts isWordChar text b.pc b.ix b.memory ⟨rest, stack.size - 1⟩ (returns + 1) fuel
    match step isWordChar text stack.size pc ix m (insts.getD pc .finish) with
    | .go pc ix m => run insts isWordChar text pc ix m stack returns fuel
    | .fork pc m other =>
      if stack.size < stackLimit then
        run insts isWordChar text pc ix m ⟨⟨other, ix, m⟩ :: stack.branches, stack.size + 1⟩
          returns fuel
      else .gaveUp
    | .finish => .matched
    | .cut count m =>
      let stack := ⟨stack.branches.drop (stack.size - count), min stack.size count⟩
      run insts isWordChar text (pc + 1) ix m stack returns fuel
    | .failLook target =>
      let (branches, size) := dropThrough target stack.branches stack.size
      back ⟨branches, size⟩
    | .fail => back stack

/-- The bound on the number of steps of a run. -/
def stepLimit : Nat := 1000000000000

/-- Searches a text. -/
def search (p : Program) (isWordChar : Char → Bool) (text : Array Char) : Outcome :=
  run p.insts isWordChar text 0 0 ⟨Array.replicate p.slots none, []⟩ {} 0 stepLimit

end Machine

end EtcdBackup.Pattern
