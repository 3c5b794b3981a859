import EtcdBackup.Pattern.Automaton
import EtcdBackup.Pattern.Parser

/-!
# Programs of hard patterns

A hard pattern becomes a list of instructions for a machine that backtracks. Parts that are not
hard are left to automata: as a whole where nothing behind them can ask for another way to match
them, and otherwise as far as their size is constant. Places in the text and counts are kept in
numbered slots; the slots `2 n` and `2 n + 1` hold the ends of group `n`.
-/

set_option autoImplicit false
set_option relaxedAutoImplicit false

namespace EtcdBackup.Pattern

/-- An instruction of the backtracking machine. -/
inductive Inst
  | finish
  | any
  | anyButNewline
  | text (cs : List Char)
  | assertion (a : Assertion)
  /-- Two ways on: the first is taken, the second kept. -/
  | split (first second : Nat)
  | jump (target : Nat)
  /-- Keeps the place in a slot. -/
  | save (slot : Nat)
  | saveZero (slot : Nat)
  /-- Goes back to the place in a slot. -/
  | restore (slot : Nat)
  /-- Another round of a counted repetition, or on to `next`. -/
  | again (greedy : Bool) (low : Nat) (high : Option Nat) (next slot : Nat)
  /-- Another round of a repetition whose rounds may be empty; two empty rounds in a row fail. -/
  | againUnlessEmpty (greedy : Bool) (low next slot check : Nat)
  | goBack (count : Nat)
  /-- Gives up what a look-around kept, and the way it was on. -/
  | failLook
  | backref (slot : Nat)
  | groupMatched (group : Nat)
  | beginAtomic
  | endAtomic
  | searchStart
  | automaton (a : Automaton)

/-- A program and the number of its slots. -/
structure Program where
  insts : Array Inst
  slots : Nat
  deriving Inhabited

namespace Program

/-- What the builder has so far. -/
structure Draft where
  insts : Array Inst := #[]
  slots : Nat

/-- The monad that appends instructions. -/
abbrev Build : Type → Type := StateT Draft (Except Fault)

/-- The number of the next instruction. -/
def position : Build Nat := return (← get).insts.size

/-- Appends an instruction. -/
def emit (i : Inst) : Build Unit := modify fun d ↦ { d with insts := d.insts.push i }

/-- Replaces the instruction with a number. -/
def patch (n : Nat) (i : Inst) : Build Unit :=
  modify fun d ↦ { d with insts := d.insts.setIfInBounds n i }

/-- A slot not used yet. -/
def newSlot : Build Nat := modifyGet fun d ↦ (d.slots, { d with slots := d.slots + 1 })

/-- Leaves a sequence of parts to an automaton, or to a comparison if they are plain text. -/
def delegate (parts : List Node) : Build Unit :=
  if parts.isEmpty then pure ()
  else
    match Node.plainTexts? parts with
    | some cs => emit (.text cs)
    | none =>
      match Automaton.ofNodes parts with
      | .ok a => emit (.automaton a)
      | .error e => throw e

/-- Several ways in the order of preference. -/
def alternatives : List (Build Unit) → Build Unit
  | [] => pure ()
  | [last] => last
  | first :: rest => do
    let here ← position
    emit .finish
    first
    let leave ← position
    emit .finish
    patch here (.split (here + 1) (leave + 1))
    alternatives rest
    patch leave (.jump (← position))

/-- A repeated part; `least` is the least size of a round. -/
def repetition (least low : Nat) (high : Option Nat) (greedy : Bool) (round : Build Unit) :
    Build Unit := do
  let choice (on leave : Nat) : Inst := if greedy then .split on leave else .split leave on
  if low = 0 ∧ high = some 1 then
    let here ← position
    emit .finish
    round
    patch here (choice (here + 1) (← position))
  else if high.isNone ∧ least = 0 then
    let slot ← newSlot
    let check ← newSlot
    emit (.saveZero slot)
    let here ← position
    emit .finish
    round
    emit (.jump here)
    patch here (.againUnlessEmpty greedy low (← position) slot check)
  else if low = 0 ∧ high.isNone then
    let here ← position
    emit .finish
    round
    emit (.jump here)
    patch here (choice (here + 1) (← position))
  else if low = 1 ∧ high.isNone then
    let here ← position
    round
    let next := (← position) + 1
    emit (choice here next)
  else
    let slot ← newSlot
    emit (.saveZero slot)
    let here ← position
    emit .finish
    round
    emit (.jump here)
    patch here (.again greedy low high (← position) slot)

/-- Looks around for something of a shape. -/
def lookInner (kind : Look) (shape : Shape) (inner : Build Unit) : Build Unit := do
  if kind.isBehind then
    if ¬shape.constant then throw Fault.lookBehindNotConstant
    emit (.goBack shape.least)
  inner

/-- Looks around for something that has to match, or must not. -/
def lookAround (kind : Look) (shape : Shape) (inner : Build Unit) : Build Unit := do
  if kind.isNegative then
    let here ← position
    emit .finish
    lookInner kind shape inner
    emit .failLook
    patch here (.split (here + 1) (← position))
  else
    let slot ← newSlot
    emit (.save slot)
    lookInner kind shape inner
    emit (.restore slot)

/-- A conditional; the condition is not asked again once it held. -/
def conditional (condition yes no : Build Unit) : Build Unit := do
  emit .beginAtomic
  let split ← position
  emit .finish
  condition
  emit .endAtomic
  yes
  let leave ← position
  emit .finish
  patch split (.split (split + 1) (leave + 1))
  no
  patch leave (.jump (← position))

/-- A part of a sequence: its node, its shape, and how to build it. -/
structure Part where
  node : Node
  shape : Shape
  build : Bool → Build Unit

/-- A sequence of parts: a front of constant size and a back that is not hard are left to
automata; where something hard follows, only a back of constant size. -/
def sequence (hard : Bool) (parts : List Part) : Build Unit := do
  let steady (p : Part) : Bool := p.shape.constant && !p.shape.hard
  let front := parts.takeWhile steady
  let rest := parts.dropWhile steady
  let easy (p : Part) : Bool := if hard then steady p else !p.shape.hard
  let back := (rest.reverse.takeWhile easy).reverse
  let middle := rest.take (rest.length - back.length)
  delegate (front.map (·.node))
  middle.forM fun p ↦ p.build true
  delegate (back.map (·.node))

mutual

/-- Appends the instructions of a part; `hard` tells that something behind it may ask for another
way to match it. -/
def build (referenced : List Nat) (node : Node) (hard : Bool) : Build Unit :=
  let shape := node.shape referenced
  if ¬hard ∧ ¬shape.hard then delegate [node]
  else
    match node with
    | .empty => pure ()
    | .literal c ignoreCase =>
      if ignoreCase then delegate [.literal c ignoreCase] else emit (.text [c])
    | .any newline => emit (if newline then .any else .anyButNewline)
    | .set chars => delegate [.set chars]
    | .assertion a => emit (.assertion a)
    | .concat parts => sequence hard (partsOf referenced parts)
    | .alt choices => alternatives ((partsOf referenced choices).map fun p ↦ p.build hard)
    | .group index child => do
      emit (.save (2 * index))
      build referenced child hard
      emit (.save (2 * index + 1))
    | .look kind child =>
      let inner := child.shape referenced
      let parts := match child with
        | .alt choices =>
          if kind.isBehind ∧ ¬inner.constant then partsOf referenced choices else []
        | _ => []
      if parts.isEmpty then lookAround kind inner (build referenced child false)
      else
        let each := parts.map fun p ↦ lookAround kind p.shape (p.build false)
        if kind.isNegative then each.forM id else alternatives each
    | .repeated child low high greedy =>
      let single := low = 0 ∧ high = some 1
      let within := if single then hard else hard || shape.hard
      repetition (child.shape referenced).least low high greedy (build referenced child within)
    | .backref group => emit (.backref (2 * group))
    | .groupMatched group => emit (.groupMatched group)
    | .atomic child => do
      emit .beginAtomic
      build referenced child false
      emit .endAtomic
    | .keepOut => emit (.save 0)
    | .searchStart => emit .searchStart
    | .conditional condition yes no =>
      conditional (build referenced condition hard) (build referenced yes hard)
        (build referenced no hard)

/-- The parts of a sequence or choice. -/
def partsOf (referenced : List Nat) : List Node → List Part
  | [] => []
  | node :: rest =>
    ⟨node, node.shape referenced, build referenced node⟩ :: partsOf referenced rest

end

/-- The program that searches a text for a pattern from its start on. -/
def ofParsed (p : Parsed) : Except Fault Program := do
  let search : Build Unit := do
    repetition 1 0 none false (emit .any)
    emit (.save 0)
    build p.referenced p.node true
    emit (.save 1)
    emit .finish
  let ((), draft) ← search.run { slots := 2 * (p.groups + 1) }
  .ok ⟨draft.insts, draft.slots⟩

end Program

end EtcdBackup.Pattern
