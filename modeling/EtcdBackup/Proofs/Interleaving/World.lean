import EtcdBackup.Controller.Pass
import EtcdBackup.Proofs.Course
import EtcdBackup.Proofs.Interleaving.Store
import Mathlib.Logic.Function.Basic

/-!
# Passes that run at the same time

A world is a store with the passes under way. It changes by one event at a time (`Step`): a pass
starts, a pass gets the answer to one request, or somebody else creates, edits or removes a
record. So the passes interleave at the single request, in any order, and a pass may stop for
good at any of them. A run is any sequence of events (`Run`), and nothing is assumed of the answers
of the surroundings but what `Store.Gives` says of the store.

The exchanges that a pass had are those of its events (`Run.past_eq`), so what is known of the
courses of a pass is known of the events of a run.
-/

set_option autoImplicit false
set_option relaxedAutoImplicit false

namespace EtcdBackup.Interleaving

open Dialogue

/-- A pass under way. -/
structure Thread where
  ctx : Context
  /-- The name of the record that the pass is over. -/
  name : String
  /-- The exchanges that it had. -/
  past : List (Exchange Calls)
  /-- What is left of it. -/
  rest : Job (Except Error Action)
  course : (Pass.reconcile ctx name).Leads past rest

namespace Thread

/-- A pass that has not asked anything. -/
def start (ctx : Context) (name : String) : Thread :=
  ⟨ctx, name, [], Pass.reconcile ctx name, .rest _⟩

/-- The pass after more exchanges. -/
def goOn (th : Thread) {es : List (Exchange Calls)} {rest : Job (Except Error Action)}
    (h : th.rest.Leads es rest) : Thread :=
  ⟨th.ctx, th.name, th.past ++ es, rest, th.course.trans h⟩

/-- The second pass is the first one after more exchanges. -/
structure GoesOn (th : Thread) (es : List (Exchange Calls)) (th' : Thread) : Prop where
  ctx : th'.ctx = th.ctx
  name : th'.name = th.name
  past : th'.past = th.past ++ es
  rest : th.rest.Leads es th'.rest

theorem goesOn_goOn (th : Thread) {es : List (Exchange Calls)} {rest : Job (Except Error Action)}
    (h : th.rest.Leads es rest) : th.GoesOn es (th.goOn h) :=
  ⟨rfl, rfl, rfl, h⟩

theorem GoesOn.refl (th : Thread) : th.GoesOn [] th :=
  ⟨rfl, rfl, (List.append_nil _).symm, .rest _⟩

theorem GoesOn.trans {th middle last : Thread} {es es' : List (Exchange Calls)}
    (first : th.GoesOn es middle) (second : middle.GoesOn es' last) :
    th.GoesOn (es ++ es') last where
  ctx := second.ctx.trans first.ctx
  name := second.name.trans first.name
  past := by rw [second.past, first.past, List.append_assoc]
  rest := first.rest.trans second.rest

end Thread

/-- A store and the passes under way, by number. -/
structure World where
  store : Store
  threads : Nat → Option Thread

namespace World

/-- The world before any pass. -/
def start (store : Store) : World := ⟨store, fun _ ↦ none⟩

/-- The world with another state of a pass. -/
def withThread (w : World) (id : Nat) (th : Thread) : World :=
  { w with threads := Function.update w.threads id (some th) }

/-- The world with another store. -/
def withStore (w : World) (store : Store) : World := { w with store := store }

variable (w : World)

@[simp] theorem threads_withThread (id other : Nat) (th : Thread) :
    (w.withThread id th).threads other = if id = other then some th else w.threads other := by
  by_cases h : id = other
  · subst h
    simp [withThread]
  · simp [withThread, h, Function.update_of_ne (Ne.symm h)]

theorem threads_withThread_self (id : Nat) (th : Thread) :
    (w.withThread id th).threads id = some th := by
  simp

@[simp] theorem threads_withStore (store : Store) : (w.withStore store).threads = w.threads := rfl

end World

/-- What happens in a world. -/
inductive Event
  | started (id : Nat) (ctx : Context) (name : String)
  /-- A pass asks a request that has no effect on the store. -/
  | asked (id : Nat) (exchange : Exchange Calls)
  /-- The status of a record given by a pass is written over the stored record. -/
  | committed (id : Nat) (given : Record) (answer : Except Error Unit) (before after : Record)
  /-- A record is deleted for a pass. -/
  | deleted (id : Nat) (name : String) (answer : Except Error Unit)
  /-- Somebody else creates a record. -/
  | created (record : Record)
  /-- Somebody else changes a record. -/
  | edited (before after : Record)
  /-- Somebody else removes a record. -/
  | removed (name : String)

namespace Event

/-- The exchange that a pass has by an event. -/
def exchange? (id : Nat) : Event → Option (Exchange Calls)
  | .asked other exchange => if other = id then some exchange else none
  | .committed other given answer _ _ =>
    if other = id then some ⟨.updateStatus given, answer⟩ else none
  | .deleted other name answer => if other = id then some ⟨.delete name, answer⟩ else none
  | _ => none

/-- The exchanges that a pass has by some events. -/
def exchanges (id : Nat) (events : List Event) : List (Exchange Calls) :=
  events.filterMap (exchange? id)

/-- The record that an event puts into the store. -/
def record? : Event → Option Record
  | .committed _ _ _ _ after | .created after | .edited _ after => some after
  | _ => none

/-- The record of the name is written or taken away. -/
def Touches (name : String) : Event → Prop
  | .committed _ _ _ _ r | .created r | .edited _ r => r.name = name
  | .deleted _ other _ | .removed other => other = name
  | _ => False

/-- A record of the name is created. -/
def Creates (name : String) : Event → Prop
  | .created r => r.name = name
  | _ => False

/-- Nobody but the passes gives the record of the name another status. -/
def LeavesStatus (name : String) : Event → Prop
  | .created r => r.name = name → r.status = none
  | .edited before after => before.name = name → after.status = before.status
  | _ => True

end Event

/-- One event changes a world into another. -/
inductive Step : World → Event → World → Prop
  | started {w : World} {id : Nat} (ctx : Context) (name : String) (unused : w.threads id = none) :
      Step w (.started id ctx name) (w.withThread id (.start ctx name))
  | asked {w : World} {id : Nat} {th : Thread} (thread : w.threads id = some th) {c : Call}
      {answer : c.Answer} (gives : w.store.Gives c answer) {rest : Job (Except Error Action)}
      (next : th.rest.Leads [⟨c, answer⟩] rest) :
      Step w (.asked id ⟨c, answer⟩) (w.withThread id (th.goOn next))
  /-- The version that was given has to be the one that is stored. -/
  | committed {w : World} {id : Nat} {th : Thread} (thread : w.threads id = some th)
      {given before after : Record} (stored : w.store.get? given.name = some before)
      (current : given.version = before.version) (overwritten : Overwritten given before after)
      (fresh : w.store.IsFresh after) {answer : Except Error Unit}
      {rest : Job (Except Error Action)}
      (next : th.rest.Leads [⟨.updateStatus given, answer⟩] rest) :
      Step w (.committed id given answer before after)
        ((w.withStore (w.store.put after fresh)).withThread id (th.goOn next))
  | deleted {w : World} {id : Nat} {th : Thread} (thread : w.threads id = some th) {name : String}
      {answer : Except Error Unit} {rest : Job (Except Error Action)}
      (next : th.rest.Leads [⟨.delete name, answer⟩] rest) :
      Step w (.deleted id name answer)
        ((w.withStore (w.store.remove name)).withThread id (th.goOn next))
  | created {w : World} {r : Record} (absent : w.store.get? r.name = none)
      (fresh : w.store.IsFresh r) : Step w (.created r) (w.withStore (w.store.put r fresh))
  | edited {w : World} {before after : Record} (stored : w.store.get? before.name = some before)
      (name : after.name = before.name) (fresh : w.store.IsFresh after) :
      Step w (.edited before after) (w.withStore (w.store.put after fresh))
  | removed {w : World} (name : String) :
      Step w (.removed name) (w.withStore (w.store.remove name))

/-- Events that follow one another. -/
inductive Run : World → List Event → World → Prop
  | nil (w : World) : Run w [] w
  | cons {w middle last : World} {e : Event} {events : List Event} :
      Step w e middle → Run middle events last → Run w (e :: events) last

namespace Run

variable {w middle last : World} {e : Event} {events later : List Event}

theorem single (h : Step w e last) : Run w [e] last := .cons h (.nil _)

theorem trans (first : Run w events middle) (second : Run middle later last) :
    Run w (events ++ later) last := by
  induction first with
  | nil => exact second
  | cons step _ ih => exact .cons step (ih second)

theorem snoc (first : Run w events middle) (step : Step middle e last) :
    Run w (events ++ [e]) last :=
  first.trans (.single step)

/-- The world between the first and the second part of a run. -/
theorem exists_of_append (h : Run w (events ++ later) last) :
    ∃ middle, Run w events middle ∧ Run middle later last := by
  induction events generalizing w with
  | nil => exact ⟨w, .nil w, h⟩
  | cons e events ih =>
    cases h with
    | cons step h =>
      obtain ⟨middle, first, second⟩ := ih h
      exact ⟨middle, .cons step first, second⟩

/-- The worlds before and after an event of a run. -/
theorem exists_step (h : Run w (events ++ e :: later) last) :
    ∃ before after, Run w events before ∧ Step before e after ∧ Run after later last := by
  obtain ⟨before, first, second⟩ := h.exists_of_append
  cases second with
  | cons step second => exact ⟨before, _, first, step, second⟩

/-- What every event of some kind preserves, with all that happened until then, holds after a run of
such events. -/
theorem preserves {I : List Event → World → Prop} {p : Event → Prop}
    (step : ∀ {past w e w'}, Step w e w' → p e → I past w → I (past ++ [e]) w')
    (h : Run w events last) (hp : ∀ e ∈ events, p e) {past : List Event} (hw : I past w) :
    I (past ++ events) last := by
  induction h generalizing past with
  | nil => rwa [List.append_nil]
  | cons hstep _ ih =>
    rw [List.append_cons]
    exact ih (fun e he ↦ hp e (List.mem_cons_of_mem _ he))
      (step hstep (hp _ List.mem_cons_self) hw)

end Run

end EtcdBackup.Interleaving
