import EtcdBackup.Proofs.Interleaving.Commit

/-!
# What every decision keeps

While only passes write the status of a request, each of its statuses was decided on from the one
before it. So a property of statuses that a fresh request has, and that every decision keeps
(`IsKept`), holds of every status that is ever written (`IsKept.of_committed`), whatever
interleaves. The decisions may be those of passes with some contexts only.
-/

set_option autoImplicit false
set_option relaxedAutoImplicit false

namespace EtcdBackup.Interleaving

open Dialogue

variable {store : Store} {events past later : List Event} {u w w' : World} {e : Event} {id : Nat}
  {before after given : Record} {answer : Except Error Unit} {name : String}
  {allowed : Context → Prop} {p : Status → Prop}

/-- The pass of a commit was started over the request that it writes to. -/
theorem Run.exists_started
    (run : Run (.start store) (past ++ .committed id given answer before after :: later) w) :
    ∃ ctx, .started id ctx after.name ∈ past := by
  obtain ⟨u, v, first, step, -⟩ := run.exists_step
  cases step.commitOf (first.isHeard (World.isHeard_start store)) with
  | @intro th current now es decision status _ thread _ hread decided hstatus same stored
      overwritten =>
    subst overwritten
    obtain ⟨-, started⟩ := first.past_eq thread
    rw [← Store.name_eq_of_get? stored] at started
    exact ⟨th.ctx, started⟩

/-- Fresh requests have the property, and what a pass with an allowed context decides to write has
it if the status that was read has it. -/
structure IsKept (allowed : Context → Prop) (p : Status → Prop) : Prop where
  fresh : p {}
  decided : ∀ {ctx current now es decision next}, allowed ctx →
    Pass.Decided ctx current now es decision → decision.status? = some next →
      p (current.status.getD {}) → p next

/-- Every status that a record of the name ever had has the property. -/
structure Upholds (name : String) (p : Status → Prop) (past : List Event) (w : World) : Prop where
  heard : w.IsHeard
  traced : w.IsTraced past
  holds : ∀ r ∈ w.store.log, r.name = name → p (r.status.getD {})

theorem IsKept.upholds_start (kept : IsKept allowed p)
    (unwritten : ∀ r ∈ store.log, r.name = name → r.status = none) :
    Upholds name p [] (.start store) where
  heard := World.isHeard_start store
  traced := World.isTraced_start store
  holds r hr hname := by
    rw [unwritten r hr hname]
    exact kept.fresh

/-- A commit keeps the property. -/
theorem IsKept.of_commitOf (kept : IsKept allowed p) (hw : Upholds name p past w)
    (contexts : ∀ id ctx, .started id ctx name ∈ past → allowed ctx)
    (h : CommitOf w id before after) (hname : after.name = name) : p (after.status.getD {}) := by
  cases h with
  | @intro th current now es decision status _ thread _ hread decided hstatus same stored
      overwritten =>
    subst overwritten
    have hthread : th.name = name := (Store.name_eq_of_get? stored).symm.trans hname
    have started := hw.traced.started id th thread
    rw [hthread] at started
    exact kept.decided (contexts id th.ctx started) (Pass.decided_of_leads decided) hstatus
      (hw.holds current hread.1 (hread.2.trans hthread))

theorem IsKept.upholds_step (kept : IsKept allowed p) (h : Step w e w')
    (leaves : e.LeavesStatus name)
    (contexts : ∀ id ctx, .started id ctx name ∈ past → allowed ctx) (hw : Upholds name p past w) :
    Upholds name p (past ++ [e]) w' := by
  refine ⟨h.isHeard hw.heard, h.isTraced hw.traced, fun r hr hname ↦ ?_⟩
  rcases h.log_cases leaves hr hname with ⟨id, given, answer, before, rfl⟩ | unwritten |
    ⟨old, hold, hname', same⟩
  · exact kept.of_commitOf hw contexts (h.commitOf hw.heard) hname
  · rw [unwritten]
    exact kept.fresh
  · rw [same]
    exact hw.holds old hold hname'

theorem IsKept.upholds_run (kept : IsKept allowed p) (run : Run (.start store) past u)
    (unwritten : ∀ r ∈ store.log, r.name = name → r.status = none)
    (leaves : ∀ e ∈ past, e.LeavesStatus name)
    (contexts : ∀ id ctx, .started id ctx name ∈ past → allowed ctx) :
    Upholds name p past u := by
  -- The contexts are those of all events so far, so they go along with the property.
  let Invariant (past : List Event) (w : World) : Prop :=
    (∀ id ctx, .started id ctx name ∈ past → allowed ctx) ∧ Upholds name p past w
  have hstart : Invariant [] (.start store) := ⟨nofun, kept.upholds_start unwritten⟩
  have hstep {past : List Event} {w : World} {e : Event} {w' : World} (step : Step w e w')
      (he : e.LeavesStatus name ∧ ∀ id ctx, e = .started id ctx name → allowed ctx)
      (hw : Invariant past w) : Invariant (past ++ [e]) w' := by
    refine ⟨fun id ctx hmem ↦ ?_, kept.upholds_step step he.1 hw.1 hw.2⟩
    rcases List.mem_append.1 hmem with hmem | hmem
    · exact hw.1 id ctx hmem
    · exact he.2 id ctx (List.mem_singleton.1 hmem).symm
  have hrun := run.preserves hstep
    (fun e he ↦ ⟨leaves e he, fun id ctx heq ↦ contexts id ctx (heq ▸ he)⟩) hstart
  exact hrun.2

/-- What every decision keeps holds of every status that is written. -/
theorem IsKept.of_committed (kept : IsKept allowed p) (run : Run (.start store) events w)
    (unwritten : ∀ r ∈ store.log, r.name = name → r.status = none)
    (leaves : ∀ e ∈ events, e.LeavesStatus name)
    (contexts : ∀ id ctx, .started id ctx name ∈ events → allowed ctx)
    (hevents : events = past ++ .committed id given answer before after :: later)
    (hname : after.name = name) : ∃ status, after.status = some status ∧ p status := by
  subst hevents
  obtain ⟨u, v, first, step, -⟩ := run.exists_step
  have hcontexts : ∀ id ctx, .started id ctx name ∈ past → allowed ctx :=
    fun id ctx hmem ↦ contexts id ctx (List.mem_append_left _ hmem)
  have hu := kept.upholds_run first unwritten
    (fun e he ↦ leaves e (List.mem_append_left _ he)) hcontexts
  obtain ⟨status, hstatus⟩ := step.exists_status hu.heard
  have hp := kept.of_commitOf hu hcontexts (step.commitOf hu.heard) hname
  rw [hstatus] at hp
  exact ⟨status, hstatus, hp⟩

end EtcdBackup.Interleaving
