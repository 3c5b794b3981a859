import EtcdBackup.Proofs.Controller.Progress
import EtcdBackup.Proofs.Interleaving.Solo

/-!
# Checkpoints

A pass only works on a target whose sub-status it read as running, and only an earlier write of a
pass can have put that there. A sub-status that is done is never touched again, and no pass that
reads it works on the target once more. All of this rests on one invariant of the runs in which
only passes write the status of a record (`Accounted`): every status that was stored is sound, and
is the work of a pass. So every write adds to what it replaces (`CommitOf.grows`), over any number
of writes (`Run.status_grows`), whatever else happens to the targets in between.
-/

set_option autoImplicit false
set_option relaxedAutoImplicit false

namespace EtcdBackup.Interleaving

open Dialogue

variable {store : Store} {events past mid later : List Event} {u v w w' : World} {e : Event}
  {id : Nat} {before after given : Record} {answer : Except Error Unit} {name : String}
  {target : Target} {version : Datastore} {opened : Except Error Backupper} {ctx : Context}

/-- A pass gave a record of the name the status. -/
def IsWritten (name : String) (past : List Event) (status : Option Status) : Prop :=
  ∃ id given answer before after, .committed id given answer before after ∈ past ∧
    after.name = name ∧ after.status = status

theorem IsWritten.append {status : Option Status} (h : IsWritten name past status)
    (more : List Event) : IsWritten name (past ++ more) status := by
  obtain ⟨id, given, answer, before, after, hmem, hafter⟩ := h
  exact ⟨id, given, answer, before, after, List.mem_append_left _ hmem, hafter⟩

/-- Every status that a record of the name ever had is sound, and was written by a pass. -/
structure Accounted (name : String) (past : List Event) (w : World) : Prop where
  heard : w.IsHeard
  sound : ∀ r ∈ w.store.log, r.name = name → (r.status.getD {}).Sound
  origin : ∀ r ∈ w.store.log, r.name = name → r.status ≠ none → IsWritten name past r.status

theorem accounted_start (unwritten : ∀ r ∈ store.log, r.name = name → r.status = none) :
    Accounted name [] (.start store) where
  heard := World.isHeard_start store
  sound r hr hname := by
    rw [unwritten r hr hname]
    exact Status.sound_default
  origin r hr hname hstatus := (hstatus (unwritten r hr hname)).elim

/-- A commit adds to the status that it replaces. -/
theorem CommitOf.grows (h : CommitOf w id before after)
    (sound : ∀ r ∈ w.store.log, r.name = after.name → (r.status.getD {}).Sound) :
    (before.status.getD {}).Grows (after.status.getD {}) ∧ (after.status.getD {}).Sound := by
  cases h with
  | intro thread past hread decided hstatus same stored overwritten =>
    subst overwritten
    have hname := hread.2.trans (Store.name_eq_of_get? stored).symm
    rw [same]
    exact (Pass.decided_of_leads decided).grows hstatus (sound _ hread.1 hname)

theorem Step.accounted (h : Step w e w') (leaves : e.LeavesStatus name)
    (hw : Accounted name past w) : Accounted name (past ++ [e]) w' := by
  refine ⟨h.isHeard hw.heard, fun r hr hname ↦ ?_, fun r hr hname hstatus ↦ ?_⟩
  · rcases h.log_cases leaves hr hname with ⟨id, given, answer, before, rfl⟩ | unwritten |
      ⟨old, hold, hname', same⟩
    · exact ((h.commitOf hw.heard).grows fun r hr hr' ↦ hw.sound r hr (hr'.trans hname)).2
    · rw [unwritten]
      exact Status.sound_default
    · rw [same]
      exact hw.sound old hold hname'
  · rcases h.log_cases leaves hr hname with ⟨id, given, answer, before, rfl⟩ | unwritten |
      ⟨old, hold, hname', same⟩
    · exact ⟨id, given, answer, before, r, List.mem_append_right past List.mem_cons_self, hname,
        rfl⟩
    · exact (hstatus unwritten).elim
    · rw [same] at hstatus ⊢
      exact (hw.origin old hold hname' hstatus).append _

theorem Run.accounted (h : Run u mid v) (leaves : ∀ e ∈ mid, e.LeavesStatus name)
    (hu : Accounted name past u) : Accounted name (past ++ mid) v :=
  h.preserves (fun step hleaves hw ↦ step.accounted hleaves hw) leaves hu

/-- What is recorded is only added to while the record is not created anew. -/
theorem Run.status_grows (h : Run u mid v) (hu : Accounted name past u)
    (leaves : ∀ e ∈ mid, e.LeavesStatus name) (kept : ∀ e ∈ mid, ¬e.Creates name)
    {r r' : Record} (hr : u.store.get? name = some r) (hr' : v.store.get? name = some r') :
    (r.status.getD {}).Grows (r'.status.getD {}) := by
  have commits {id : Nat} {given before after : Record} {answer : Except Error Unit}
      (hmem : .committed id given answer before after ∈ mid) (hname : before.name = name) :
      (before.status.getD {}).Grows (after.status.getD {}) := by
    obtain ⟨pre, post, rfl⟩ := List.append_of_mem hmem
    obtain ⟨w, w', first, step, -⟩ := h.exists_step
    have hw := first.accounted (fun e he ↦ leaves e (List.mem_append_left _ he)) hu
    obtain ⟨-, -, hsame⟩ := step.stored_of_committed
    refine ((step.commitOf hw.heard).grows fun r hr hr' ↦ hw.sound r hr ?_).1
    rw [hr', ← hsame, hname]
  exact h.related (R := fun s s' ↦ (s.getD {}).Grows (s'.getD {})) (fun _ ↦ .refl _)
    (fun h₁ h₂ ↦ h₁.trans h₂) commits leaves kept hr hr'

/-- The world after a commit holds the record that was written. -/
theorem Run.exists_committed
    (h : Run (.start store) (past ++ .committed id given answer before after :: later) w)
    (hu : Accounted name [] (.start store))
    (leaves : ∀ e ∈ past ++ [.committed id given answer before after], e.LeavesStatus name)
    (hname : after.name = name) :
    ∃ u status, Run u later w ∧
      Accounted name (past ++ [.committed id given answer before after]) u ∧
      u.store.get? name = some after ∧ after.status = some status := by
  obtain ⟨u, v, first, step, behind⟩ := h.exists_step
  have hu := first.accounted (fun e he ↦ leaves e (List.mem_append_left _ he)) hu
  have hv := step.accounted (leaves _ (List.mem_append_right _ List.mem_cons_self)) hu
  obtain ⟨-, hstored, -⟩ := step.stored_of_committed
  obtain ⟨status, hstatus⟩ := step.exists_status hu.heard
  exact ⟨v, status, behind, hv, hname ▸ hstored, hstatus⟩

/-! ### Two commits -/

/-- The second commit adds to the first one. -/
theorem Run.grows_of_committed {id' : Nat} {given' before' after' : Record}
    {answer' : Except Error Unit}
    (h : Run (.start store) (past ++ .committed id given answer before after ::
      (mid ++ .committed id' given' answer' before' after' :: later)) w)
    (hu : Accounted name [] (.start store))
    (leaves : ∀ e ∈ past ++ .committed id given answer before after ::
      (mid ++ .committed id' given' answer' before' after' :: later), e.LeavesStatus name)
    (hname : after.name = name) (hname' : after'.name = name)
    (kept : ∀ e ∈ mid, ¬e.Creates name) :
    ∃ s s', after.status = some s ∧ after'.status = some s' ∧ s.Grows s' := by
  rw [List.append_cons] at leaves
  obtain ⟨hpast, hlater⟩ := List.forall_mem_append.1 leaves
  obtain ⟨hmid, -⟩ := List.forall_mem_append.1 hlater
  obtain ⟨u, s, behind, hcommitted, hstored, hs⟩ := h.exists_committed hu hpast hname
  obtain ⟨v, v', between, step, -⟩ := behind.exists_step
  obtain ⟨-, hstored', -⟩ := step.stored_of_committed
  rw [hname'] at hstored'
  obtain ⟨s', hs'⟩ := step.exists_status (between.isHeard hcommitted.heard)
  have leaves' : ∀ e ∈ mid ++ [.committed id' given' answer' before' after'],
      e.LeavesStatus name :=
    List.forall_mem_append.2 ⟨hmid, List.forall_mem_singleton.2 trivial⟩
  have kept' : ∀ e ∈ mid ++ [.committed id' given' answer' before' after'], ¬e.Creates name :=
    List.forall_mem_append.2 ⟨kept, List.forall_mem_singleton.2 fun h ↦ h⟩
  have hgrows := (between.snoc step).status_grows hcommitted leaves' kept' hstored hstored'
  rw [hs, hs'] at hgrows
  exact ⟨s, s', hs, hs', hgrows⟩

/-! ### The reading before the work -/

/-- A pass reads its record before it opens a maker of backups, and the sub-status is under way
there. -/
theorem Run.exists_reading
    (h : Run (.start store) (past ++ .asked id ⟨.openBackupper target version, opened⟩ :: later) w)
    (started : .started id ctx name ∈ past) :
    ∃ current, (Event.exchanges id past).head? = some ⟨.get name, .ok current⟩ ∧
      Runner.IsUnderWay ((current.status.getD {}).sub target.name version) := by
  obtain ⟨u, v, first, step, -⟩ := h.exists_step
  obtain ⟨th, th', hth, -, hgoesOn⟩ := step.exists_of_exchange (Event.exchange?_asked id _)
  obtain ⟨hpast, -⟩ := first.past_eq hth
  have hname := first.name_of_started started hth
  obtain ⟨es, result, -, hpassed⟩ :=
    Pass.exists_passed_of_leads (th.course.trans hgoesOn.rest)
  obtain ⟨_, hopens⟩ := hpassed.opensFor
  obtain ⟨-, current, hhead, -, hunderWay⟩ := hopens ⟨.openBackupper target version, opened⟩
    (List.mem_append_left _ (List.mem_append_right _ List.mem_cons_self)) target version rfl
  refine ⟨current, ?_, hunderWay⟩
  rw [hpast, hname] at hhead
  cases hexchanges : Event.exchanges id past with
  | nil =>
    rw [hexchanges] at hhead
    cases hhead
  | cons x es =>
    rw [hexchanges] at hhead
    exact hhead

/-- What is under way in a sound status is recorded as running. -/
theorem exists_running {r : Record} (sound : (r.status.getD {}).Sound)
    (h : Runner.IsUnderWay ((r.status.getD {}).sub target.name version)) :
    ∃ sub, r.sub? target.name version = some sub ∧ sub.state = .running ∧ sub.started.isSome := by
  rw [Status.sub_eq_getD] at h
  rw [← Record.sub?_getD]
  cases hsub : (r.status.getD {}).sub? target.name version with
  | none =>
    rw [hsub] at h
    cases h.2
  | some sub =>
    rw [hsub] at h
    refine ⟨sub, rfl, ?_, h.2⟩
    have hbegun := (sound.begun _ _ sub hsub).state
    have hactive : sub.state.isTerminal = false := h.1
    cases hstate : sub.state <;> rw [hstate] at hbegun hactive <;>
      first | rfl | exact (hbegun rfl).elim | cases hactive

/-- The sub-status was recorded as running by a write that came before the reading. -/
theorem Run.exists_checkpoint
    (h : Run (.start store) (past ++ .asked id ⟨.openBackupper target version, opened⟩ :: later) w)
    (unwritten : ∀ r ∈ store.log, r.name = name → r.status = none)
    (leaves : ∀ e ∈ past, e.LeavesStatus name) (started : .started id ctx name ∈ past) :
    ∃ early current late sub, past = early ++ .asked id ⟨.get name, .ok current⟩ :: late ∧
      Event.exchanges id early = [] ∧ current.sub? target.name version = some sub ∧
      sub.state = .running ∧ sub.started.isSome ∧
      ∃ id given answer before after, .committed id given answer before after ∈ early ∧
        after.name = name ∧ after.sub? target.name version = some sub := by
  obtain ⟨current, hhead, hunderWay⟩ := h.exists_reading started
  obtain ⟨es, hexchanges⟩ := List.head?_eq_some_iff.1 hhead
  obtain ⟨early, e, late, rfl, hearly, hx, -⟩ := Event.exists_of_exchanges_eq [] hexchanges
  obtain rfl := Event.eq_asked_of_get hx
  obtain ⟨u, hu, -⟩ := h.exists_of_append
  obtain ⟨u₀, u₁, first, read, -⟩ := hu.exists_step
  have haccounted := first.accounted (fun e he ↦ leaves e (List.mem_append_left _ he))
    (accounted_start unwritten)
  have hstored := read.get?_of_exchange hx
  have hname := Store.name_eq_of_get? hstored
  have hlog := Store.mem_log_of_get? hstored
  obtain ⟨sub, hsub, hstate, hbegun⟩ :=
    exists_running (haccounted.sound current hlog hname) hunderWay
  have hstatus : current.status ≠ none := by
    intro hnone
    rw [Record.sub?, hnone] at hsub
    cases hsub
  obtain ⟨id', given, answer, before, after, hmem, hafter, hsame⟩ :=
    haccounted.origin current hlog hname hstatus
  refine ⟨early, current, late, sub, rfl, hearly, hsub, hstate, hbegun, id', given, answer, before,
    after, hmem, hafter, ?_⟩
  rw [Record.sub?, hsame]
  exact hsub

/-- A pass that reads a sub-status which is done opens no maker for it. -/
theorem Run.not_opened_again {id' : Nat} {current : Record} {more : List Event} {sub : SubStatus}
    (h : Run (.start store) (past ++ .committed id given answer before after ::
      (mid ++ .asked id' ⟨.get name, .ok current⟩ ::
        (more ++ .asked id' ⟨.openBackupper target version, opened⟩ :: later))) w)
    (hu : Accounted name [] (.start store))
    (leaves : ∀ e ∈ past ++ .committed id given answer before after :: mid, e.LeavesStatus name)
    (hname : after.name = name) (kept : ∀ e ∈ mid, ¬e.Creates name)
    (started : .started id' ctx name ∈ past ++ .committed id given answer before after ::
      (mid ++ .asked id' ⟨.get name, .ok current⟩ :: more))
    (hfirst : Event.exchanges id' (past ++ .committed id given answer before after :: mid) = [])
    (hsub : after.sub? target.name version = some sub) (done : sub.state.isTerminal) : False := by
  have hrun : Run (.start store) ((past ++ .committed id given answer before after ::
      (mid ++ .asked id' ⟨.get name, .ok current⟩ :: more)) ++
        .asked id' ⟨.openBackupper target version, opened⟩ :: later) w := by
    simpa only [List.append_assoc, List.cons_append] using h
  obtain ⟨current', hhead, hunderWay⟩ := hrun.exists_reading started
  -- The reading is the one that came first, after the commit.
  have hsplit : past ++ .committed id given answer before after ::
      (mid ++ .asked id' ⟨.get name, .ok current⟩ :: more) =
        (past ++ .committed id given answer before after :: mid) ++
          .asked id' ⟨.get name, .ok current⟩ :: more := by
    simp only [List.append_assoc, List.cons_append]
  rw [hsplit, Event.head?_exchanges hfirst] at hhead
  cases hhead
  rw [List.append_cons] at leaves
  obtain ⟨hpast, hmid⟩ := List.forall_mem_append.1 leaves
  obtain ⟨u, -, behind, hcommitted, hstored, -⟩ := h.exists_committed hu hpast hname
  obtain ⟨v, v', between, read, -⟩ := behind.exists_step
  have hgrows := between.status_grows hcommitted hmid kept hstored
    (read.get?_of_exchange (Event.exchange?_asked id' _))
  rw [← Record.sub?_getD] at hsub
  have hread := hgrows.sub?_eq hsub done
  have hactive := hunderWay.1
  rw [Status.sub_eq_getD, hread, Option.getD_some, done] at hactive
  cases hactive

/-- What is certain of the work on the targets of the record of a name, by the events of a run. -/
structure Checkpoints (name : String) (events : List Event) : Prop where
  /-- A maker of backups is only opened by a pass whose first reading found the sub-status running,
  which an earlier write had recorded. -/
  recorded : ∀ {past id ctx target version opened later},
    events = past ++ .asked id ⟨.openBackupper target version, opened⟩ :: later →
    .started id ctx name ∈ past →
      ∃ early current late sub, past = early ++ .asked id ⟨.get name, .ok current⟩ :: late ∧
        Event.exchanges id early = [] ∧ current.sub? target.name version = some sub ∧
        sub.state = .running ∧ sub.started.isSome ∧
        ∃ id given answer before after, .committed id given answer before after ∈ early ∧
          after.name = name ∧ after.sub? target.name version = some sub
  /-- A sub-status that is done stays the same in every later write. -/
  final : ∀ {past id given answer before after mid id' given' answer' before' after' later target
      version sub},
    events = past ++ .committed id given answer before after ::
      (mid ++ .committed id' given' answer' before' after' :: later) →
    after.name = name → after'.name = name → (∀ e ∈ mid, ¬e.Creates name) →
    after.sub? target version = some sub → sub.state.isTerminal →
      after'.sub? target version = some sub
  /-- No pass whose first reading comes later opens a maker for it. -/
  unopened : ∀ {past id given answer before after mid id' ctx current more target version opened
      later sub},
    events = past ++ .committed id given answer before after ::
      (mid ++ .asked id' ⟨.get name, .ok current⟩ ::
        (more ++ .asked id' ⟨.openBackupper target version, opened⟩ :: later)) →
    after.name = name → (∀ e ∈ mid, ¬e.Creates name) →
    .started id' ctx name ∈ past ++ .committed id given answer before after ::
      (mid ++ .asked id' ⟨.get name, .ok current⟩ :: more) →
    Event.exchanges id' (past ++ .committed id given answer before after :: mid) = [] →
    after.sub? target.name version = some sub → ¬sub.state.isTerminal
  /-- Every later write adds to what was written. -/
  grows : ∀ {past id given answer before after mid id' given' answer' before' after' later},
    events = past ++ .committed id given answer before after ::
      (mid ++ .committed id' given' answer' before' after' :: later) →
    after.name = name → after'.name = name → (∀ e ∈ mid, ¬e.Creates name) →
      ∃ s s', after.status = some s ∧ after'.status = some s' ∧ s.Grows s'

/-- Work on a target follows a checkpoint and never follows its end, in every run in which only
passes write the status of a record that starts without one. -/
theorem checkpoints (run : Run (.start store) events w)
    (unwritten : ∀ r ∈ store.log, r.name = name → r.status = none)
    (leaves : ∀ e ∈ events, e.LeavesStatus name) : Checkpoints name events := by
  have hstart := accounted_start unwritten
  constructor
  case recorded =>
    rintro past id ctx target version opened later rfl started
    exact run.exists_checkpoint unwritten (fun e he ↦ leaves e (List.mem_append_left _ he)) started
  case final =>
    rintro past id given answer before after mid id' given' answer' before' after' later target
      version sub rfl hname hname' kept hsub done
    obtain ⟨s, s', hs, hs', hgrows⟩ := run.grows_of_committed hstart leaves hname hname' kept
    rw [Record.sub?, hs] at hsub
    rw [Record.sub?, hs']
    exact hgrows.sub?_eq hsub done
  case unopened =>
    rintro past id given answer before after mid id' ctx current more target version opened later
      sub rfl hname kept started hfirst hsub done
    refine run.not_opened_again hstart (fun e he ↦ leaves e ?_) hname kept started hfirst hsub done
    rw [← List.cons_append, ← List.append_assoc]
    exact List.mem_append_left _ he
  case grows =>
    rintro past id given answer before after mid id' given' answer' before' after' later rfl hname
      hname' kept
    exact run.grows_of_committed hstart leaves hname hname' kept

/-- The first four passes over a request for the management cluster: the last one makes a backup of
its v2 datastore. -/
theorem checkpoints_management :
    let ctx := { Pass.plainContext false with management := .management "/data" {} }
    let r : Record := { metadata := { name := some "b", resourceVersion := some "0" } }
    ∃ past opened w, Run (.start (.single r))
        (past ++ [.asked 3 ⟨.openBackupper ctx.management .v2, opened⟩]) w ∧
      .started 3 ctx "b" ∈ past ∧
      Checkpoints "b" (past ++ [.asked 3 ⟨.openBackupper ctx.management .v2, opened⟩]) := by
  intro ctx r
  let running : Status := { phase := .v2Running, started := some default }
  let working : Status :=
    running.withSub managementName .v2 { state := .running, started := some default }
  let r₁ := written r { phase := .pending } (some "1")
  let r₂ := written r₁ running (some "2")
  let r₃ := written r₂ working (some "3")
  have decided₀ : (Pass.decide ctx r default).Leads [⟨.list, .ok [r]⟩]
      (.done (.ok (.advance { phase := .pending }))) := .ask (.rest _)
  have decided₁ : (Pass.decide ctx r₁ default).Leads [] (.done (.ok (.advance running))) :=
    .rest _
  have decided₂ : (Pass.decide ctx r₂ default).Leads [⟨.now, default⟩]
      (.done (.ok (.progress working))) := .ask (.rest _)
  let es : List (Exchange Calls) := [⟨.get r₃.name, .ok r₃⟩, ⟨.now, default⟩, ⟨.now, default⟩]
  let opening : Exchange Calls := ⟨.openBackupper ctx.management .v2, .ok ⟨0, .v2⟩⟩
  obtain ⟨rest, course⟩ : ∃ rest, (Pass.reconcile ctx r₃.name).Leads (es ++ [opening]) rest :=
    ⟨_, .ask (.ask (.ask (.ask (.rest _))))⟩
  -- The passes one after the other, each under a version of its own.
  have new₁ : some "1" ∉ [some "0"] := by decide
  have new₂ : some "2" ∉ [some "1", some "0"] := by decide
  have new₃ : some "3" ∉ [some "2", some "1", some "0"] := by decide
  have hlist : ∀ e ∈ ([⟨.list, .ok [r]⟩] : List (Exchange Calls)),
      (World.start (.single r)).store.Gives e.request e.answer :=
    List.forall_mem_singleton.2 (.refl _)
  obtain ⟨_, _, first⟩ := (Alone.start r).pass hlist decided₀ rfl new₁
  obtain ⟨_, w₂, second⟩ := first.pass (List.forall_mem_nil _) decided₁ rfl new₂
  have hclock : ∀ e ∈ ([⟨.now, default⟩] : List (Exchange Calls)),
      w₂.store.Gives e.request e.answer := List.forall_mem_singleton.2 trivial
  obtain ⟨past, w₃, third⟩ := second.pass hclock decided₂ rfl new₃
  have gives : ∀ e ∈ es ++ [opening], w₃.store.Gives e.request e.answer := by
    have hothers : ∀ e ∈ ([⟨.now, default⟩, ⟨.now, default⟩, opening] : List (Exchange Calls)),
        w₃.store.Gives e.request e.answer := by
      simp only [List.forall_mem_cons]
      exact ⟨trivial, trivial, trivial, List.forall_mem_nil _⟩
    exact List.forall_mem_cons.2 ⟨third.stored, hothers⟩
  obtain ⟨w, th, last, -, -, -, -⟩ :=
    exists_run_started ctx r₃.name (third.unused 3 (Nat.le_refl 3)) gives course
  have run := third.run.trans last
  have hlast : ∀ e ∈ Event.started 3 ctx r₃.name :: (es ++ [opening]).map (Event.asked 3),
      e.LeavesStatus "b" := List.forall_mem_cons.2 ⟨trivial, leavesStatus_asked 3 _⟩
  have leaves := List.forall_mem_append.2 ⟨third.leaves, hlast⟩
  have unwritten : ∀ s ∈ (Store.single r).log, s.name = "b" → s.status = none := by
    intro s hs _
    rw [List.mem_singleton.1 hs]
  rw [List.map_append, ← List.cons_append, ← List.append_assoc] at run leaves
  refine ⟨_, _, w, run, ?_, checkpoints run unwritten leaves⟩
  exact List.mem_append_right _ List.mem_cons_self

end EtcdBackup.Interleaving
