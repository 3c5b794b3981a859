import EtcdBackup.Proofs.Interleaving.Coherence
import EtcdBackup.Proofs.Record.Timestamps

/-!
# Times that are written by passes that overlap

A pass reads its request first and the clock then, so while the clock never goes back, no reading of
a pass is earlier than a time in the status that it read. What it writes replaces a status that is
still this one. So passes add only times that are no earlier than all that there are already, and
the times of a status are in order (`chronological_of_committed`), although other passes may read
the clock, and write, between any two requests of a pass.
-/

set_option autoImplicit false
set_option relaxedAutoImplicit false

namespace EtcdBackup

open Dialogue Status

/-! ### The clock in a decision -/

/-- The time that an exchange reads off the clock. -/
def Exchange.reading? : Exchange Calls → Option Instant
  | ⟨.now, t⟩ => some t
  | _ => none

/-- The times that some exchanges read off the clock. -/
def readings (es : List (Exchange Calls)) : List Instant := es.filterMap Exchange.reading?

theorem readings_append (es es' : List (Exchange Calls)) :
    readings (es ++ es') = readings es ++ readings es' := List.filterMap_append

namespace Runner

variable {ctx : Context} {record : Record} {target : Target} {version : Datastore}
  {status : Status} {es : List (Exchange Calls)}

theorem started_finish (sub : SubStatus) (retried : Retried Error Backup.Outcome) (t : Instant) :
    (SubStatus.finish sub retried t).started = sub.started := by
  unfold SubStatus.finish
  cases retried.result <;> rfl

theorem finished_finish (sub : SubStatus) (retried : Retried Error Backup.Outcome) (t : Instant) :
    (SubStatus.finish sub retried t).finished = some t := by
  unfold SubStatus.finish
  cases retried.result <;> rfl

theorem Moves.strikes {now : Instant} {sub sub' : SubStatus}
    (h : Moves ctx target version now sub es sub') :
    sub.Strikes (now :: readings es) sub' := by
  cases h with
  | start fresh => exact .begins fresh List.mem_cons_self rfl rfl
  | skip started | exhaust started =>
    obtain ⟨begun, hbegun⟩ := Option.isSome_iff_exists.1 started
    exact .ends hbegun hbegun List.mem_cons_self rfl
  | @attempt started complete left es retried course finished =>
    obtain ⟨begun, hbegun⟩ := Option.isSome_iff_exists.1 started
    have hmem : finished ∈ now :: readings (es ++ [⟨.now, finished⟩, ⟨.measure ⟨target.name,
        version, retried.attempts, retried.result.toOption, finished⟩, ()⟩]) := by
      rw [readings_append]
      exact List.mem_cons_of_mem _ (List.mem_append_right _ List.mem_cons_self)
    exact .ends hbegun ((started_finish _ _ _).trans hbegun) hmem (finished_finish _ _ _)

theorem Visits.strikes {targets : List Target} {result : Option Status}
    (h : Visits ctx version status targets es result) {next : Status}
    (hnext : result = some next) : ∃ name sub, next = status.withSub name version sub ∧
      (status.sub name version).Strikes (readings es) sub := by
  induction h with
  | nil => cases hnext
  | done now terminal others ih =>
    obtain ⟨name, sub, heq, strikes⟩ := ih hnext
    exact ⟨name, sub, heq, strikes.mono (List.subset_cons_self _ _)⟩
  | work unfinished moves =>
    cases hnext
    exact ⟨_, _, rfl, moves.strikes⟩

/-- Work within a round notes a reason, or begins or ends one sub-status. -/
theorem Planned.strikes {next : Status} (h : Planned ctx record status version es (some next)) :
    (∃ name reason, next = status.withReason name reason) ∨
      ∃ name sub, next = status.withSub name version sub ∧
        (status.sub name version).Strikes (readings es) sub := by
  cases h with
  | note selected unrecorded =>
    obtain ⟨u, -, -, rfl⟩ := exists_of_recordUnresolved unrecorded
    exact .inl ⟨_, _, rfl⟩
  | @visit look es selection next selected recorded visits =>
    obtain ⟨name, sub, heq, strikes⟩ := visits.strikes rfl
    refine .inr ⟨name, sub, heq, strikes.mono ?_⟩
    rw [readings_append]
    exact List.subset_append_right _ _

end Runner

namespace Pass

variable {ctx : Context} {record : Record} {now : Instant} {es : List (Exchange Calls)}
  {decision : Decision} {next : Status}

/-- The times in a status that is decided on are those that were read before, or readings of the
clock. -/
theorem Decided.addsOnly (h : Decided ctx record now es decision)
    (hnext : decision.status? = some next) :
    AddsOnly (readings (⟨.now, now⟩ :: es)) (record.status.getD {}) next := by
  cases h with
  | reject | judge =>
    cases hnext
    refine .of_instances_eq rfl (fun _ ↦ .inl) fun t ht ↦ .inr ?_
    cases ht
    exact List.mem_cons_self
  | enter | close | proceed =>
    cases hnext
    exact .of_instances_eq rfl (fun _ ↦ .inl) fun _ ↦ .inl
  | start =>
    cases hnext
    refine .of_instances_eq_empty rfl (fun t ht ↦ .inr ?_) rfl
    cases ht
    exact List.mem_cons_self
  | work phase planned =>
    cases hnext
    rcases planned.strikes with ⟨name, reason, rfl⟩ | ⟨name, sub, rfl, strikes⟩
    · exact .withReason _ _ _
    · exact .withSub (strikes.mono (List.subset_cons_self _ _))
  | retireFinished | retireSkipped =>
    rw [Decision.status?_retire] at hnext
    cases hnext

/-- What is decided about a status with its times in order has them in order, if the clock shows no
time before them. -/
theorem Decided.isChronological (h : Decided ctx record now es decision)
    (hnext : decision.status? = some next) (coherent : (record.status.getD {}).Coherent)
    (chronological : (record.status.getD {}).IsChronological)
    (later : ∀ t, (record.status.getD {}).HasStamp t →
      ∀ t' ∈ readings (⟨.now, now⟩ :: es), t ≤ t') : next.IsChronological := by
  have hnow (t : Instant) (ht : (record.status.getD {}).HasStamp t) : t ≤ now :=
    later t ht now List.mem_cons_self
  cases h with
  | reject | judge =>
    cases hnext
    exact chronological.finish hnow rfl rfl rfl
  | enter phase =>
    cases hnext
    have fresh : (record.status.getD {}).phase = .empty := phase
    exact .of_instances_eq_empty (coherent.untouched (.inl fresh)).2
      (coherent.unfinished (by simp [fresh])).1
  | start phase =>
    cases hnext
    have pending : (record.status.getD {}).phase = .pending := phase
    exact .of_instances_eq_empty rfl (coherent.unfinished (by simp [pending])).1
  | @close version phase =>
    cases hnext
    have running : (record.status.getD {}).phase = .running version := phase
    exact chronological.goOn (sub?_congr rfl) rfl
      (coherent.underWay (running ▸ Phase.isUnderWay_running version)).2.1
  | proceed phase =>
    cases hnext
    have closed : (record.status.getD {}).phase = .closed .v2 := phase
    exact chronological.goOn (sub?_congr rfl) rfl
      (coherent.underWay (closed ▸ Phase.isUnderWay_closed .v2)).2.1
  | @work version phase es next planned =>
    cases hnext
    have running : (record.status.getD {}).phase = .running version := phase
    obtain ⟨started, unfinished, -⟩ :=
      coherent.underWay (running ▸ Phase.isUnderWay_running version)
    obtain ⟨start, hstart⟩ := Option.isSome_iff_exists.1 started
    rcases planned.strikes with ⟨name, reason, rfl⟩ | ⟨name, sub, rfl, strikes⟩
    · exact chronological.goOn (fun _ _ ↦ sub?_withReason _ _ _ _ _) rfl unfinished
    · refine chronological.withSub hstart unfinished (strikes.mono (List.subset_cons_self _ _))
        later fun hversion other ↦ coherent.inOrder ?_ other
      rw [running, hversion]
      decide
  | retireFinished | retireSkipped =>
    rw [Decision.status?_retire] at hnext
    cases hnext

end Pass

/-! ### The clock in a run -/

namespace Interleaving

variable {store : Store} {events past later : List Event} {u w w' : World} {e : Event} {id : Nat}
  {before after given : Record} {answer : Except Error Unit} {name : String}

/-- The time that a pass reads off the clock by an event. -/
def Event.reading? : Event → Option Instant
  | .asked _ exchange => exchange.reading?
  | _ => none

/-- The times that the passes of a run read off the clock, in order. -/
def clockReadings (events : List Event) : List Instant := events.filterMap Event.reading?

theorem clockReadings_append (events later : List Event) :
    clockReadings (events ++ later) = clockReadings events ++ clockReadings later :=
  List.filterMap_append

/-- What a pass reads off the clock is among all readings. -/
theorem readings_exchanges_subset (id : Nat) (events : List Event) :
    readings (Event.exchanges id events) ⊆ clockReadings events := by
  intro t ht
  obtain ⟨x, hx, hreading⟩ := List.mem_filterMap.1 ht
  obtain ⟨e, he, hexchange⟩ := List.mem_filterMap.1 hx
  refine List.mem_filterMap.2 ⟨e, he, ?_⟩
  rcases Event.cases_of_exchange hexchange with rfl | ⟨_, _, _, _, rfl, rfl⟩ | ⟨_, _, rfl, rfl⟩
  · exact hreading
  · cases hreading
  · cases hreading

/-- The record that a pass read holds no time that is later than one that it read off the clock. -/
def IsReadBefore (name : String) (past : List (Exchange Calls)) : Prop :=
  ∀ current es, past = ⟨.get name, .ok current⟩ :: es →
    ∀ t, (current.status.getD {}).HasStamp t → ∀ t' ∈ readings es, t ≤ t'

/-- What holds at any time while the clock does not go back: each status of a request has its times
in order, they were read off the clock, and the passes under way read them before they read the
clock. -/
structure Timely (name : String) (past : List Event) (w : World) : Prop
    extends Upholds name Status.Coherent past w where
  chronological : ∀ r ∈ w.store.log, r.name = name → (r.status.getD {}).IsChronological
  stamped : ∀ r ∈ w.store.log, r.name = name → ∀ t, (r.status.getD {}).HasStamp t →
    t ∈ clockReadings past
  passes : ∀ id th, w.threads id = some th → th.name = name → IsReadBefore name th.past

theorem timely_start (unwritten : ∀ r ∈ store.log, r.name = name → r.status = none) :
    Timely name [] (.start store) where
  toUpholds := isKept_coherent.upholds_start unwritten
  chronological r hr hname := by
    rw [unwritten r hr hname]
    exact .of_instances_eq_empty rfl rfl
  stamped r hr hname t ht := by
    rw [unwritten r hr hname] at ht
    exact (not_hasStamp_default t ht).elim
  passes _ _ hth := by cases hth

/-- What a commit adds was read off the clock after all that is there. -/
theorem Timely.of_commitOf (hw : Timely name past w) (h : CommitOf w id before after)
    (hname : after.name = name) :
    ∃ status times, after.status = some status ∧ status.IsChronological ∧
      AddsOnly times (before.status.getD {}) status ∧ times ⊆ clockReadings past ∧
      ∀ t, (before.status.getD {}).HasStamp t → ∀ t' ∈ times, t ≤ t' := by
  cases h with
  | @intro th current now es decision status _ thread hpast hread course hstatus same stored
      overwritten =>
    subst overwritten
    obtain rfl : th.name = name := (Store.name_eq_of_get? stored).symm.trans hname
    have hmem : readings (⟨.now, now⟩ :: es) ⊆
        readings (⟨.now, now⟩ :: es ++ [⟨.get current.name, .ok before⟩]) := by
      rw [readings_append]
      exact List.subset_append_left _ _
    have later (t : Instant) (ht : (current.status.getD {}).HasStamp t) :
        ∀ t' ∈ readings (⟨.now, now⟩ :: es), t ≤ t' :=
      fun t' ht' ↦ hw.passes id th thread rfl _ _ hpast t ht t' (hmem ht')
    have decided := Pass.decided_of_leads course
    rw [same]
    refine ⟨status, readings (⟨.now, now⟩ :: es), rfl, ?_, decided.addsOnly hstatus, ?_, later⟩
    · exact decided.isChronological hstatus (hw.holds current hread.1 hread.2)
        (hw.chronological current hread.1 hread.2) later
    · refine List.Subset.trans ?_ (readings_exchanges_subset id past)
      rw [← hw.traced.traced id th thread, hpast]
      exact hmem

/-- A pass reads its request before it reads the clock, whatever happens next. -/
theorem Timely.isReadBefore (hw : Timely name past w) (h : Step w e w')
    (clock : (clockReadings (past ++ [e])).Pairwise (· ≤ ·)) {th' : Thread}
    (hth' : w'.threads id = some th') (hname : th'.name = name) : IsReadBefore name th'.past := by
  intro current es hpast t ht t' ht'
  rcases h.thread_cases hth' with ⟨_, _, -, rfl, -⟩ | ⟨th, hth, goesOn⟩
  · cases hpast
  rw [goesOn.past] at hpast
  cases hthpast : th.past with
  | nil =>
    -- The request was just read, so the clock was not read after it.
    rw [hthpast, List.nil_append] at hpast
    cases hx : e.exchange? id with
    | none =>
      rw [hx] at hpast
      cases hpast
    | some x =>
      rw [hx] at hpast
      cases hpast
      cases ht'
  | cons first rest =>
    rw [hthpast, List.cons_append] at hpast
    cases hpast
    rw [readings_append] at ht'
    rcases List.mem_append.1 ht' with ht' | ht'
    · exact hw.passes id th hth (goesOn.name.symm.trans hname) current rest hthpast t ht t' ht'
    · -- The request was read before this event, and its times before that.
      obtain ⟨hlog, hcurrent⟩ :=
        hw.heard id th hth name current (by rw [hthpast]; exact List.mem_cons_self)
      have hnew : t' ∈ clockReadings [e] := by
        refine readings_exchanges_subset id [e] ?_
        rwa [Event.exchanges_singleton]
      rw [clockReadings_append] at clock
      exact (List.pairwise_append.1 clock).2.2 t (hw.stamped current hlog hcurrent t ht) t' hnew

theorem Timely.step (hw : Timely name past w) (h : Step w e w') (leaves : e.LeavesStatus name)
    (clock : (clockReadings (past ++ [e])).Pairwise (· ≤ ·)) : Timely name (past ++ [e]) w' where
  toUpholds := isKept_coherent.upholds_step h leaves (fun _ _ _ ↦ trivial) hw.toUpholds
  chronological r hr hname := by
    rcases h.log_cases leaves hr hname with ⟨id, given, answer, before, rfl⟩ | unwritten |
      ⟨old, hold, hname', same⟩
    · obtain ⟨status, -, hstatus, chronological, -⟩ := hw.of_commitOf (h.commitOf hw.heard) hname
      rwa [hstatus]
    · rw [unwritten]
      exact .of_instances_eq_empty rfl rfl
    · rw [same]
      exact hw.chronological old hold hname'
  stamped r hr hname t ht := by
    rw [clockReadings_append]
    refine List.mem_append_left _ ?_
    rcases h.log_cases leaves hr hname with ⟨id, given, answer, before, rfl⟩ | unwritten |
      ⟨old, hold, hname', same⟩
    · have commit := h.commitOf hw.heard
      obtain ⟨status, times, hstatus, -, adds, htimes, -⟩ := hw.of_commitOf commit hname
      rw [hstatus] at ht
      obtain ⟨slot, hslot⟩ := ht
      rcases adds slot t hslot with hbefore | hmem
      · obtain ⟨hstored, -, hname'⟩ := h.stored_of_committed
        exact hw.stamped before (Store.mem_log_of_get? hstored) (hname'.trans hname) t
          ⟨slot, hbefore⟩
      · exact htimes hmem
    · rw [unwritten] at ht
      exact (not_hasStamp_default t ht).elim
    · rw [same] at ht
      exact hw.stamped old hold hname' t ht
  passes _ _ hth' hname := hw.isReadBefore h clock hth' hname

theorem Run.timely (run : Run (.start store) past u)
    (unwritten : ∀ r ∈ store.log, r.name = name → r.status = none)
    (leaves : ∀ e ∈ past, e.LeavesStatus name)
    (clock : (clockReadings past).Pairwise (· ≤ ·)) : Timely name past u := by
  -- That the clock does not go back is known of all readings so far.
  let Invariant (past : List Event) (w : World) : Prop :=
    (clockReadings past).Pairwise (· ≤ ·) → Timely name past w
  have hstep {past : List Event} {w : World} {e : Event} {w' : World} (step : Step w e w')
      (leaves : e.LeavesStatus name) (hw : Invariant past w) : Invariant (past ++ [e]) w' := by
    intro clock
    refine (hw ?_).step step leaves clock
    rw [clockReadings_append] at clock
    exact (List.pairwise_append.1 clock).1
  have hstart : Invariant [] (.start store) := fun _ ↦ timely_start unwritten
  have hrun : Invariant ([] ++ past) u := run.preserves hstep leaves hstart
  exact hrun clock

/-- While the clock does not go back and only passes write the status of a request, each status that
is written has its times in order, and every time that a write adds is no earlier than all those of
the status that it replaces. -/
theorem chronological_of_committed (run : Run (.start store) events w)
    (unwritten : ∀ r ∈ store.log, r.name = name → r.status = none)
    (leaves : ∀ e ∈ events, e.LeavesStatus name)
    (clock : (clockReadings events).Pairwise (· ≤ ·))
    (hevents : events = past ++ .committed id given answer before after :: later)
    (hname : after.name = name) :
    ∃ status, after.status = some status ∧ status.IsChronological ∧
      ∀ slot t, status.stamp? slot = some t → (before.status.getD {}).stamp? slot ≠ some t →
        ∀ t', (before.status.getD {}).HasStamp t' → t' ≤ t := by
  subst hevents
  obtain ⟨u, v, first, step, -⟩ := run.exists_step
  rw [clockReadings_append] at clock
  have timely := first.timely unwritten (fun e he ↦ leaves e (List.mem_append_left _ he))
    (List.pairwise_append.1 clock).1
  obtain ⟨status, times, hstatus, chronological, adds, -, order⟩ :=
    timely.of_commitOf (step.commitOf timely.heard) hname
  refine ⟨status, hstatus, chronological, fun slot t ht new t' ht' ↦ ?_⟩
  exact order t' ht' t ((adds slot t ht).resolve_left new)

/-- The v2 datastore of the management cluster is skipped, by the last of four passes that read the
clock at six different times. -/
theorem chronological_of_committed_skip :
    ∃ past given before after w status sub,
      Run (.start (.single (freshRecord "b")))
        (past ++ [.committed 3 given (.ok ()) before after]) w ∧
      (clockReadings past).length = 6 ∧ (clockReadings past).Nodup ∧
      after.status = some status ∧ status.sub? managementName .v2 = some sub ∧
      sub.state = .skipped ∧ status.IsChronological := by
  let t₁ : Instant := ⟨⟨1, 0, by decide⟩, by decide⟩
  let t₂ : Instant := ⟨⟨2, 0, by decide⟩, by decide⟩
  let t₃ : Instant := ⟨⟨3, 0, by decide⟩, by decide⟩
  let t₄ : Instant := ⟨⟨4, 0, by decide⟩, by decide⟩
  let t₅ : Instant := ⟨⟨5, 0, by decide⟩, by decide⟩
  let t₆ : Instant := ⟨⟨6, 0, by decide⟩, by decide⟩
  let ctx := Pass.plainContext false
  let started : Status := { phase := .v2Running, started := some t₂ }
  let marked := started.withSub managementName .v2 { state := .running, started := some t₄ }
  let skipped := marked.withSub managementName .v2
    { state := .skipped, started := some t₄, finished := some t₆ }
  let r := freshRecord "b"
  let r₁ := written r { phase := .pending } (some "2")
  let r₂ := written r₁ started (some "3")
  let r₃ := written r₂ marked (some "4")
  have decided₀ : (Pass.decide ctx r t₁).Leads [⟨.list, .ok [r]⟩]
      (.done (.ok (.advance { phase := .pending }))) := .ask (.rest _)
  have decided₁ : (Pass.decide ctx r₁ t₂).Leads [] (.done (.ok (.advance started))) := .rest _
  have decided₂ : (Pass.decide ctx r₂ t₃).Leads [⟨.now, t₄⟩]
      (.done (.ok (.progress marked))) := .ask (.rest _)
  have decided₃ : (Pass.decide ctx r₃ t₅).Leads [⟨.now, t₆⟩]
      (.done (.ok (.progress skipped))) := .ask (.rest _)
  have gives₀ : ∀ e ∈ ([⟨.list, .ok [r]⟩] : List (Exchange Calls)),
      (Store.single r).Gives e.request e.answer :=
    List.forall_mem_singleton.2 (List.Perm.refl _)
  have gives (w : World) (t : Instant) : ∀ e ∈ ([⟨.now, t⟩] : List (Exchange Calls)),
      w.store.Gives e.request e.answer := List.forall_mem_singleton.2 trivial
  have new₁ : some "2" ∉ [some "1"] := by decide
  have new₂ : some "3" ∉ [some "2", some "1"] := by decide
  have new₃ : some "4" ∉ [some "3", some "2", some "1"] := by decide
  have new₄ : some "5" ∉ [some "4", some "3", some "2", some "1"] := by decide
  obtain ⟨w₁, h₁⟩ := (Alone.start r).exists_pass gives₀ decided₀ rfl new₁
  obtain ⟨w₂, h₂⟩ := h₁.exists_pass (List.forall_mem_nil _) decided₁ rfl new₂
  obtain ⟨w₃, h₃⟩ := h₂.exists_pass (gives w₂ t₄) decided₂ rfl new₃
  obtain ⟨w, h⟩ := h₃.exists_pass (gives w₃ t₆) decided₃ rfl new₄
  rw [decisionEvents_append_writeEvents] at h
  obtain ⟨status, hstatus, chronological, -⟩ := chronological_of_committed h.run
    (fun s hs _ ↦ Store.unwritten_single rfl s hs) h.leaves (by decide) rfl rfl
  cases hstatus
  exact ⟨_, _, _, _, w, _, _, h.run, rfl, by decide, rfl, rfl, rfl, chronological⟩

end Interleaving

end EtcdBackup
