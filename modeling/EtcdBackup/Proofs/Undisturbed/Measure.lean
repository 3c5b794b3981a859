import EtcdBackup.Proofs.Interleaving.RoundEnd
import EtcdBackup.Proofs.Selection
import Mathlib.Algebra.BigOperators.Group.Finset.Basic
import Mathlib.Data.Finset.Dedup

/-!
# What is left to be written

The writes that a cycle still needs can be read off a status, once its targets are known: those of
the phases to come, one for each reason that is not noted yet, and two for each datastore of each
target, to start it and to end it (`Status.writesLeft`). A decision lowers their number by exactly
one (`Decided.writesLeft`), whatever comes out of the backups. `Status.OnCourse` is the invariant
that makes the number zero at the verdict: no round is closed before all of its work is done.
-/

set_option autoImplicit false
set_option relaxedAutoImplicit false

namespace EtcdBackup

open Dialogue

namespace Phase

variable {p : Phase}

theorem rank_le_six (p : Phase) : p.rank ≤ 6 := by cases p <;> decide

theorem isTerminal_iff_rank_eq : p.isTerminal ↔ p.rank = 6 := by cases p <;> decide

theorem isTerminal_iff : p.isTerminal ↔ p = .completed ∨ p = .failed ∨ p = .skipped := by
  cases p <;> decide

end Phase

/-- The names of the targets of a selection; a name that several targets bear counts once. -/
def Selection.targetNames (selection : Selection) : Finset String :=
  (selection.targets.map Target.name).toFinset

/-- The moves that a sub-status still needs: one to start, unless it was started, and one to end. -/
def SubStatus.movesLeft (sub : SubStatus) : Nat :=
  if sub.state.isTerminal then 0 else if sub.started.isNone then 2 else 1

namespace SubStatus

variable {sub : SubStatus}

theorem movesLeft_of_isTerminal (done : sub.state.isTerminal) : sub.movesLeft = 0 := if_pos done

theorem movesLeft_of_started (unfinished : sub.state.isTerminal = false)
    (started : sub.started.isSome) : sub.movesLeft = 1 := by
  unfold movesLeft
  rw [unfinished, if_neg Bool.false_ne_true, if_neg ?_]
  rw [Option.isNone_iff_eq_none]
  exact Option.isSome_iff_ne_none.1 started

theorem movesLeft_of_fresh (unfinished : sub.state.isTerminal = false)
    (fresh : sub.started = none) : sub.movesLeft = 2 := by
  unfold movesLeft
  rw [unfinished, if_neg Bool.false_ne_true, fresh]
  rfl

end SubStatus

namespace Status

/-- The moves that the datastores of a version still need. -/
def movesLeft (s : Status) (names : Finset String) (version : Datastore) : Nat :=
  ∑ name ∈ names, (s.sub name version).movesLeft

/-- The number of unresolved names whose reason is not noted yet. -/
def unnoted (s : Status) (unresolved : List Unresolved) : Nat :=
  unresolved.countP fun u ↦ (s.entry u.name).error ≠ some u.reason

/-- The writes that a cycle over the targets of a selection still needs. -/
def writesLeft (s : Status) (selection : Selection) : Nat :=
  (6 - s.phase.rank) + s.unnoted selection.unresolved +
    (s.movesLeft selection.targetNames .v2 + s.movesLeft selection.targetNames .v3)

variable {s s' : Status} {names : Finset String} {name other : String}
  {version otherVersion : Datastore} {sub : SubStatus} {unresolved : List Unresolved}

/-! ### Changes of a status -/

/-- The work on a sub-status leaves the reasons alone. -/
theorem error_entry_withSub (s : Status) (name other : String) (version : Datastore)
    (sub : SubStatus) :
    ((s.withSub name version sub).entry other).error = (s.entry other).error := by
  rw [reason?_entry, reason?_withSub, reason?_entry]

theorem error_entry_withReason (s : Status) (name reason other : String) :
    ((s.withReason name reason).entry other).error =
      if name = other then some reason else (s.entry other).error := by
  rw [reason?_entry, reason?_withReason, reason?_entry]

theorem movesLeft_withReason (s : Status) (name reason : String) (names : Finset String)
    (version : Datastore) :
    (s.withReason name reason).movesLeft names version = s.movesLeft names version := by
  unfold movesLeft
  simp only [sub_withReason]

/-- One sub-status moves on, the others stay. -/
theorem movesLeft_withSub_self (s : Status) (version : Datastore) (sub : SubStatus)
    (hname : name ∈ names) :
    (s.withSub name version sub).movesLeft names version + (s.sub name version).movesLeft =
      s.movesLeft names version + sub.movesLeft := by
  unfold movesLeft
  have others : ∀ other ∈ names.erase name,
      ((s.withSub name version sub).sub other version).movesLeft =
        (s.sub other version).movesLeft := by
    intro other hother
    rw [sub_withSub, if_neg fun hsame ↦ Finset.ne_of_mem_erase hother hsame.1.symm]
  rw [← Finset.add_sum_erase names _ hname, ← Finset.add_sum_erase names _ hname,
    Finset.sum_congr rfl others, sub_withSub, if_pos ⟨rfl, rfl⟩]
  omega

theorem movesLeft_withSub_of_ne (s : Status) (name : String) (sub : SubStatus)
    (names : Finset String) (hversion : version ≠ otherVersion) :
    (s.withSub name version sub).movesLeft names otherVersion = s.movesLeft names otherVersion := by
  unfold movesLeft
  refine Finset.sum_congr rfl fun other _ ↦ ?_
  rw [sub_withSub, if_neg fun hsame ↦ hversion hsame.2]

theorem movesLeft_withSub (s : Status) (version : Datastore) (sub : SubStatus)
    (hname : name ∈ names) :
    ((s.withSub name version sub).movesLeft names .v2 +
        (s.withSub name version sub).movesLeft names .v3) + (s.sub name version).movesLeft =
      (s.movesLeft names .v2 + s.movesLeft names .v3) + sub.movesLeft := by
  have hself := movesLeft_withSub_self s version sub hname
  cases version with
  | v2 =>
    have hother := movesLeft_withSub_of_ne s name sub names (show Datastore.v2 ≠ .v3 by decide)
    omega
  | v3 =>
    have hother := movesLeft_withSub_of_ne s name sub names (show Datastore.v3 ≠ .v2 by decide)
    omega

theorem unnoted_withSub (s : Status) (name : String) (version : Datastore) (sub : SubStatus)
    (unresolved : List Unresolved) :
    (s.withSub name version sub).unnoted unresolved = s.unnoted unresolved := by
  unfold unnoted
  simp only [error_entry_withSub]

/-- One reason is noted, and no other one is lost. -/
theorem unnoted_withReason (distinct : (unresolved.map Unresolved.name).Nodup) {u : Unresolved}
    (hu : u ∈ unresolved) (new : (s.entry u.name).error ≠ some u.reason) :
    (s.withReason u.name u.reason).unnoted unresolved + 1 = s.unnoted unresolved := by
  obtain ⟨before, after, rfl⟩ := List.append_of_mem hu
  rw [List.map_append, List.map_cons, List.nodup_middle, List.nodup_cons,
    ← List.map_append] at distinct
  have others (part : List Unresolved) (hpart : ∀ v ∈ part, v ∈ before ++ after) :
      part.countP (fun v ↦ ((s.withReason u.name u.reason).entry v.name).error ≠ some v.reason) =
        part.countP fun v ↦ (s.entry v.name).error ≠ some v.reason := by
    refine List.countP_congr fun v hv ↦ ?_
    rw [error_entry_withReason, if_neg fun hname ↦ ?_]
    exact distinct.1 (hname ▸ List.mem_map_of_mem (hpart v hv))
  have noted : ((s.withReason u.name u.reason).entry u.name).error = some u.reason := by
    rw [error_entry_withReason, if_pos rfl]
  unfold unnoted
  rw [List.countP_append, List.countP_append, List.countP_cons_of_neg (by simp [noted]),
    List.countP_cons_of_pos (by simpa using new),
    others before fun v hv ↦ List.mem_append_left _ hv,
    others after fun v hv ↦ List.mem_append_right _ hv]
  rfl

theorem movesLeft_congr (h : s'.instances = s.instances) (names : Finset String)
    (version : Datastore) : s'.movesLeft names version = s.movesLeft names version := by
  unfold movesLeft
  simp only [sub_eq_getD, sub?_congr h]

theorem unnoted_congr (h : s'.instances = s.instances) (unresolved : List Unresolved) :
    s'.unnoted unresolved = s.unnoted unresolved := by
  unfold unnoted entry
  rw [h]

/-- Without entries all of the work is left. -/
theorem movesLeft_of_instances_eq_empty (h : s.instances = ∅) (names : Finset String)
    (version : Datastore) : s.movesLeft names version = 2 * names.card := by
  unfold movesLeft
  simp only [sub_eq_getD, sub?_of_instances_eq_empty _ _ h]
  simp [SubStatus.movesLeft, InstanceState.isTerminal, Nat.mul_comm]

theorem unnoted_of_instances_eq_empty (h : s.instances = ∅) (unresolved : List Unresolved) :
    s.unnoted unresolved = unresolved.length := by
  unfold unnoted entry
  rw [List.countP_eq_length, h]
  simp

/-! ### The invariant of a cycle -/

/-- The cycle over the targets of a selection goes its way: it was admitted, nothing is recorded
before the first round, and a round is only closed when all of its work is done. -/
structure OnCourse (selection : Selection) (s : Status) : Prop where
  fresh : s.phase = .empty ∨ s.phase = .pending → s.instances = ∅
  admitted : s.phase ≠ .skipped
  noted : (Phase.closed .v2).rank ≤ s.phase.rank → s.unnoted selection.unresolved = 0
  moved : ∀ version, (Phase.closed version).rank ≤ s.phase.rank →
    s.movesLeft selection.targetNames version = 0

variable {selection : Selection}

theorem onCourse_default (selection : Selection) : ({} : Status).OnCourse selection where
  fresh _ := rfl
  admitted := nofun
  noted := nofun
  moved version h := by cases version <;> cases h

/-- A fresh request needs six writes for its phases, one for each unresolved name, and four for each
target. -/
theorem writesLeft_default (selection : Selection) : ({} : Status).writesLeft selection =
    6 + selection.unresolved.length + 4 * selection.targetNames.card := by
  have hphase : 6 - ({} : Status).phase.rank = 6 := rfl
  unfold writesLeft
  rw [hphase, unnoted_of_instances_eq_empty rfl, movesLeft_of_instances_eq_empty rfl,
    movesLeft_of_instances_eq_empty rfl]
  omega

/-- The cycle goes one phase further with the same entries: one write less is left. What the phase
asks for has to be done by then. -/
theorem OnCourse.advance (h : s.OnCourse selection) (same : s'.instances = s.instances)
    (p q : Phase) (hp : s.phase = p) (hq : s'.phase = q)
    (further : q.rank = p.rank + 1 ∧ p.rank < 6)
    (fresh : q = .empty ∨ q = .pending → s.instances = ∅) (admitted : q ≠ .skipped)
    (noted : q.rank = (Phase.closed .v2).rank → s.unnoted selection.unresolved = 0)
    (moved : ∀ version, q.rank = (Phase.closed version).rank →
      s.movesLeft selection.targetNames version = 0) :
    s'.OnCourse selection ∧ s'.writesLeft selection + 1 = s.writesLeft selection := by
  subst hp hq
  have hcases {rank : Nat} (behind : rank ≤ s'.phase.rank) :
      s'.phase.rank = rank ∨ rank ≤ s.phase.rank := by omega
  refine ⟨⟨fun hfresh ↦ same.trans (fresh hfresh), admitted, fun behind ↦ ?_,
    fun version behind ↦ ?_⟩, ?_⟩
  · rw [unnoted_congr same]
    exact (hcases behind).elim noted h.noted
  · rw [movesLeft_congr same]
    exact (hcases behind).elim (moved version) (h.moved version)
  · unfold writesLeft
    rw [unnoted_congr same, movesLeft_congr same, movesLeft_congr same]
    omega

/-- A phase that closes no round asks for no work. -/
theorem OnCourse.advance_within (h : s.OnCourse selection) (same : s'.instances = s.instances)
    (p q : Phase) (hp : s.phase = p) (hq : s'.phase = q)
    (further : q.rank = p.rank + 1 ∧ p.rank < 6)
    (within : q.rank ≠ (Phase.closed .v2).rank ∧ q.rank ≠ (Phase.closed .v3).rank)
    (fresh : q = .empty ∨ q = .pending → s.instances = ∅) (admitted : q ≠ .skipped) :
    s'.OnCourse selection ∧ s'.writesLeft selection + 1 = s.writesLeft selection := by
  refine h.advance same p q hp hq further fresh admitted (fun hrank ↦ (within.1 hrank).elim) ?_
  intro version hrank
  cases version with
  | v2 => exact (within.1 hrank).elim
  | v3 => exact (within.2 hrank).elim

/-- Nothing is left to be written exactly at the end of the cycle. -/
theorem OnCourse.isTerminal_iff (h : s.OnCourse selection) :
    s.phase.isTerminal ↔ s.writesLeft selection = 0 := by
  unfold writesLeft
  constructor
  · intro terminal
    have hrank := Phase.isTerminal_iff_rank_eq.1 terminal
    have hclosed (version : Datastore) : (Phase.closed version).rank ≤ s.phase.rank := by
      rw [hrank]
      cases version <;> decide
    rw [hrank, h.noted (hclosed .v2), h.moved .v2 (hclosed .v2), h.moved .v3 (hclosed .v3)]
  · intro hnone
    have hrank := s.phase.rank_le_six
    exact Phase.isTerminal_iff_rank_eq.2 (by omega)

/-- The cycle ends with a verdict. -/
theorem OnCourse.verdict_iff (h : s.OnCourse selection) :
    s.phase = .completed ∨ s.phase = .failed ↔ s.writesLeft selection = 0 := by
  rw [← h.isTerminal_iff, Phase.isTerminal_iff, ← or_assoc, or_iff_left h.admitted]

end Status

/-! ### Decisions -/

namespace Runner

variable {ctx : Context} {record : Record} {target : Target} {version : Datastore}
  {selection : Selection} {tenants : List Target}

/-- Any selection that is made by some of the exchanges is this one. -/
def Selects (ctx : Context) (record : Record) (es : List (Exchange Calls))
    (selection : Selection) : Prop :=
  ∀ look selected, (select ctx record).Leads look (.done (.ok selected)) → look ⊆ es →
    selected = selection

/-- A selection is that of the tenant clusters that were discovered, if they were looked up. -/
theorem eq_ofSpec_of_leads {look : List (Exchange Calls)} {selected : Except Error Selection}
    (h : (select ctx record).Leads look (.done selected))
    (discovered : ∀ answer, (⟨.discover, answer⟩ : Exchange Calls) ∈ look → answer = .ok tenants) :
    selected = Selection.ofSpec record.spec ctx.management ctx.skipManagement tenants := by
  rcases cases_of_leads_select h with ⟨-, answer, rfl, rfl⟩ | ⟨needless, -, rfl⟩
  · obtain rfl := discovered answer List.mem_cons_self
    rfl
  · exact Selection.ofSpec_eq_of_not_needsTenants needless _ _ _ _

/-- A sub-status that moves on needs one move less. -/
theorem Moves.movesLeft {now : Instant} {sub sub' : SubStatus} {es : List (Exchange Calls)}
    (h : Moves ctx target version now sub es sub') (unfinished : sub.state.isTerminal = false) :
    sub'.movesLeft + 1 = sub.movesLeft := by
  cases h with
  | start fresh =>
    rw [SubStatus.movesLeft_of_fresh unfinished fresh, SubStatus.movesLeft_of_started rfl rfl]
  | skip started | exhaust started =>
    rw [SubStatus.movesLeft_of_started unfinished started, SubStatus.movesLeft_of_isTerminal rfl]
  | @attempt started complete left es retried course finished =>
    have done : (SubStatus.finish sub retried finished).state.isTerminal := by
      unfold SubStatus.finish
      cases retried.result <;> rfl
    rw [SubStatus.movesLeft_of_started unfinished started, SubStatus.movesLeft_of_isTerminal done]

/-- Every reason is noted when there is none to record. -/
theorem unnoted_of_recordUnresolved {status : Status} {names : List Unresolved}
    (h : recordUnresolved status names = none) : status.unnoted names = 0 := by
  rw [recordUnresolved_eq, Option.map_eq_none_iff, List.find?_eq_none] at h
  exact List.countP_eq_zero.2 h

/-- A round that plans nothing has noted every reason and moved every target to its end. -/
theorem Planned.nothing_left {status : Status} {es : List (Exchange Calls)}
    (h : Planned ctx record status version es none)
    (selects : Selects ctx record es selection) :
    status.unnoted selection.unresolved = 0 ∧
      status.movesLeft selection.targetNames version = 0 := by
  cases h with
  | @visit look es selected next hselected recorded visits =>
    obtain rfl := selects _ _ hselected (List.subset_append_left _ _)
    refine ⟨unnoted_of_recordUnresolved recorded, Finset.sum_eq_zero fun name hname ↦ ?_⟩
    obtain ⟨target, htarget, rfl⟩ := List.mem_map.1 (List.mem_toFinset.1 hname)
    exact SubStatus.movesLeft_of_isTerminal (visits.isTerminal rfl target htarget)

/-- The work of a round is one write. -/
theorem Planned.writesLeft {status next : Status} {es : List (Exchange Calls)}
    (h : Planned ctx record status version es (some next))
    (selects : Selects ctx record es selection)
    (distinct : selection.HasDistinctNames) (running : status.phase = .running version)
    (onCourse : status.OnCourse selection) :
    next.OnCourse selection ∧ next.writesLeft selection + 1 = status.writesLeft selection := by
  have begun : ¬(status.phase = .empty ∨ status.phase = .pending) := by
    rw [running]
    cases version <;> decide
  cases h with
  | note selected unrecorded =>
    obtain rfl := selects _ _ selected (List.Subset.refl _)
    obtain ⟨u, hu, new, rfl⟩ := exists_of_recordUnresolved unrecorded
    have hunnoted := Status.unnoted_withReason distinct hu new
    have hphase : (status.withReason u.name u.reason).phase = status.phase := rfl
    refine ⟨⟨fun fresh ↦ (begun fresh).elim, onCourse.admitted, fun behind ↦ ?_,
      fun other behind ↦ ?_⟩, ?_⟩
    · have := onCourse.noted behind
      omega
    · rw [Status.movesLeft_withReason]
      exact onCourse.moved other behind
    · unfold Status.writesLeft
      rw [Status.movesLeft_withReason, Status.movesLeft_withReason, hphase]
      omega
  | @visit look es selected next hselected recorded visits =>
    obtain rfl := selects _ _ hselected (List.subset_append_left _ _)
    obtain ⟨target, htarget, now, moved, sub, unfinished, moves, rfl⟩ := visits.change rfl
    have hmem : target.name ∈ selected.targetNames :=
      List.mem_toFinset.2 (List.mem_map_of_mem htarget)
    have hmoves := moves.movesLeft unfinished
    have hwork := Status.movesLeft_withSub status version sub hmem
    have hphase : (status.withSub target.name version sub).phase = status.phase := rfl
    refine ⟨⟨fun fresh ↦ (begun fresh).elim, onCourse.admitted, fun behind ↦ ?_,
      fun other behind ↦ ?_⟩, ?_⟩
    · rw [Status.unnoted_withSub]
      exact onCourse.noted behind
    · -- The round goes on, so nothing is asked of its own version yet.
      have hne : version ≠ other := by
        rintro rfl
        rw [hphase, running] at behind
        exact absurd (Phase.rank_running_lt_rank_closed version) (Nat.not_lt.2 behind)
      rw [Status.movesLeft_withSub_of_ne _ _ _ _ hne]
      exact onCourse.moved other behind
    · unfold Status.writesLeft
      rw [Status.unnoted_withSub, hphase]
      omega

end Runner

namespace Pass

variable {ctx : Context} {record : Record} {now : Instant} {es : List (Exchange Calls)}
  {selection : Selection}

/-- A decision about a request that is on its course is one write, after which it is on its course
still. -/
theorem Decided.writesLeft {decision : Decision} (h : Decided ctx record now es decision)
    {next : Status} (hnext : decision.status? = some next)
    (valid : Selection.checkPatterns record.spec = .ok ())
    (selects : Runner.Selects ctx record es selection) (distinct : selection.HasDistinctNames)
    (alone : ∀ all, (⟨.list, .ok all⟩ : Exchange Calls) ∈ es → admission record all = .pending)
    (onCourse : (record.status.getD {}).OnCourse selection) :
    next.OnCourse selection ∧
      next.writesLeft selection + 1 = (record.status.getD {}).writesLeft selection := by
  cases h with
  | reject reads invalid =>
    rw [valid] at invalid
    cases invalid
  | enter phase all =>
    cases hnext
    have admitted : admission record all = .pending := alone all List.mem_cons_self
    exact onCourse.advance_within rfl .empty .pending phase admitted (by decide) (by decide)
      (fun _ ↦ onCourse.fresh (Or.inl phase)) (by decide)
  | start phase =>
    cases hnext
    have empty := onCourse.fresh (Or.inr phase)
    exact onCourse.advance_within empty.symm .pending .v2Running phase rfl (by decide) (by decide)
      (fun _ ↦ empty) (by decide)
  | work phase planned =>
    cases hnext
    exact planned.writesLeft selects distinct phase onCourse
  | @close version phase es planned =>
    cases hnext
    obtain ⟨noted, moved⟩ := planned.nothing_left selects
    refine onCourse.advance rfl (.running version) (.closed version) phase rfl ?_ ?_ ?_
      (fun _ ↦ noted) ?_
    · cases version <;> decide
    · rintro (h | h) <;> cases version <;> cases h
    · cases version <;> decide
    · intro other hother
      obtain rfl : version = other := by
        cases version <;> cases other <;> first | rfl | cases hother
      exact moved
  | proceed phase =>
    cases hnext
    exact onCourse.advance_within rfl .v2Completed .v3Running phase rfl (by decide) (by decide)
      nofun (by decide)
  | judge phase =>
    cases hnext
    by_cases failed : (record.status.getD {}).anyFailed
    · exact onCourse.advance_within rfl .v3Completed .failed phase (if_pos failed) (by decide)
        (by decide) nofun (by decide)
    · exact onCourse.advance_within rfl .v3Completed .completed phase (if_neg failed) (by decide)
        (by decide) nofun (by decide)
  | retireFinished | retireSkipped =>
    rw [Decision.status?_retire] at hnext
    cases hnext

end Pass

end EtcdBackup
