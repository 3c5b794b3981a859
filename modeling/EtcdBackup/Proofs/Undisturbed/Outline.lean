import EtcdBackup.Proofs.Lookup
import EtcdBackup.Proofs.Undisturbed.Measure

/-!
# What one backup leaves in a status

Seen from one datastore version of one target, a status has parts that are its own concern and parts
that are not. `Status.outline` leaves out the latter: what became of the other backups, and with
that the verdict over all of them, and when things happened. The two ways to change a status change
its outline in the same way (`outline_withSub`, `outline_withReason`).

Two statuses are `Abreast` if they have one outline, and the other backups are done or not done in
both: that is all that the next step depends on.
-/

set_option autoImplicit false
set_option relaxedAutoImplicit false

namespace EtcdBackup

/-- The map with each value changed in view of its key. -/
def Keyed.mapEntries {α β : Type} (f : String → α → β) (m : Keyed α) : Keyed β :=
  ⟨m.entries.map fun e ↦ (e.1, f e.1 e.2), m.ascending.map fun e ↦ f e.1 e.2⟩

@[simp] theorem Keyed.get?_mapEntries {α β : Type} (f : String → α → β) (m : Keyed α)
    (key : String) : (m.mapEntries f).get? key = (m.get? key).map (f key) :=
  Keyed.find?_map (fun e ↦ f e.1 e.2) m.entries key

/-- A sub-status without its times and durations. -/
def SubStatus.timeless (sub : SubStatus) : SubStatus :=
  { sub with
    started := sub.started.map fun _ ↦ .epoch
    finished := sub.finished.map fun _ ↦ .epoch
    creationMillis := 0
    encryptionMillis := 0
    uploadMillis := 0 }

/-- An entry without times and durations, and without the sub-statuses that are not the own one. -/
def InstanceStatus.outline (isOwn : Datastore → Prop) [DecidablePred isOwn]
    (entry : InstanceStatus) : InstanceStatus :=
  let outlined (version : Datastore) (sub : SubStatus) : SubStatus :=
    if isOwn version then sub.timeless else {}
  { entry with
    v2 := entry.v2.map (outlined .v2)
    v3 := entry.v3.map (outlined .v3) }

namespace Status

/-- A status without times and durations, without the sub-statuses of the other backups, and with
one verdict for both. -/
def outline (s : Status) (name : String) (version : Datastore) : Status where
  phase := if s.phase = .failed then .completed else s.phase
  started := s.started.map fun _ ↦ .epoch
  finished := s.finished.map fun _ ↦ .epoch
  instances := s.instances.mapEntries fun key entry ↦
    entry.outline fun v ↦ key = name ∧ v = version
  error := s.error

variable {s s' : Status} {name : String} {version : Datastore}

/-- The own sub-status stays in the outline. -/
theorem sub?_outline (s : Status) (name : String) (version : Datastore) :
    (s.outline name version).sub? name version = (s.sub? name version).map SubStatus.timeless := by
  unfold sub? outline
  dsimp only
  rw [Keyed.get?_mapEntries]
  cases s.instances.get? name with
  | none => rfl
  | some entry =>
    cases version <;> simp [InstanceStatus.sub?, InstanceStatus.outline]

theorem error_entry_outline (s : Status) (other : String) :
    ((s.outline name version).entry other).error = (s.entry other).error := by
  unfold entry outline
  dsimp only
  rw [Keyed.get?_mapEntries]
  cases s.instances.get? other <;> rfl

/-- The changes of a status are changes of its outline. -/
theorem outline_withSub (s : Status) (other : String) (v : Datastore) (sub : SubStatus) :
    (s.withSub other v sub).outline name version = (s.outline name version).withSub other v
      (if other = name ∧ v = version then sub.timeless else {}) := by
  have hinstances : (s.withSub other v sub |>.outline name version).instances =
      ((s.outline name version).withSub other v
        (if other = name ∧ v = version then sub.timeless else {})).instances := by
    refine Keyed.ext_get? fun key ↦ ?_
    unfold withSub outline entry
    dsimp only
    rw [Keyed.get?_mapEntries, Keyed.get?_insert, Keyed.get?_insert, Keyed.get?_mapEntries,
      Keyed.get?_mapEntries]
    split
    case isTrue hkey =>
      subst hkey
      cases s.instances.get? other <;> cases v <;> rfl
    case isFalse => rfl
  exact congrArg (fun m ↦ { s.outline name version with instances := m }) hinstances

theorem outline_withReason (s : Status) (other reason : String) :
    (s.withReason other reason).outline name version =
      (s.outline name version).withReason other reason := by
  have hinstances : (s.withReason other reason |>.outline name version).instances =
      ((s.outline name version).withReason other reason).instances := by
    refine Keyed.ext_get? fun key ↦ ?_
    unfold withReason outline entry
    dsimp only
    rw [Keyed.get?_mapEntries, Keyed.get?_insert, Keyed.get?_insert, Keyed.get?_mapEntries,
      Keyed.get?_mapEntries]
    split
    case isTrue hkey =>
      subst hkey
      cases s.instances.get? other <;> rfl
    case isFalse => rfl
  exact congrArg (fun m ↦ { s.outline name version with instances := m }) hinstances

end Status

namespace Undisturbed

/-! ### Two runs side by side -/

/-- Two sub-statuses are both done or both not, and alike until then. -/
structure Parallel (a b : SubStatus) : Prop where
  isTerminal : a.state.isTerminal = b.state.isTerminal
  started : a.started.isSome = b.started.isSome
  unfinished : a.state.isTerminal = false → a.timeless = b.timeless

theorem Parallel.of_timeless {a b : SubStatus} (h : a.timeless = b.timeless) : Parallel a b where
  isTerminal := by
    have hstate := congrArg (fun sub : SubStatus ↦ sub.state.isTerminal) h
    exact hstate
  started := by
    have hstarted := congrArg (fun sub : SubStatus ↦ sub.started.isSome) h
    simpa only [SubStatus.timeless, Option.isSome_map] using hstarted
  unfinished _ := h

/-- Two statuses that are as far as each other, with all that concerns one backup alike. -/
structure Abreast (name : String) (version : Datastore) (s s' : Status) : Prop where
  outline : s.outline name version = s'.outline name version
  parallel : ∀ other v, Parallel (s.sub other v) (s'.sub other v)

namespace Abreast

variable {name : String} {version : Datastore} {s s' : Status}

theorem refl (name : String) (version : Datastore) (s : Status) : Abreast name version s s :=
  ⟨rfl, fun _ _ ↦ .of_timeless rfl⟩

theorem phase_eq (h : Abreast name version s s') (active : s.phase.isTerminal = false) :
    s'.phase = s.phase := by
  have hphase := congrArg Status.phase h.outline
  unfold Status.outline at hphase
  split at hphase
  case isTrue failed =>
    rw [failed] at active
    cases active
  case isFalse =>
    split at hphase
    case isTrue =>
      rw [hphase] at active
      cases active
    case isFalse => exact hphase.symm

theorem isTerminal_eq (h : Abreast name version s s') :
    s.phase.isTerminal = s'.phase.isTerminal := by
  have hphase := congrArg (fun s : Status ↦ s.phase.isTerminal) h.outline
  have hterminal (s : Status) : (s.outline name version).phase.isTerminal = s.phase.isTerminal := by
    unfold Status.outline
    split
    case isTrue failed => rw [failed]; rfl
    case isFalse => rfl
  rwa [hterminal, hterminal] at hphase

theorem error_eq (h : Abreast name version s s') (other : String) :
    (s.entry other).error = (s'.entry other).error := by
  rw [← Status.error_entry_outline s, h.outline, Status.error_entry_outline]

/-- The same reason is noted in both. -/
theorem withReason (h : Abreast name version s s') (other reason : String) :
    Abreast name version (s.withReason other reason) (s'.withReason other reason) where
  outline := by rw [Status.outline_withReason, h.outline, Status.outline_withReason]
  parallel name v := by
    rw [Status.sub_withReason, Status.sub_withReason]
    exact h.parallel name v

/-- The same sub-status moves on in both; if it is the own one, in the same way. -/
theorem withSub (h : Abreast name version s s') (other : String) (v : Datastore)
    {sub sub' : SubStatus} (parallel : Parallel sub sub')
    (own : other = name ∧ v = version → sub.timeless = sub'.timeless) :
    Abreast name version (s.withSub other v sub) (s'.withSub other v sub') where
  outline := by
    rw [Status.outline_withSub, h.outline, Status.outline_withSub]
    by_cases hown : other = name ∧ v = version
    · rw [if_pos hown, if_pos hown, own hown]
    · rw [if_neg hown, if_neg hown]
  parallel key w := by
    rw [Status.sub_withSub, Status.sub_withSub]
    split
    case isTrue => exact parallel
    case isFalse => exact h.parallel key w

/-- What is said of all backups together changes in the same way in both. -/
theorem of_instances_eq {next next' : Status} (h : Abreast name version s s')
    (same : next.instances = s.instances) (same' : next'.instances = s'.instances)
    (outline : next.outline name version = next'.outline name version) :
    Abreast name version next next' where
  outline := outline
  parallel other v := by
    rw [Status.sub_eq_getD, Status.sub_eq_getD, Status.sub?_congr same, Status.sub?_congr same',
      ← Status.sub_eq_getD, ← Status.sub_eq_getD]
    exact h.parallel other v

/-- Both go on to the same phase. -/
theorem withPhase (h : Abreast name version s s') (p : Phase) :
    Abreast name version { s with phase := p } { s' with phase := p } :=
  h.of_instances_eq rfl rfl (congrArg (fun o : Status ↦
    { o with phase := if p = Phase.failed then Phase.completed else p }) h.outline)

/-- The rounds begin in both, over targets of which nothing is known. -/
theorem opened (h : Abreast name version s s') (started started' : Instant) (p : Phase) :
    Abreast name version { s with started := some started, instances := ∅, phase := p }
      { s' with started := some started', instances := ∅, phase := p } where
  outline := congrArg (fun o : Status ↦ { o with
    started := some .epoch
    instances := ∅
    phase := if p = Phase.failed then Phase.completed else p }) h.outline
  parallel other v := by
    rw [Status.sub_eq_getD, Status.sub_eq_getD, Status.sub?_of_instances_eq_empty _ _ rfl,
      Status.sub?_of_instances_eq_empty _ _ rfl]
    exact .of_timeless rfl

/-- Both are rejected for the same reason. -/
theorem rejected (h : Abreast name version s s') (finished finished' : Instant) (reason : String) :
    Abreast name version
      { s with error := some reason, finished := some finished, phase := .failed }
      { s' with error := some reason, finished := some finished', phase := .failed } :=
  h.of_instances_eq rfl rfl (congrArg (fun o : Status ↦ { o with
    error := some reason, finished := some .epoch, phase := .completed }) h.outline)

/-- Both are closed, with whatever verdict. -/
theorem withVerdict (h : Abreast name version s s') (finished finished' : Instant) {p p' : Phase}
    (hp : p = .failed ∨ p = .completed) (hp' : p' = .failed ∨ p' = .completed) :
    Abreast name version { s with finished := some finished, phase := p }
      { s' with finished := some finished', phase := p' } := by
  refine h.of_instances_eq rfl rfl ?_
  have closed := congrArg (fun o : Status ↦
    { o with finished := some .epoch, phase := Phase.completed }) h.outline
  rcases hp with rfl | rfl <;> rcases hp' with rfl | rfl <;> exact closed

end Abreast

end Undisturbed

end EtcdBackup
