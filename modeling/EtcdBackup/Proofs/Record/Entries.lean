import EtcdBackup.Record.Basic

/-!
# What a status holds for a target

A status is read through `Status.sub?`, the progress of one datastore version of one target, and
`Status.reason?`, why a name is no target. It is changed in two ways only: `Status.withSub` replaces
one such progress, and `Status.withReason` notes one such reason. Each of the two leaves everything
else as it was.
-/

set_option autoImplicit false
set_option relaxedAutoImplicit false

namespace EtcdBackup

namespace Keyed

variable {α : Type}

@[simp] theorem get?_emptyCollection (key : String) : (∅ : Keyed α).get? key = none := rfl

end Keyed

namespace InstanceStatus

@[simp] theorem sub?_withSub (s : InstanceStatus) (version other : Datastore) (sub : SubStatus) :
    (s.withSub version sub).sub? other = if version = other then some sub else s.sub? other := by
  cases version <;> cases other <;> rfl

@[simp] theorem sub?_mk_none (name : String) (version : Datastore) :
    ({ name := name } : InstanceStatus).sub? version = none := by
  cases version <;> rfl

/-- A reason is noted beside the progress of both datastore versions. -/
@[simp] theorem sub?_withError (s : InstanceStatus) (error : Option String)
    (version : Datastore) : ({ s with error := error } : InstanceStatus).sub? version =
      s.sub? version := by
  cases version <;> rfl

end InstanceStatus

namespace Status

/-- The progress of one datastore version of a target, if it was started. -/
def sub? (s : Status) (name : String) (version : Datastore) : Option SubStatus :=
  (s.instances.get? name).bind (·.sub? version)

/-- Why a name is no target, if that is noted. -/
def reason? (s : Status) (name : String) : Option String :=
  (s.instances.get? name).bind (·.error)

/-- The progress of one datastore version of a target, a fresh one if there is none. -/
def sub (s : Status) (name : String) (version : Datastore) : SubStatus :=
  (s.entry name).sub version

/-- The status with the progress of one datastore version of a target replaced. -/
def withSub (s : Status) (name : String) (version : Datastore) (sub : SubStatus) : Status :=
  { s with instances := s.instances.insert name ((s.entry name).withSub version sub) }

/-- The status that notes why a name is no target. -/
def withReason (s : Status) (name reason : String) : Status :=
  { s with instances := s.instances.insert name { s.entry name with error := some reason } }

variable (s : Status) (name other : String) (version otherVersion : Datastore)

theorem sub?_entry : (s.entry name).sub? version = s.sub? name version := by
  unfold entry sub?
  cases s.instances.get? name <;> simp

theorem reason?_entry : (s.entry name).error = s.reason? name := by
  unfold entry reason?
  cases s.instances.get? name <;> rfl

theorem sub_eq_getD : s.sub name version = (s.sub? name version).getD {} := by
  unfold sub InstanceStatus.sub
  rw [sub?_entry]

@[simp] theorem sub?_withSub (sub : SubStatus) :
    (s.withSub name version sub).sub? other otherVersion =
      if name = other ∧ version = otherVersion then some sub else s.sub? other otherVersion := by
  by_cases hname : name = other
  · subst hname
    simp [sub?, withSub, sub?_entry]
  · simp [sub?, withSub, hname]

@[simp] theorem sub?_withReason (reason : String) :
    (s.withReason name reason).sub? other otherVersion = s.sub? other otherVersion := by
  by_cases hname : name = other
  · subst hname
    rw [← sub?_entry s]
    simp [sub?, withReason]
  · simp [sub?, withReason, hname]

@[simp] theorem reason?_withSub (sub : SubStatus) :
    (s.withSub name version sub).reason? other = s.reason? other := by
  by_cases hname : name = other
  · subst hname
    rw [← reason?_entry s]
    cases version <;> simp [reason?, withSub, InstanceStatus.withSub]
  · simp [reason?, withSub, hname]

@[simp] theorem reason?_withReason (reason : String) :
    (s.withReason name reason).reason? other =
      if name = other then some reason else s.reason? other := by
  by_cases hname : name = other <;> simp [reason?, withReason, hname]

theorem sub_withSub (sub : SubStatus) :
    (s.withSub name version sub).sub other otherVersion =
      if name = other ∧ version = otherVersion then sub else s.sub other otherVersion := by
  rw [sub_eq_getD, sub?_withSub, sub_eq_getD]
  split <;> rfl

theorem sub_withReason (reason : String) :
    (s.withReason name reason).sub other version = s.sub other version := by
  rw [sub_eq_getD, sub?_withReason, ← sub_eq_getD]

/-- Neither change takes an entry away. -/
theorem isSome_get?_withSub (sub : SubStatus) (h : (s.instances.get? other).isSome) :
    ((s.withSub name version sub).instances.get? other).isSome := by
  by_cases hname : name = other <;> simp [withSub, hname, h]

theorem isSome_get?_withReason (reason : String) (h : (s.instances.get? other).isSome) :
    ((s.withReason name reason).instances.get? other).isSome := by
  by_cases hname : name = other <;> simp [withReason, hname, h]

/-- Nothing was started while there are no entries. -/
theorem sub?_of_instances_eq_empty {s : Status} (h : s.instances = ∅) :
    s.sub? name version = none := by
  simp [sub?, h]

theorem reason?_of_instances_eq_empty {s : Status} (h : s.instances = ∅) :
    s.reason? name = none := by
  simp [reason?, h]

end Status

/-- The progress that a record holds for one datastore version of a target. -/
def Record.sub? (r : Record) (target : String) (version : Datastore) : Option SubStatus :=
  r.status.bind (·.sub? target version)

theorem Record.sub?_getD (r : Record) (target : String) (version : Datastore) :
    (r.status.getD {}).sub? target version = r.sub? target version := by
  cases h : r.status with
  | none => simp [Record.sub?, h, Status.sub?]
  | some s => simp [Record.sub?, h]

/-- Why a name is no target, if the record has it noted. -/
def Record.reason? (r : Record) (target : String) : Option String :=
  r.status.bind (·.reason? target)

/-- A record has the phase of its status. -/
theorem Record.phase_congr {r r' : Record} (h : r.status = r'.status) : r.phase = r'.phase := by
  unfold Record.phase
  rw [h]

end EtcdBackup
