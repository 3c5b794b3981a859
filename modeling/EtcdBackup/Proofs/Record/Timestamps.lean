import EtcdBackup.Proofs.Record.Growth
import EtcdBackup.Proofs.Time.Elapsed

/-!
# The times in a status

A status holds the times at which the cycle began and ended, and those of the work on each
datastore of each target (`Status.Slot`). They are in order (`Status.IsChronological`) if the work
begins after the cycle, ends after it began, and has come to an end where the cycle has, and if the
v3 datastores come after the v2 ones.

A sub-status takes one time at a step, that of its begin or that of its end (`SubStatus.Strikes`).
The order is kept if this time is no earlier than those that the status has already.
-/

set_option autoImplicit false
set_option relaxedAutoImplicit false

namespace EtcdBackup

/-- The work on a datastore begins at one of the times, or ends at one of them. -/
inductive SubStatus.Strikes (times : List Instant) (sub sub' : SubStatus) : Prop
  | begins (fresh : sub.started = none) {t : Instant} (ht : t ∈ times)
      (started : sub'.started = some t) (finished : sub'.finished = sub.finished)
  | ends {begun : Instant} (started : sub.started = some begun)
      (same : sub'.started = some begun) {t : Instant} (ht : t ∈ times)
      (finished : sub'.finished = some t)

theorem SubStatus.Strikes.mono {times more : List Instant} {sub sub' : SubStatus}
    (h : sub.Strikes times sub') (hmore : times ⊆ more) : sub.Strikes more sub' := by
  cases h with
  | begins fresh ht started finished => exact .begins fresh (hmore ht) started finished
  | ends started same ht finished => exact .ends started same (hmore ht) finished

namespace Status

/-- Where a status holds a time. -/
inductive Slot
  | started
  | finished
  | begun (name : String) (version : Datastore)
  | ended (name : String) (version : Datastore)

variable {s s' : Status} {name : String} {version : Datastore} {times : List Instant}
  {now : Instant}

/-- The time that a status holds in a place. -/
def stamp? (s : Status) : Slot → Option Instant
  | .started => s.started
  | .finished => s.finished
  | .begun name version => (s.sub? name version).bind SubStatus.started
  | .ended name version => (s.sub? name version).bind SubStatus.finished

/-- The time is one of those that the status holds. -/
def HasStamp (s : Status) (t : Instant) : Prop := ∃ slot, s.stamp? slot = some t

theorem HasStamp.of_begun {sub : SubStatus} {t : Instant} (hsub : s.sub? name version = some sub)
    (ht : sub.started = some t) : s.HasStamp t :=
  ⟨.begun name version, Option.bind_eq_some_iff.2 ⟨sub, hsub, ht⟩⟩

theorem HasStamp.of_ended {sub : SubStatus} {t : Instant} (hsub : s.sub? name version = some sub)
    (ht : sub.finished = some t) : s.HasStamp t :=
  ⟨.ended name version, Option.bind_eq_some_iff.2 ⟨sub, hsub, ht⟩⟩

theorem not_hasStamp_default (t : Instant) : ¬({} : Status).HasStamp t := by
  rintro ⟨slot, hslot⟩
  cases slot <;> cases hslot

/-! ### Times that are added -/

/-- The second status holds the times of the first one, and beside them only some given ones. -/
def AddsOnly (times : List Instant) (s s' : Status) : Prop :=
  ∀ slot t, s'.stamp? slot = some t → s.stamp? slot = some t ∨ t ∈ times

namespace AddsOnly

theorem of_instances_eq (h : s'.instances = s.instances)
    (started : ∀ t, s'.started = some t → s.started = some t ∨ t ∈ times)
    (finished : ∀ t, s'.finished = some t → s.finished = some t ∨ t ∈ times) :
    AddsOnly times s s' := by
  intro slot t ht
  cases slot with
  | started => exact started t ht
  | finished => exact finished t ht
  | begun name version | ended name version =>
    rw [stamp?, sub?_congr h] at ht
    exact .inl ht

theorem of_instances_eq_empty (h : s'.instances = ∅)
    (started : ∀ t, s'.started = some t → s.started = some t ∨ t ∈ times)
    (finished : s'.finished = s.finished) : AddsOnly times s s' := by
  intro slot t ht
  cases slot with
  | started => exact started t ht
  | finished => exact .inl (finished.symm.trans ht)
  | begun name version | ended name version =>
    rw [stamp?, sub?_of_instances_eq_empty name version h] at ht
    cases ht

theorem withReason (s : Status) (name reason : String) :
    AddsOnly times s (s.withReason name reason) := by
  intro slot t ht
  cases slot with
  | started | finished => exact .inl ht
  | begun other version | ended other version =>
    rw [stamp?, sub?_withReason] at ht
    exact .inl ht

theorem withSub {sub : SubStatus} (h : (s.sub name version).Strikes times sub) :
    AddsOnly times s (s.withSub name version sub) := by
  have hold {t : Instant} {field : SubStatus → Option Instant} (hnone : field {} = none)
      (ht : field (s.sub name version) = some t) : (s.sub? name version).bind field = some t := by
    rw [sub_eq_getD] at ht
    cases hsub : s.sub? name version with
    | none =>
      rw [hsub, Option.getD_none, hnone] at ht
      cases ht
    | some old =>
      rw [hsub] at ht
      exact ht
  intro slot t ht
  cases slot with
  | started | finished => exact .inl ht
  | begun other otherVersion =>
    rw [stamp?, sub?_withSub] at ht
    split at ht
    case isTrue same =>
      obtain ⟨rfl, rfl⟩ := same
      cases h with
      | begins fresh hmem started =>
        cases started.symm.trans ht
        exact .inr hmem
      | ends started same => exact .inl (hold rfl (started.trans (same.symm.trans ht)))
    case isFalse => exact .inl ht
  | ended other otherVersion =>
    rw [stamp?, sub?_withSub] at ht
    split at ht
    case isTrue same =>
      obtain ⟨rfl, rfl⟩ := same
      cases h with
      | begins fresh hmem started finished => exact .inl (hold rfl (finished.symm.trans ht))
      | ends started same hmem finished =>
        cases finished.symm.trans ht
        exact .inr hmem
    case isFalse => exact .inl ht

end AddsOnly

/-! ### Times in order -/

/-- The times of a status are in order. -/
structure IsChronological (s : Status) : Prop where
  /-- The work on a datastore begins after the cycle, and ends after it began. -/
  subs : ∀ name version sub, s.sub? name version = some sub →
    ∃ start begun, s.started = some start ∧ sub.started = some begun ∧ start ≤ begun ∧
      ∀ t, sub.finished = some t → begun ≤ t
  /-- The v3 datastores come after the v2 ones. -/
  rounds : ∀ name other sub sub' t t', s.sub? name .v2 = some sub → sub.finished = some t →
    s.sub? other .v3 = some sub' → sub'.started = some t' → t ≤ t'
  /-- The end of the cycle is the last time of all. -/
  last : ∀ finish, s.finished = some finish → ∀ t, s.HasStamp t → t ≤ finish

theorem exists_sub?_of_started {begun : Instant}
    (started : (s.sub name version).started = some begun) :
    ∃ old, s.sub? name version = some old ∧ old.started = some begun := by
  rw [sub_eq_getD] at started
  cases hsub : s.sub? name version with
  | none =>
    rw [hsub] at started
    cases started
  | some old =>
    rw [hsub] at started
    exact ⟨old, rfl, started⟩

namespace IsChronological

/-- A status without entries is in order while the cycle goes on. -/
theorem of_instances_eq_empty (h : s.instances = ∅) (unfinished : s.finished = none) :
    s.IsChronological where
  subs name version sub hsub := by
    rw [sub?_of_instances_eq_empty name version h] at hsub
    cases hsub
  rounds name _ _ _ _ _ hsub := by
    rw [sub?_of_instances_eq_empty name .v2 h] at hsub
    cases hsub
  last finish hfinish := by
    rw [unfinished] at hfinish
    cases hfinish

theorem of_sub?_eq (h : s.IsChronological)
    (hsub : ∀ name version, s'.sub? name version = s.sub? name version)
    (started : s'.started = s.started)
    (last : ∀ finish, s'.finished = some finish → ∀ t, s'.HasStamp t → t ≤ finish) :
    s'.IsChronological where
  subs name version sub := by
    rw [hsub, started]
    exact h.subs name version sub
  rounds name other sub sub' t t' := by
    rw [hsub, hsub]
    exact h.rounds name other sub sub' t t'
  last := last

/-- While the cycle goes on, nothing changes with the phase, nor with a reason that is noted. -/
theorem goOn (h : s.IsChronological)
    (hsub : ∀ name version, s'.sub? name version = s.sub? name version)
    (started : s'.started = s.started) (unfinished : s'.finished = none) : s'.IsChronological :=
  h.of_sub?_eq hsub started fun finish hfinish ↦ by
    rw [unfinished] at hfinish
    cases hfinish

/-- The cycle ends at a time that is no earlier than any other. -/
theorem finish (h : s.IsChronological) (later : ∀ t, s.HasStamp t → t ≤ now)
    (instances : s'.instances = s.instances) (started : s'.started = s.started)
    (finished : s'.finished = some now) : s'.IsChronological := by
  refine h.of_sub?_eq (sub?_congr instances) started fun finish hfinish t ht ↦ ?_
  cases finished.symm.trans hfinish
  obtain ⟨slot, hslot⟩ := ht
  cases slot with
  | started => exact later t ⟨.started, started.symm.trans hslot⟩
  | finished =>
    cases finished.symm.trans hslot
    exact Instant.le_refl _
  | begun name version =>
    rw [stamp?, sub?_congr instances] at hslot
    exact later t ⟨.begun name version, hslot⟩
  | ended name version =>
    rw [stamp?, sub?_congr instances] at hslot
    exact later t ⟨.ended name version, hslot⟩

theorem eq_none_of_fresh (h : s.IsChronological) (fresh : (s.sub name version).started = none) :
    s.sub? name version = none := by
  cases hsub : s.sub? name version with
  | none => rfl
  | some old =>
    obtain ⟨_, begun, -, started, -⟩ := h.subs name version old hsub
    rw [sub_eq_getD, hsub, Option.getD_some, started] at fresh
    cases fresh

/-- A sub-status begins or ends at a time that is no earlier than any other. While v2 datastores are
worked on there are no v3 ones. -/
theorem withSub (h : s.IsChronological) {start : Instant} (started : s.started = some start)
    (unfinished : s.finished = none) {sub : SubStatus}
    (strikes : (s.sub name version).Strikes times sub)
    (later : ∀ t, s.HasStamp t → ∀ t' ∈ times, t ≤ t')
    (inOrder : version = .v2 → ∀ other, s.sub? other .v3 = none) :
    (s.withSub name version sub).IsChronological where
  subs other otherVersion new hnew := by
    rw [sub?_withSub] at hnew
    split at hnew
    case isTrue same =>
      obtain ⟨rfl, rfl⟩ := same
      cases hnew
      cases strikes with
      | @begins fresh t ht begun finished =>
        refine ⟨start, t, started, begun, later start ⟨.started, started⟩ t ht, fun t' ht' ↦ ?_⟩
        rw [finished, sub_eq_getD, h.eq_none_of_fresh fresh] at ht'
        cases ht'
      | @ends begun before same t ht finished =>
        obtain ⟨old, hold, hbegun⟩ := exists_sub?_of_started before
        obtain ⟨start', begun', hstart, hbegun', le, -⟩ := h.subs _ _ old hold
        cases hbegun.symm.trans hbegun'
        refine ⟨start', begun, hstart, same, le, fun t' ht' ↦ ?_⟩
        cases finished.symm.trans ht'
        exact later begun (.of_begun hold hbegun) t ht
    case isFalse => exact h.subs other otherVersion new hnew
  rounds first other ended begun t t' hended ht hbegun ht' := by
    rw [sub?_withSub] at hended hbegun
    cases version with
    | v2 =>
      rw [if_neg (by simp), inOrder rfl] at hbegun
      cases hbegun
    | v3 =>
      rw [if_neg (by simp)] at hended
      split at hbegun
      case isTrue same =>
        obtain ⟨rfl, -⟩ := same
        cases hbegun
        cases strikes with
        | begins fresh hmem begun =>
          cases begun.symm.trans ht'
          exact later t (.of_ended hended ht) t' hmem
        | ends before same =>
          obtain ⟨old, hold, hbegun⟩ := exists_sub?_of_started before
          cases same.symm.trans ht'
          exact h.rounds _ _ _ _ _ _ hended ht hold hbegun
      case isFalse => exact h.rounds _ _ _ _ _ _ hended ht hbegun ht'
  last finish hfinish := by
    cases unfinished.symm.trans hfinish

end IsChronological

end Status

end EtcdBackup
