import EtcdBackup.Metrics
import Mathlib.Algebra.GroupWithZero.Nat
import Mathlib.Data.List.Induction

/-!
# What the metrics hold

The metrics that came of some measurements hold a series for each datastore version of a target that
one of them is about, and it was made up from just these (`get?_ofMeasurements`). The counters of a
series are sums over its measurements; beside them it has the time of the last one, and all that the
last success came with (`Series.Summarizes`).
-/

set_option autoImplicit false
set_option relaxedAutoImplicit false

namespace EtcdBackup

/-- The measurement is about a datastore version of a target. -/
def Measurement.isAbout (target : String) (version : Datastore) (x : Measurement) : Bool :=
  x.target = target && x.version = version

theorem Measurement.isAbout_iff {target : String} {version : Datastore} {x : Measurement} :
    x.isAbout target version ↔ x.target = target ∧ x.version = version := by
  simp [isAbout]

/-! ### One series -/

namespace Series

variable {s : Series} {xs : List Measurement}

@[simp] theorem add_attempts (s : Series) (n : Nat) (o : Option Backup.Outcome) (t : Instant) :
    (s.add n o t).attempts = s.attempts + n := by
  cases o <;> rfl

@[simp] theorem add_successes (s : Series) (n : Nat) (o : Option Backup.Outcome) (t : Instant) :
    (s.add n o t).successes = s.successes + if o.isSome then 1 else 0 := by
  cases o <;> rfl

@[simp] theorem add_latestAttempt (s : Series) (n : Nat) (o : Option Backup.Outcome) (t : Instant) :
    (s.add n o t).latestAttempt = some t := by
  cases o <;> rfl

/-- Of the attempts that are added, all but a success failed. -/
theorem add_successes_add_failures {n : Nat} (h : 1 ≤ n) (s : Series) (o : Option Backup.Outcome)
    (t : Instant) :
    (s.add n o t).successes + (s.add n o t).failures = s.successes + s.failures + n := by
  cases o <;> simp only [add] <;> omega

/-- The series that is made up from some measurements. -/
def ofMeasurements (xs : List Measurement) : Series :=
  xs.foldl (fun s x ↦ s.add x.attempts x.outcome x.finished) {}

/-- The last success among some measurements, with the time at which it was over. -/
def lastSuccess (xs : List Measurement) : Option (Backup.Outcome × Instant) :=
  (xs.filterMap fun x ↦ x.outcome.map (·, x.finished)).getLast?

/-- The series tells of just these measurements, in their order. -/
structure Summarizes (xs : List Measurement) (s : Series) : Prop where
  attempts : s.attempts = (xs.map (·.attempts)).sum
  successes : s.successes = xs.countP (·.outcome.isSome)
  /-- A success is the last of its attempts, and all others failed. -/
  failures : (∀ x ∈ xs, 1 ≤ x.attempts) → s.successes + s.failures = s.attempts
  latestAttempt : s.latestAttempt = xs.getLast?.map (·.finished)
  latestSuccess : s.latestSuccess = (lastSuccess xs).map (·.2)
  creation : s.creation = ((lastSuccess xs).map (·.1.creation)).getD .zero
  encryption : s.encryption = ((lastSuccess xs).map (·.1.encryption)).getD .zero
  upload : s.upload = ((lastSuccess xs).map (·.1.upload)).getD .zero
  size : s.size = ((lastSuccess xs).map (·.1.size)).getD 0

theorem summarizes_nil : Summarizes [] {} :=
  ⟨rfl, rfl, fun _ ↦ rfl, rfl, rfl, rfl, rfl, rfl, rfl⟩

/-- A success takes the place of the one before it, and a failure leaves it. -/
theorem lastSuccess_append_singleton (xs : List Measurement) (x : Measurement) :
    lastSuccess (xs ++ [x]) = (x.outcome.map (·, x.finished)).or (lastSuccess xs) := by
  cases hx : x.outcome <;> simp [lastSuccess, hx]

/-- One more measurement. -/
theorem Summarizes.add (h : Summarizes xs s) (x : Measurement) :
    Summarizes (xs ++ [x]) (s.add x.attempts x.outcome x.finished) := by
  constructor
  case attempts => simp [h.attempts]
  case successes => simp [h.successes, List.countP_singleton]
  case failures =>
    intro pos
    rw [List.forall_mem_append, List.forall_mem_singleton] at pos
    rw [add_successes_add_failures pos.2, add_attempts, h.failures pos.1]
  case latestAttempt => simp
  all_goals
    rw [lastSuccess_append_singleton]
    cases x.outcome
  -- A failure keeps what the last success left, and a success writes all of it.
  exacts [h.latestSuccess, rfl, h.creation, rfl, h.encryption, rfl, h.upload, rfl, h.size, rfl]

theorem ofMeasurements_append_singleton (xs : List Measurement) (x : Measurement) :
    ofMeasurements (xs ++ [x]) = (ofMeasurements xs).add x.attempts x.outcome x.finished := by
  unfold ofMeasurements
  rw [List.foldl_append]
  rfl

theorem summarizes_ofMeasurements (xs : List Measurement) : Summarizes xs (ofMeasurements xs) := by
  induction xs using List.reverseRecOn with
  | nil => exact summarizes_nil
  | append_singleton xs x ih =>
    rw [ofMeasurements_append_singleton]
    exact ih.add x

end Series

/-! ### All series -/

@[simp] theorem TargetSeries.get?_set (t : TargetSeries) (version other : Datastore) (s : Series) :
    (t.set version s).get? other = if version = other then some s else t.get? other := by
  cases version <;> cases other <;> rfl

@[simp] theorem TargetSeries.get?_default (version : Datastore) :
    ({} : TargetSeries).get? version = none := by
  cases version <;> rfl

namespace Metrics

variable {target : String} {version : Datastore}

/-- The metrics that come of some measurements. -/
def ofMeasurements (xs : List Measurement) : Metrics := xs.foldl record {}

theorem ofMeasurements_append_singleton (xs : List Measurement) (x : Measurement) :
    ofMeasurements (xs ++ [x]) = (ofMeasurements xs).record x := by
  unfold ofMeasurements
  rw [List.foldl_append]
  rfl

theorem get?_getD (m : Metrics) (target : String) (version : Datastore) :
    ((m.targets.get? target).getD {}).get? version = m.get? target version := by
  unfold get?
  cases m.targets.get? target <;> simp

/-- A measurement goes to the one series that it is about. -/
theorem get?_record (m : Metrics) (x : Measurement) (target : String) (version : Datastore) :
    (m.record x).get? target version =
      if x.isAbout target version then
        some (((m.get? target version).getD {}).add x.attempts x.outcome x.finished)
      else m.get? target version := by
  unfold record
  dsimp only
  rw [get?_getD, get?, Keyed.get?_insert]
  by_cases hname : x.target = target
  · subst hname
    by_cases hversion : x.version = version
    · subst hversion
      simp [Measurement.isAbout]
    · simp [Measurement.isAbout, hversion, get?_getD]
  · simp [Measurement.isAbout, hname, get?]

/-- There is a series for each datastore version that was measured, made up from what was measured
for it. -/
theorem get?_ofMeasurements (xs : List Measurement) (target : String) (version : Datastore) :
    (ofMeasurements xs).get? target version =
      if xs.filter (·.isAbout target version) = [] then none
      else some (Series.ofMeasurements (xs.filter (·.isAbout target version))) := by
  induction xs using List.reverseRecOn with
  | nil => rfl
  | append_singleton xs x ih =>
    rw [ofMeasurements_append_singleton, get?_record, ih, List.filter_append]
    cases about : x.isAbout target version with
    | false => simp [about]
    | true =>
      rw [List.filter_cons_of_pos about, List.filter_nil, Series.ofMeasurements_append_singleton,
        if_pos rfl, if_neg (List.append_ne_nil_of_right_ne_nil _ (List.cons_ne_nil x []))]
      generalize xs.filter (·.isAbout target version) = own
      cases own <;> rfl

end Metrics

end EtcdBackup
