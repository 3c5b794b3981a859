import EtcdBackup.Time.Instant

/-!
# The time between two instants

Instants are ordered by their seconds, and by their nanoseconds within a second (`le_iff`). Away
from leap seconds the time between two of them is the difference of two counts of nanoseconds
(`nanosSince_eq_sub`), so it grows with the later one.

A leap second counts with the second of the day that it follows, also if the second behind it is
the first one of another day. So at the end of a day time can have passed since an instant that is
still to come, and nowhere else (`isBehindLeap_of_lt`). A clock never reads such a time
(`IsReading`).
-/

set_option autoImplicit false
set_option relaxedAutoImplicit false

namespace EtcdBackup.Instant

instance : LE Instant := leOfOrd

instance : LT Instant := ltOfOrd

variable {a b c : Instant}

theorem lt_iff : a < b ↔ a.seconds < b.seconds ∨ a.seconds = b.seconds ∧ a.nanos < b.nanos := by
  change cmp a b = .lt ↔ _
  unfold cmp
  rw [Ordering.then_eq_lt, Int.compare_eq_lt, Int.compare_eq_eq, Nat.compare_eq_lt]

theorem le_iff : a ≤ b ↔ a.seconds < b.seconds ∨ a.seconds = b.seconds ∧ a.nanos ≤ b.nanos := by
  change (cmp a b).isLE ↔ _
  unfold cmp
  rw [Ordering.isLE_then_iff_or, Int.compare_eq_lt, Int.compare_eq_eq, Nat.isLE_compare]

theorem le_refl (a : Instant) : a ≤ a := le_iff.2 (.inr ⟨rfl, Nat.le_refl _⟩)

theorem le_trans (h : a ≤ b) (h' : b ≤ c) : a ≤ c := by
  rw [le_iff] at *
  omega

/-! ### Without leap seconds -/

/-- The nanoseconds since the start of 1970. -/
def sinceEpoch (t : Instant) : Int := t.seconds * 1000000000 + t.nanos

/-- Away from leap seconds the elapsed time is exact. -/
theorem nanosSince_eq_sub (ha : a.isLeap = false) (hb : b.isLeap = false) :
    b.nanosSince a = b.sinceEpoch - a.sinceEpoch := by
  unfold nanosSince sinceEpoch
  rw [ha, hb]
  simp only [Bool.false_eq_true, if_false, ite_self]
  omega

theorem nanos_lt_of_isLeap_eq_false (h : a.isLeap = false) : a.nanos < 1000000000 :=
  Nat.lt_of_not_le (of_decide_eq_false h)

/-- And it grows with the later instant. -/
theorem nanosSince_le_nanosSince (ha : a.isLeap = false) (hb : b.isLeap = false)
    (hc : c.isLeap = false) (h : b ≤ c) : b.nanosSince a ≤ c.nanosSince a := by
  have hnanos := nanos_lt_of_isLeap_eq_false hb
  rw [nanosSince_eq_sub ha hb, nanosSince_eq_sub ha hc]
  unfold sinceEpoch
  rw [le_iff] at h
  omega

/-! ### At the end of a day -/

/-- The first instant is a leap second at the end of a day, and the second one lies in the second
behind it. -/
structure IsBehindLeap (a b : Instant) : Prop where
  isLeap : a.isLeap = true
  seconds : b.seconds = a.seconds + 1
  secondOfDay : b.secondOfDay = 0

/-- A leap second carries a thousand million nanoseconds or more, and it ends a minute. -/
theorem of_isLeap (h : a.isLeap = true) : 1000000000 ≤ a.nanos ∧ a.seconds % 60 = 59 :=
  ⟨of_decide_eq_true h, a.regular h⟩

/-- No time has passed since an instant that is still to come, if now is no leap second. -/
theorem nanosSince_nonpos_of_lt (ha : a.isLeap = false) (h : a < b) : a.nanosSince b ≤ 0 := by
  have hnanos := nanos_lt_of_isLeap_eq_false ha
  rw [lt_iff] at h
  unfold nanosSince Moment.secondOfDay
  rw [ha]
  cases hb : b.isLeap with
  | false =>
    simp only [Bool.false_eq_true, if_false, ite_self]
    omega
  | true =>
    -- The leap second only counts on a later day, where it is more than a second away.
    obtain ⟨hleap, hminute⟩ := of_isLeap hb
    simp only [Bool.false_eq_true, if_false, if_true, ite_self]
    split <;> omega

/-- There the leap second counts in full. -/
theorem IsBehindLeap.nanosSince_eq (h : IsBehindLeap a b) :
    a.nanosSince b = a.nanos - 1000000000 - b.nanos := by
  have hday := h.secondOfDay
  have hseconds := h.seconds
  unfold Moment.secondOfDay at hday
  have hlast : b.secondOfDay < a.secondOfDay := by
    unfold Moment.secondOfDay
    omega
  have regular : b.isLeap = false := by
    cases hb : b.isLeap with
    | false => rfl
    | true =>
      have := (of_isLeap hb).2
      omega
  unfold nanosSince
  rw [if_pos hlast, regular, hseconds]
  simp only [Bool.false_eq_true, if_false]
  omega

/-- Only at the end of a day can time have passed since an instant that is still to come. -/
theorem isBehindLeap_of_lt (h : a < b) (elapsed : 0 < a.nanosSince b) : IsBehindLeap a b := by
  have isLeap : a.isLeap = true := by
    cases ha : a.isLeap with
    | false => exact absurd elapsed (Int.not_lt.2 (nanosSince_nonpos_of_lt ha h))
    | true => rfl
  obtain ⟨hleap, hminute⟩ := of_isLeap isLeap
  have hnanos := a.valid.2.2
  rw [lt_iff] at h
  unfold nanosSince Moment.secondOfDay at elapsed
  rw [isLeap] at elapsed
  have place : b.seconds = a.seconds + 1 ∧ b.seconds % 86400 = 0 := by
    cases hb : b.isLeap with
    | false =>
      simp only [hb, Bool.false_eq_true, if_false, if_true] at elapsed
      split at elapsed <;> try split at elapsed
      all_goals omega
    | true =>
      -- Two leap seconds are a minute apart at least.
      obtain ⟨hleap', hminute'⟩ := of_isLeap hb
      simp only [hb, if_true] at elapsed
      split at elapsed <;> try split at elapsed
      all_goals omega
  exact ⟨isLeap, place.1, by unfold Moment.secondOfDay; omega⟩

/-! ### What a clock reads -/

/-- A time that the system clock can read. It counts the whole seconds since 1970 and the nanoseconds
of the second that runs, of which there are less than a thousand million. -/
def IsReading (t : Instant) : Prop := t.nanos < 1000000000

theorem IsReading.isLeap (h : a.IsReading) : a.isLeap = false :=
  decide_eq_false (Nat.not_le_of_lt h)

/-- No clock reads a time at which something still to come is in the past. -/
theorem IsReading.not_lt_nanosSince (h : a.IsReading) (future : a < b) (nanos : Nat) :
    ¬ (nanos : Int) < a.nanosSince b := by
  have := nanosSince_nonpos_of_lt h.isLeap future
  omega

end EtcdBackup.Instant
