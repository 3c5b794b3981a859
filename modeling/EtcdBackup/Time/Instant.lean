import EtcdBackup.Time.Calendar
import EtcdBackup.Time.Duration

/-!
# Moments and instants

A moment counts seconds from 1970-01-01T00:00:00Z, with nanoseconds. A leap second shares its count
with the second before it and carries a thousand million nanoseconds or more. Moments lie in the
years -262143 to 262142.

Leap seconds are inserted behind the last second of a minute and nowhere else. An `Instant` is a
moment that keeps to that; a time that is read, be it from a text or off a clock, is an instant.

`Instant.nanosSince` is the elapsed time between two instants: a leap second counts when one of the
two falls into it and the other lies in a different second of the day.
-/

set_option autoImplicit false
set_option relaxedAutoImplicit false

namespace EtcdBackup

namespace Moment

/-- The first second of the year -262143. -/
def minSeconds : Int := (Date.dayNumber ⟨-262143, 1, 1⟩) * 86400

/-- The last second of the year 262142. -/
def maxSeconds : Int := (Date.dayNumber ⟨262143, 1, 1⟩) * 86400 - 1

/-- The seconds lie in the years a moment can have, and the nanoseconds in two seconds. -/
def Valid (seconds : Int) (nanos : Nat) : Prop :=
  minSeconds ≤ seconds ∧ seconds ≤ maxSeconds ∧ nanos < 2000000000

instance (seconds : Int) (nanos : Nat) : Decidable (Valid seconds nanos) :=
  inferInstanceAs (Decidable (_ ∧ _ ∧ _))

end Moment

/-- A count of seconds and nanoseconds, in coordinated universal time. -/
structure Moment where
  seconds : Int
  nanos : Nat
  valid : Moment.Valid seconds nanos
  deriving DecidableEq

namespace Moment

/-- Whether the moment lies inside a leap second. -/
def isLeap (t : Moment) : Bool := 1000000000 ≤ t.nanos

/-- The date of the moment. -/
def date (t : Moment) : Date := Date.ofDayNumber (Int.fdiv t.seconds 86400)

/-- The second of the day, from 0 to 86399. -/
def secondOfDay (t : Moment) : Nat := (t.seconds % 86400).toNat

/-- A leap second, if the moment lies in one, ends a minute. -/
def IsRegular (t : Moment) : Prop := t.isLeap = true → t.seconds % 60 = 59

instance (t : Moment) : Decidable t.IsRegular := inferInstanceAs (Decidable (_ → _))

end Moment

/-- A point in time that can be read: a moment with leap seconds at the ends of minutes only. -/
structure Instant extends Moment where
  regular : toMoment.IsRegular
  deriving DecidableEq

namespace Instant

/-- The instant with that count, if there is one. -/
def ofUnix? (seconds : Int) (nanos : Nat) : Option Instant :=
  if valid : Moment.Valid seconds nanos then
    let t : Moment := ⟨seconds, nanos, valid⟩
    if regular : t.IsRegular then some ⟨t, regular⟩ else none
  else none

theorem ofUnix?_eq_some (t : Instant) : ofUnix? t.seconds t.nanos = some t := by
  rw [ofUnix?, dif_pos t.valid]
  exact dif_pos t.regular

/-- The start of 1970. -/
def epoch : Instant := ⟨⟨0, 0, by decide⟩, by decide⟩

instance : Inhabited Instant := ⟨epoch⟩

/-- Order of instants: by seconds, then by nanoseconds. -/
def cmp (a b : Instant) : Ordering :=
  (compare a.seconds b.seconds).then (compare a.nanos b.nanos)

instance : Ord Instant := ⟨cmp⟩

/-- The nanoseconds from `earlier` to `later`. -/
def nanosSince (later earlier : Instant) : Int :=
  let leap : Int :=
    if earlier.secondOfDay < later.secondOfDay then (if earlier.isLeap then 1 else 0)
    else if later.secondOfDay < earlier.secondOfDay then (if later.isLeap then -1 else 0)
    else 0
  (later.seconds - earlier.seconds + leap) * 1000000000 + later.nanos - earlier.nanos

/-- The instant a number of seconds later, the same instant if that lies out of range. -/
def addSeconds (t : Instant) (seconds : Int) : Instant :=
  (ofUnix? (t.seconds + seconds) t.nanos).getD t

end Instant

end EtcdBackup
