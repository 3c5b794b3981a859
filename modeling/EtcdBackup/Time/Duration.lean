/-!
# Durations

A duration is a whole number of nanoseconds.
-/

set_option autoImplicit false
set_option relaxedAutoImplicit false

namespace EtcdBackup

/-- A span of time. -/
structure Duration where
  nanos : Nat
  deriving DecidableEq, Inhabited, Repr

namespace Duration

def ofSeconds (n : Nat) : Duration := ⟨n * 1000000000⟩

def ofMillis (n : Nat) : Duration := ⟨n * 1000000⟩

def zero : Duration := ⟨0⟩

/-- The whole seconds of a duration. -/
def seconds (d : Duration) : Nat := d.nanos / 1000000000

/-- The whole milliseconds of a duration. -/
def millis (d : Duration) : Nat := d.nanos / 1000000

/-- The whole milliseconds as a 64-bit word, the largest word if there are more. -/
def millisWord (d : Duration) : UInt64 :=
  if h : d.millis < UInt64.size then UInt64.ofNatLT d.millis h else UInt64.ofNat (UInt64.size - 1)

instance : Add Duration := ⟨fun a b ↦ ⟨a.nanos + b.nanos⟩⟩

/-- The time that passed between two readings of a stopwatch. -/
def since (later earlier : Duration) : Duration := ⟨later.nanos - earlier.nanos⟩

end Duration

end EtcdBackup
