import EtcdBackup.Call

/-!
# The store of requests

A store holds at most one record under a name and remembers every record that it ever held. A
record is only put into it under a version that no record of this name had before, so what was
held under a name with a version is one record (`Store.eq_of_version_eq`): comparing versions
compares records.

What a store answers to a request is left open as far as it can be. Every request may fail, and
may fail although it had its effect; what it reads is right if it succeeds (`Store.Gives`). A
write takes over the whole of the record that it was given, or the status alone (`Overwritten`).
-/

set_option autoImplicit false
set_option relaxedAutoImplicit false

namespace EtcdBackup

namespace Record

/-- The version that changes with every write of the record. -/
def version (r : Record) : Option String := r.metadata.resourceVersion

/-- The record under another version. -/
def withVersion (r : Record) (version : Option String) : Record :=
  { r with metadata := { r.metadata with resourceVersion := version } }

end Record

namespace Interleaving

/-- A store of records, and all that it ever held. -/
structure Store where
  records : Keyed Record
  /-- Every record that was held at any time, the latest first. -/
  log : List Record
  /-- A record is held under its own name. -/
  named : ∀ name r, records.get? name = some r → r.name = name
  logged : ∀ name r, records.get? name = some r → r ∈ log
  /-- No version was given twice under a name. -/
  versioned : ∀ r ∈ log, ∀ r' ∈ log, r.name = r'.name → r.version = r'.version → r = r'

namespace Store

variable (s : Store)

/-- The record under a name. -/
def get? (name : String) : Option Record := s.records.get? name

/-- No record of the same name ever had the version. -/
def IsFresh (r : Record) : Prop := ∀ old ∈ s.log, old.name = r.name → old.version ≠ r.version

variable {s} {name other : String} {r : Record}

theorem name_eq_of_get? (h : s.get? name = some r) : r.name = name := s.named name r h

theorem mem_log_of_get? (h : s.get? name = some r) : r ∈ s.log := s.logged name r h

/-- The store without records. -/
def empty : Store where
  records := ∅
  log := []
  named := fun _ _ h ↦ by cases h
  logged := fun _ _ h ↦ by cases h
  versioned := List.forall_mem_nil _

/-- The store with a record under a fresh version in place of the one of the same name. -/
def put (s : Store) (r : Record) (fresh : s.IsFresh r) : Store where
  records := s.records.insert r.name r
  log := r :: s.log
  named := by
    intro name held h
    rw [Keyed.get?_insert] at h
    split at h
    case isTrue hname => rwa [← Option.some.inj h]
    case isFalse => exact s.named name held h
  logged := by
    intro name held h
    rw [Keyed.get?_insert] at h
    split at h
    case isTrue => exact Option.some.inj h ▸ List.mem_cons_self
    case isFalse => exact List.mem_cons_of_mem _ (s.logged name held h)
  versioned := by
    intro a ha b hb hname hversion
    rcases List.mem_cons.1 ha with hr | ha
    · rcases List.mem_cons.1 hb with hr' | hb
      · rw [hr, hr']
      · rw [hr] at hname hversion
        exact (fresh b hb hname.symm hversion.symm).elim
    · rcases List.mem_cons.1 hb with hr' | hb
      · rw [hr'] at hname hversion
        exact (fresh a ha hname hversion).elim
      · exact s.versioned a ha b hb hname hversion

/-- The store without the record of a name. -/
def remove (s : Store) (name : String) : Store where
  records := s.records.erase name
  log := s.log
  named := by
    intro other held h
    rw [Keyed.get?_erase] at h
    split at h
    case isTrue => cases h
    case isFalse => exact s.named other held h
  logged := by
    intro other held h
    rw [Keyed.get?_erase] at h
    split at h
    case isTrue => cases h
    case isFalse => exact s.logged other held h
  versioned := s.versioned

@[simp] theorem get?_put (fresh : s.IsFresh r) (name : String) :
    (s.put r fresh).get? name = if r.name = name then some r else s.get? name :=
  Keyed.get?_insert _ _ _ _

@[simp] theorem get?_remove (name other : String) :
    (s.remove name).get? other = if name = other then none else s.get? other :=
  Keyed.get?_erase _ _ _

theorem isFresh_put {r' : Record} (fresh : s.IsFresh r) (hversion : r.version ≠ r'.version)
    (fresh' : s.IsFresh r') : (s.put r fresh).IsFresh r' := by
  intro old hold hname
  rcases List.mem_cons.1 hold with rfl | hold
  · exact hversion
  · exact fresh' old hold hname

/-- Comparing versions compares records. -/
theorem eq_of_version_eq {known stored : Record} (hknown : known ∈ s.log)
    (hstored : s.get? known.name = some stored) (hversion : known.version = stored.version) :
    stored = known :=
  s.versioned stored (mem_log_of_get? hstored) known hknown (name_eq_of_get? hstored)
    hversion.symm

/-- The answers to a request that has no effect on the store. -/
def Gives (s : Store) : (c : Call) → c.Answer → Prop
  | .get name, .ok r => s.get? name = some r
  | .list, .ok all => all.Perm s.records.values
  | .updateStatus _, .ok _ => False
  | .delete _, .ok _ => False
  | _, _ => True

end Store

/-- What the write of a status makes of the stored record: it takes over the whole of the record
that it was given, or only the status, under some version. -/
inductive Overwritten (given stored : Record) : Record → Prop
  | whole (version : Option String) : Overwritten given stored (given.withVersion version)
  | status (version : Option String) :
      Overwritten given stored ({ stored with status := given.status }.withVersion version)

theorem Overwritten.name_eq {given stored after : Record} (h : Overwritten given stored after)
    (hname : stored.name = given.name) : after.name = given.name := by
  cases h with
  | whole version => rfl
  | status version => exact hname

end Interleaving

end EtcdBackup
