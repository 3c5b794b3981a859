import EtcdBackup.Proofs.Record.Entries

/-!
# Progress that is only added to

A status grows when nothing that was recorded is lost: entries stay, a time of start stays, attempts
are not taken back, and a sub-status that is done stays exactly as it is. The relation is
reflexive and transitive, so what each write preserves holds over any number of writes.

`Status.Sound` is the invariant that makes every write of a pass a step of growth: nothing is
recorded before the first round starts, and whatever is recorded was started.
-/

set_option autoImplicit false
set_option relaxedAutoImplicit false

namespace EtcdBackup

/-- The second sub-status adds to the first one. -/
structure SubStatus.Grows (sub sub' : SubStatus) : Prop where
  done : sub.state.isTerminal → sub' = sub
  started : ∀ t, sub.started = some t → sub'.started = some t
  attempts : sub.attempts ≤ sub'.attempts

/-- The work on a sub-status has begun. -/
structure SubStatus.IsBegun (sub : SubStatus) : Prop where
  state : sub.state ≠ .pending
  started : sub.started.isSome

namespace SubStatus.Grows

variable {sub middle last : SubStatus}

theorem refl (sub : SubStatus) : sub.Grows sub := ⟨fun _ ↦ rfl, fun _ h ↦ h, UInt32.le_refl _⟩

theorem trans (first : sub.Grows middle) (second : middle.Grows last) : sub.Grows last where
  done h := by
    have hmiddle := first.done h
    rw [← hmiddle] at h ⊢
    exact second.done h
  started t h := second.started t (first.started t h)
  attempts := UInt32.le_trans first.attempts second.attempts

end SubStatus.Grows

/-- The second status adds to the first one. -/
structure Status.Grows (s s' : Status) : Prop where
  started : ∀ t, s.started = some t → s'.started = some t
  entries : ∀ name, (s.instances.get? name).isSome → (s'.instances.get? name).isSome
  subs : ∀ name version sub, s.sub? name version = some sub →
    ∃ sub', s'.sub? name version = some sub' ∧ sub.Grows sub'

/-- Nothing is recorded before the first round, and only what was begun. -/
structure Status.Sound (s : Status) : Prop where
  fresh : s.phase = .empty ∨ s.phase = .pending → s.instances = ∅ ∧ s.started = none
  begun : ∀ name version sub, s.sub? name version = some sub → sub.IsBegun

namespace Status

variable {s middle last s' : Status} {name : String} {version : Datastore}

theorem Grows.refl (s : Status) : s.Grows s :=
  ⟨fun _ h ↦ h, fun _ h ↦ h, fun _ _ sub h ↦ ⟨sub, h, .refl sub⟩⟩

theorem Grows.trans (first : s.Grows middle) (second : middle.Grows last) : s.Grows last where
  started t h := second.started t (first.started t h)
  entries name h := second.entries name (first.entries name h)
  subs name version sub h := by
    obtain ⟨sub₁, h₁, hfirst⟩ := first.subs name version sub h
    obtain ⟨sub₂, h₂, hsecond⟩ := second.subs name version sub₁ h₁
    exact ⟨sub₂, h₂, hfirst.trans hsecond⟩

/-- A sub-status that is done stays exactly as it is. -/
theorem Grows.sub?_eq (h : s.Grows s') {sub : SubStatus} (hsub : s.sub? name version = some sub)
    (done : sub.state.isTerminal) : s'.sub? name version = some sub := by
  obtain ⟨sub', hsub', hgrows⟩ := h.subs name version sub hsub
  rw [hsub', hgrows.done done]

theorem sub?_congr (h : s'.instances = s.instances) (name : String) (version : Datastore) :
    s'.sub? name version = s.sub? name version := by
  unfold sub?
  rw [h]

theorem Grows.of_instances_eq (h : s'.instances = s.instances) (hstarted : s'.started = s.started) :
    s.Grows s' where
  started _ ht := hstarted.trans ht
  entries _ hname := h ▸ hname
  subs name version sub hsub := ⟨sub, (sub?_congr h name version).trans hsub, .refl sub⟩

/-- Nothing is lost where nothing was recorded. -/
theorem Grows.of_empty (h : s.instances = ∅) (hstarted : s.started = none) : s.Grows s' where
  started t ht := by
    rw [hstarted] at ht
    cases ht
  entries name hname := by
    rw [h] at hname
    cases hname
  subs name version sub hsub := by
    rw [sub?_of_instances_eq_empty name version h] at hsub
    cases hsub

theorem grows_withReason (s : Status) (name reason : String) : s.Grows (s.withReason name reason)
    where
  started _ h := h
  entries other h := isSome_get?_withReason s name other reason h
  subs other version sub h :=
    ⟨sub, (sub?_withReason s name other version reason).trans h, .refl sub⟩

theorem grows_withSub {sub : SubStatus} (h : (s.sub name version).Grows sub) :
    s.Grows (s.withSub name version sub) where
  started _ h := h
  entries other := isSome_get?_withSub s name other version sub
  subs other otherVersion old hold := by
    rw [sub?_withSub]
    by_cases hsame : name = other ∧ version = otherVersion
    · obtain ⟨rfl, rfl⟩ := hsame
      rw [sub_eq_getD, hold] at h
      exact ⟨sub, if_pos ⟨rfl, rfl⟩, h⟩
    · exact ⟨old, (if_neg hsame).trans hold, .refl old⟩

/-! ### Soundness -/

/-- A status without any entry is sound. -/
theorem Sound.of_instances_eq_empty (h : s.instances = ∅)
    (hstarted : s.phase = .empty ∨ s.phase = .pending → s.started = none) : s.Sound where
  fresh hphase := ⟨h, hstarted hphase⟩
  begun name version sub hsub := by
    rw [sub?_of_instances_eq_empty name version h] at hsub
    cases hsub

theorem sound_default : ({} : Status).Sound := .of_instances_eq_empty rfl fun _ ↦ rfl

/-- Another phase does no harm, unless it is one before the first round. -/
theorem Sound.of_instances_eq (sound : s.Sound) (h : s'.instances = s.instances)
    (hphase : ¬(s'.phase = .empty ∨ s'.phase = .pending)) : s'.Sound where
  fresh := fun hfresh ↦ (hphase hfresh).elim
  begun name version sub hsub :=
    sound.begun name version sub ((sub?_congr h name version).symm.trans hsub)

theorem Sound.withReason (sound : s.Sound)
    (hphase : ¬(s.phase = .empty ∨ s.phase = .pending)) (reason : String) :
    (s.withReason name reason).Sound where
  fresh := fun hfresh ↦ (hphase hfresh).elim
  begun other version sub hsub :=
    sound.begun other version sub ((sub?_withReason s name other version reason).symm.trans hsub)

theorem Sound.withSub (sound : s.Sound) (hphase : ¬(s.phase = .empty ∨ s.phase = .pending))
    {sub : SubStatus} (begun : sub.IsBegun) : (s.withSub name version sub).Sound where
  fresh := fun hfresh ↦ (hphase hfresh).elim
  begun other otherVersion old hold := by
    rw [sub?_withSub] at hold
    split at hold
    case isTrue => exact Option.some.inj hold ▸ begun
    case isFalse => exact sound.begun other otherVersion old hold

end Status

end EtcdBackup
