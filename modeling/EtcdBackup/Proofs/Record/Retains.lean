import EtcdBackup.Proofs.Record.Codec
import EtcdBackup.Proofs.Record.Entries

/-!
# What a status retains of the one before

A status `Retains` another one if it has a value wherever the other one has; a status without any
entries need not account for those of the other one. Such a status covers whatever the other one was
read off (`Status.covers_of_decode`).
-/

set_option autoImplicit false
set_option relaxedAutoImplicit false

namespace EtcdBackup

variable {j : Json}

theorem Fields.cases_of_decode {α : Type} {fs : Fields α} {name : String} {a : α}
    (lawful : fs.Lawful) (ordered : j.Ordered) (h : fs.decode name j = .ok a) :
    (∃ members, j = .object members ∧ fs.Reads members a) ∨ ∃ items, j = .array items := by
  cases ordered with
  | object ascending inside =>
    exact Or.inl ⟨_, rfl, (Fields.decode_object_iff lawful ascending name a).1 h⟩
  | array inside => exact Or.inr ⟨_, rfl⟩
  | null | bool | number | string => cases h

theorem Fields.getD_eq_null {α : Type} {decode : Decoder α} {key : String} {x : Option α}
    (hnone : x = none)
    (h : Fields.read (Decoder.option decode) (.ok none) (j.get? key) = .ok x) :
    j.getD key = .null := by
  rcases Fields.read_option_cases h with ⟨-, hnull⟩ | ⟨b, hsome, -⟩
  · exact hnull
  · rw [hnone] at hsome
    cases hsome

/-! ### The progress of one datastore -/

namespace SubStatus

variable {s old : SubStatus}

/-- The sub-status has a value wherever the old one has. -/
structure Retains (s old : SubStatus) : Prop where
  started : s.started = none → old.started = none
  finished : s.finished = none → old.finished = none
  filename : s.filename = none → old.filename = none

theorem Retains.refl (s : SubStatus) : s.Retains s := ⟨id, id, id⟩

theorem covers_null (s : SubStatus) : s.Covers .null := ⟨fun _ ↦ rfl, fun _ ↦ rfl, fun _ ↦ rfl⟩

theorem reads_optional {members : List (String × Json)} (h : fields.Reads members s) :
    Fields.read (Decoder.option Decoder.instant) (.ok none)
        (Keyed.find? "startedTimestamp" members) = .ok s.started ∧
      Fields.read (Decoder.option Decoder.instant) (.ok none)
        (Keyed.find? "finishedTimestamp" members) = .ok s.finished ∧
      Fields.read (Decoder.option Decoder.string) (.ok none)
        (Keyed.find? "filename" members) = .ok s.filename := by
  obtain ⟨_, _, h₉, hfilename, rfl⟩ := h.exists_of_default
  obtain ⟨_, _, h₈, -, rfl⟩ := h₉.exists_of_default
  obtain ⟨_, _, h₇, -, rfl⟩ := h₈.exists_of_default
  obtain ⟨_, _, h₆, -, rfl⟩ := h₇.exists_of_default
  obtain ⟨_, _, h₅, -, rfl⟩ := h₆.exists_of_default
  obtain ⟨_, _, h₄, -, rfl⟩ := h₅.exists_of_default
  obtain ⟨_, _, h₃, hfinished, rfl⟩ := h₄.exists_of_default
  obtain ⟨_, _, h₂, hstarted, rfl⟩ := h₃.exists_of_default
  obtain ⟨_, _, h₁, -, rfl⟩ := h₂.exists_of_default
  obtain ⟨_, _, h₀, -, rfl⟩ := h₁.exists_of_default
  cases h₀.ofMembers
  exact ⟨hstarted, hfinished, hfilename⟩

theorem covers_of_decode (ordered : j.Ordered) (h : decode j = .ok old) (retains : s.Retains old) :
    s.Covers j := by
  rcases Fields.cases_of_decode lawful_fields ordered h with ⟨members, rfl, reads⟩ | ⟨items, rfl⟩
  · obtain ⟨hstarted, hfinished, hfilename⟩ := reads_optional reads
    exact ⟨fun hs ↦ Fields.getD_eq_null (retains.started hs) hstarted,
      fun hs ↦ Fields.getD_eq_null (retains.finished hs) hfinished,
      fun hs ↦ Fields.getD_eq_null (retains.filename hs) hfilename⟩
  · exact ⟨fun _ ↦ rfl, fun _ ↦ rfl, fun _ ↦ rfl⟩

end SubStatus

/-! ### The entries of the targets -/

namespace InstanceStatus

variable {s old : InstanceStatus}

/-- The entry has a value wherever the old one has. -/
structure Retains (s old : InstanceStatus) : Prop where
  error : s.error = none → old.error = none
  subs : ∀ version sub, old.sub? version = some sub →
    ∃ sub', s.sub? version = some sub' ∧ sub'.Retains sub

theorem Retains.refl (s : InstanceStatus) : s.Retains s := ⟨id, fun _ sub h ↦ ⟨sub, h, .refl sub⟩⟩

theorem covers_null (s : InstanceStatus) : s.Covers .null :=
  ⟨fun _ ↦ rfl, fun _ _ ↦ rfl, fun _ sub _ ↦ sub.covers_null⟩

theorem reads_optional {members : List (String × Json)} (h : fields.Reads members s) :
    Fields.read (Decoder.option Decoder.string) (.ok none) (Keyed.find? "error" members) =
        .ok s.error ∧
      ∀ version, Fields.read (Decoder.option SubStatus.decode) (.ok none)
        (Keyed.find? version.tag members) = .ok (s.sub? version) := by
  obtain ⟨_, _, h₃, hv3, rfl⟩ := h.exists_of_default
  obtain ⟨_, _, h₂, hv2, rfl⟩ := h₃.exists_of_default
  obtain ⟨_, _, h₁, herror, rfl⟩ := h₂.exists_of_default
  obtain ⟨_, _, h₀, -, rfl⟩ := h₁.exists_of_required
  cases h₀.ofMembers
  refine ⟨herror, fun version ↦ ?_⟩
  cases version
  · exact hv2
  · exact hv3

theorem covers_of_decode (ordered : j.Ordered) (h : decode j = .ok old) (retains : s.Retains old) :
    s.Covers j := by
  rcases Fields.cases_of_decode lawful_fields ordered h with ⟨members, rfl, reads⟩ | ⟨items, rfl⟩
  · obtain ⟨herror, hsubs⟩ := reads_optional reads
    refine ⟨fun hs ↦ Fields.getD_eq_null (retains.error hs) herror, fun version hs ↦ ?_,
      fun version sub hs ↦ ?_⟩
    · rcases Fields.read_option_cases (hsubs version) with ⟨-, hnull⟩ | ⟨sub, hold, -⟩
      · exact hnull
      · obtain ⟨sub', hsub', -⟩ := retains.subs version sub hold
        rw [hs] at hsub'
        cases hsub'
    · rcases Fields.read_option_cases (hsubs version) with ⟨-, hnull⟩ | ⟨sub₀, hold, hread⟩
      · rw [show (Json.object members).getD version.tag = .null from hnull]
        exact sub.covers_null
      · obtain ⟨sub', hsub', hretains⟩ := retains.subs version sub₀ hold
        obtain rfl := Option.some.inj (hs.symm.trans hsub')
        exact SubStatus.covers_of_decode (ordered.getD version.tag) hread hretains
  · exact ⟨fun _ ↦ rfl, fun version _ ↦ rfl, fun version sub _ ↦ sub.covers_null⟩

end InstanceStatus

/-! ### The status -/

namespace Status

variable {s old : Status}

/-- The status has a value wherever the old one has, and entries for all names that the old one has
entries for, unless it has none at all. -/
structure Retains (s old : Status) : Prop where
  started : s.started = none → old.started = none
  finished : s.finished = none → old.finished = none
  error : s.error = none → old.error = none
  entries : s.instances.isEmpty = false → ∀ name entry, old.instances.get? name = some entry →
    ∃ entry', s.instances.get? name = some entry' ∧ entry'.Retains entry

theorem Retains.of_instances_eq (h : s.instances = old.instances)
    (started : s.started = none → old.started = none)
    (finished : s.finished = none → old.finished = none)
    (error : s.error = none → old.error = none) : s.Retains old where
  started := started
  finished := finished
  error := error
  entries _ _ entry hentry := ⟨entry, h ▸ hentry, .refl entry⟩

/-- A status without entries need not account for those of the old one. -/
theorem Retains.of_empty (h : s.instances = ∅) (started : s.started = none → old.started = none)
    (finished : s.finished = none → old.finished = none)
    (error : s.error = none → old.error = none) : s.Retains old where
  started := started
  finished := finished
  error := error
  entries hsome := by
    rw [h] at hsome
    cases hsome

/-- Writing one entry retains the other ones. -/
theorem Retains.of_insert {name : String} {entry : InstanceStatus}
    (h : entry.Retains (s.entry name)) :
    ({ s with instances := s.instances.insert name entry } : Status).Retains s where
  started := id
  finished := id
  error := id
  entries _ other entry₀ hentry₀ := by
    by_cases hname : name = other
    · subst hname
      have hentry : s.entry name = entry₀ := by rw [Status.entry, hentry₀]; rfl
      exact ⟨entry, by simp, hentry ▸ h⟩
    · exact ⟨entry₀, by simpa [hname] using hentry₀, .refl entry₀⟩

theorem retains_withReason (s : Status) (name reason : String) :
    (s.withReason name reason).Retains s :=
  .of_insert ⟨nofun, fun version sub h ↦ ⟨sub, (by simpa using h), .refl sub⟩⟩

theorem retains_withSub {name : String} {version : Datastore} {sub : SubStatus}
    (h : sub.Retains (s.sub name version)) : (s.withSub name version sub).Retains s := by
  have herror : ((s.entry name).withSub version sub).error = (s.entry name).error := by
    cases version <;> rfl
  refine .of_insert ⟨fun hnone ↦ herror ▸ hnone, fun other sub₀ hsub₀ ↦ ?_⟩
  rw [InstanceStatus.sub?_withSub]
  by_cases hversion : version = other
  · subst hversion
    rw [Status.sub, InstanceStatus.sub, hsub₀] at h
    exact ⟨sub, if_pos rfl, h⟩
  · exact ⟨sub₀, (if_neg hversion).trans hsub₀, .refl sub₀⟩

theorem covers_null (s : Status) : s.Covers .null :=
  ⟨fun _ ↦ rfl, fun _ ↦ rfl, fun _ ↦ rfl, fun _ _ ↦ nofun, fun _ entry _ ↦ entry.covers_null⟩

theorem reads_optional {members : List (String × Json)} (h : fields.Reads members s) :
    Fields.read (Decoder.option Decoder.instant) (.ok none)
        (Keyed.find? "startedTimestamp" members) = .ok s.started ∧
      Fields.read (Decoder.option Decoder.instant) (.ok none)
        (Keyed.find? "finishedTimestamp" members) = .ok s.finished ∧
      Fields.read (Decoder.keyed InstanceStatus.decode) (.ok ∅)
        (Keyed.find? "instances" members) = .ok s.instances ∧
      Fields.read (Decoder.option Decoder.string) (.ok none) (Keyed.find? "error" members) =
        .ok s.error := by
  obtain ⟨_, _, h₄, herror, rfl⟩ := h.exists_of_default
  obtain ⟨_, _, h₃, hinstances, rfl⟩ := h₄.exists_of_default
  obtain ⟨_, _, h₂, hfinished, rfl⟩ := h₃.exists_of_default
  obtain ⟨_, _, h₁, hstarted, rfl⟩ := h₂.exists_of_default
  obtain ⟨_, _, h₀, -, rfl⟩ := h₁.exists_of_default
  cases h₀.ofMembers
  exact ⟨hstarted, hfinished, hinstances, herror⟩

/-- Each entry that is stored is read. -/
theorem lookups_of_read {m : Keyed InstanceStatus} (ordered : j.Ordered)
    (h : Fields.read (Decoder.keyed InstanceStatus.decode) (.ok ∅) (j.get? "instances") = .ok m)
    (name : String) : ((j.getD "instances").get? name).map InstanceStatus.decode =
      (m.get? name).map .ok := by
  have hordered := ordered.getD "instances"
  unfold Json.getD at hordered ⊢
  cases hget : j.get? "instances" with
  | none =>
    rw [hget] at h
    cases h
    rfl
  | some value =>
    rw [hget] at h hordered
    cases hordered with
    | object ascending inside => exact Decoder.lookups_of_keyed ascending h name
    | null | bool | number | string | array => cases h

/-- An entry that is read is stored, and there is nothing else. -/
theorem entry_cases {m : Keyed InstanceStatus} (ordered : j.Ordered)
    (h : Fields.read (Decoder.keyed InstanceStatus.decode) (.ok ∅) (j.get? "instances") = .ok m)
    (name : String) :
    (m.get? name = none ∧ (j.getD "instances").get? name = none) ∨
      ∃ entry, m.get? name = some entry ∧
        InstanceStatus.decode ((j.getD "instances").getD name) = .ok entry := by
  have hlookup := lookups_of_read ordered h name
  cases hentry : m.get? name with
  | none =>
    rw [hentry, Option.map_none, Option.map_eq_none_iff] at hlookup
    exact Or.inl ⟨rfl, hlookup⟩
  | some entry =>
    rw [hentry] at hlookup
    obtain ⟨value, hvalue, hread⟩ := Option.map_eq_some_iff.1 hlookup
    refine Or.inr ⟨entry, rfl, ?_⟩
    rw [Json.getD, hvalue]
    exact hread

theorem covers_of_decode (ordered : j.Ordered) (h : decode j = .ok old) (retains : s.Retains old) :
    s.Covers j := by
  rcases Fields.cases_of_decode lawful_fields ordered h with ⟨members, rfl, reads⟩ | ⟨items, rfl⟩
  · obtain ⟨hstarted, hfinished, hinstances, herror⟩ := reads_optional reads
    have hcases := entry_cases ordered hinstances
    refine ⟨fun hs ↦ Fields.getD_eq_null (retains.started hs) hstarted,
      fun hs ↦ Fields.getD_eq_null (retains.finished hs) hfinished,
      fun hs ↦ Fields.getD_eq_null (retains.error hs) herror, fun hsome name hname ↦ ?_,
      fun name entry hentry ↦ ?_⟩
    · rcases hcases name with ⟨-, hnone⟩ | ⟨entry, hold, -⟩
      · rw [hnone] at hname
        cases hname
      · obtain ⟨entry', hentry', -⟩ := retains.entries hsome name entry hold
        exact hentry' ▸ rfl
    · rcases hcases name with ⟨-, hnone⟩ | ⟨entry₀, hold, hread⟩
      · rw [Json.getD, hnone]
        exact entry.covers_null
      · have hsome : s.instances.isEmpty = false := Keyed.isEmpty_eq_false_of_get? hentry
        obtain ⟨entry', hentry', hretains⟩ := retains.entries hsome name entry₀ hold
        obtain rfl := Option.some.inj (hentry.symm.trans hentry')
        exact InstanceStatus.covers_of_decode ((ordered.getD "instances").getD name) hread hretains
  · exact ⟨fun _ ↦ rfl, fun _ ↦ rfl, fun _ ↦ rfl, fun _ _ ↦ nofun,
      fun _ entry _ ↦ entry.covers_null⟩

/-- The entries that are stored are those that were read, if they are read at all: an array in
place of the status has no members. -/
theorem read_instances_of_decode (ordered : j.Ordered) (h : decode j = .ok old) :
    ∃ m, Fields.read (Decoder.keyed InstanceStatus.decode) (.ok ∅) (j.get? "instances") = .ok m ∧
      (m = ∅ ∨ m = old.instances) := by
  rcases Fields.cases_of_decode lawful_fields ordered h with ⟨members, rfl, reads⟩ | ⟨items, rfl⟩
  · obtain ⟨-, -, hinstances, -⟩ := reads_optional reads
    exact ⟨_, hinstances, Or.inr rfl⟩
  · exact ⟨∅, rfl, Or.inl rfl⟩

/-- What is read back of a status that was written over another one, if it retains that one: the
status itself, unless it has no entries; then those of the other one may still be there. -/
theorem exists_decode_mergePatch {before : Option Status} (ordered : j.Ordered)
    (h : Decoder.option decode j = .ok before) (retains : s.Retains (before.getD {})) :
    ∃ instances, decode (j.mergePatch s.encode) = .ok { s with instances := instances } ∧
      (instances = s.instances ∨
        s.instances = ∅ ∧ instances = (before.getD {}).instances) := by
  obtain ⟨covers, m, hm, hcases⟩ : s.Covers j ∧ ∃ m,
      Fields.read (Decoder.keyed InstanceStatus.decode) (.ok ∅) (j.get? "instances") = .ok m ∧
        (m = ∅ ∨ m = (before.getD {}).instances) := by
    cases before with
    | none =>
      obtain rfl := Decoder.option_eq_ok_none_iff.1 h
      exact ⟨s.covers_null, ∅, rfl, Or.inl rfl⟩
    | some old =>
      have hread := Decoder.of_option h
      exact ⟨covers_of_decode ordered hread retains, read_instances_of_decode ordered hread⟩
  cases hnone : s.instances.isEmpty with
  | false =>
    exact ⟨_, decode_mergePatch ordered covers (read_instances ordered covers hnone), Or.inl rfl⟩
  | true =>
    rw [← get?_instances_of_isEmpty j hnone] at hm
    have hempty := Keyed.eq_empty_of_isEmpty hnone
    refine ⟨m, decode_mergePatch ordered covers hm, ?_⟩
    rcases hcases with rfl | rfl
    · exact Or.inl hempty.symm
    · exact Or.inr ⟨hempty, rfl⟩

end Status

end EtcdBackup
