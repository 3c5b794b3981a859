import EtcdBackup.Controller.Pass
import EtcdBackup.Proofs.Text.Bytewise
import Mathlib

/-!
# The newest of some requests

Requests are ordered by the time at which they were made, and by the bytes of their names where
these times are equal (`IsOlder`). `newest?` finds the greatest one, in whatever order the requests
are listed (`mem_and_le_of_newest?`). So a fresh request is admitted exactly if no other one is
newer and none is in the middle of its cycle (`admission_eq_pending_iff`).
-/

set_option autoImplicit false
set_option relaxedAutoImplicit false

namespace EtcdBackup.Pass

variable {a b r m : Record} {all others : List Record}

/-- When a request was made; one without a time comes before all others. -/
def createdKey (r : Record) : WithBot (ℤ ×ₗ ℕ) :=
  r.created.map fun t ↦ toLex (t.seconds, t.nanos)

/-- The first request was made earlier, or at the same time under a name whose bytes come first. -/
def IsOlder (a b : Record) : Prop :=
  createdKey a < createdKey b ∨
    createdKey a = createdKey b ∧ Utf8.encode a.name < Utf8.encode b.name

/-- The place of a request in that order. -/
def ageKey (r : Record) : WithBot (ℤ ×ₗ ℕ) ×ₗ String := toLex (createdKey r, r.name)

theorem isOlder_iff : IsOlder a b ↔ ageKey a < ageKey b := by
  unfold IsOlder ageKey
  rw [Utf8.encode_lt_encode_iff, Prod.Lex.toLex_lt_toLex]

theorem name_eq_of_ageKey_eq (h : ageKey a = ageKey b) : a.name = b.name :=
  congrArg (fun key ↦ (ofLex key).2) h

theorem createdKey_of_none (h : r.created = none) : createdKey r = ⊥ := by
  rw [createdKey, h]
  rfl

theorem createdKey_of_some {t : Instant} (h : r.created = some t) :
    createdKey r = (toLex (t.seconds, t.nanos) : ℤ ×ₗ ℕ) := by
  rw [createdKey, h]
  rfl

theorem compare_instant (t u : Instant) :
    (compare t u = .lt ↔ toLex (t.seconds, t.nanos) < toLex (u.seconds, u.nanos)) ∧
      (compare t u = .eq ↔ (toLex (t.seconds, t.nanos) : ℤ ×ₗ ℕ) = toLex (u.seconds, u.nanos)) := by
  change (Instant.cmp t u = .lt ↔ _) ∧ (Instant.cmp t u = .eq ↔ _)
  unfold Instant.cmp
  rw [Ordering.then_eq_lt, Ordering.then_eq_eq, compare_lt_iff_lt, compare_lt_iff_lt,
    compare_eq_iff_eq, compare_eq_iff_eq, Prod.Lex.toLex_lt_toLex, EmbeddingLike.apply_eq_iff_eq,
    Prod.mk.injEq]
  exact ⟨Iff.rfl, Iff.rfl⟩

/-- Times of creation are compared by their places in the order. -/
theorem compareCreated_iff (a b : Record) :
    (compareCreated a.created b.created = .lt ↔ createdKey a < createdKey b) ∧
      (compareCreated a.created b.created = .eq ↔ createdKey a = createdKey b) := by
  cases ha : a.created with
  | none =>
    rw [createdKey_of_none ha]
    cases hb : b.created with
    | none =>
      rw [createdKey_of_none hb]
      simp [compareCreated]
    | some u =>
      rw [createdKey_of_some hb]
      simp [compareCreated]
  | some t =>
    rw [createdKey_of_some ha]
    cases hb : b.created with
    | none =>
      rw [createdKey_of_none hb]
      simp [compareCreated]
    | some u =>
      rw [createdKey_of_some hb, WithBot.coe_lt_coe, WithBot.coe_inj]
      exact compare_instant t u

theorem compareAge_eq_lt_iff : compareAge a b = .lt ↔ ageKey a < ageKey b := by
  obtain ⟨hlt, heq⟩ := compareCreated_iff a b
  unfold compareAge ageKey
  rw [Ordering.then_eq_lt, hlt, heq, compare_lt_iff_lt, Prod.Lex.toLex_lt_toLex]

/-- The newest of some requests is one of them, and none is newer. -/
theorem mem_and_le_of_newest? (h : newest? all = some m) :
    m ∈ all ∧ ∀ r ∈ all, ageKey r ≤ ageKey m := by
  cases all with
  | nil => cases h
  | cons first rest =>
    simp only [newest?, compareAge_eq_lt_iff, Option.some.injEq] at h
    induction rest generalizing first with
    | nil =>
      cases h
      simp
    | cons next rest ih =>
      rw [List.foldl_cons] at h
      obtain ⟨hmem, hle⟩ := ih _ h
      rw [List.forall_mem_cons] at hle
      rw [List.forall_mem_cons, List.forall_mem_cons]
      by_cases older : ageKey next < ageKey first
      · rw [if_pos older] at hmem hle
        refine ⟨?_, hle.1, (older.trans_le hle.1).le, hle.2⟩
        rcases List.mem_cons.1 hmem with rfl | hmem
        · exact List.mem_cons_self
        · exact List.mem_cons_of_mem _ (List.mem_cons_of_mem _ hmem)
      · rw [if_neg older] at hmem hle
        exact ⟨List.mem_cons_of_mem _ hmem, (not_lt.1 older).trans hle.1, hle⟩

/-! ### Admission -/

/-- No other one of some requests is newer. -/
def IsNewest (all : List Record) (r : Record) : Prop :=
  ∀ other ∈ all, other.name ≠ r.name → IsOlder other r

/-- Another one of some requests is in the middle of its cycle. -/
def IsBlocked (all : List Record) (r : Record) : Prop :=
  ∃ other ∈ all, other.name ≠ r.name ∧ isActive other

/-- The verdict over the age of a request only depends on the ages of the others. -/
theorem IsNewest.of_ageKey_eq (newest : IsNewest all r)
    (same : ∀ other ∈ others, ∃ a ∈ all, ageKey a = ageKey other) : IsNewest others r := by
  intro other hother hne
  obtain ⟨a, ha, hkey⟩ := same other hother
  rw [← name_eq_of_ageKey_eq hkey] at hne
  rw [isOlder_iff, ← hkey, ← isOlder_iff]
  exact newest a ha hne

/-- There is only one newest request. -/
theorem IsNewest.name_eq (newest : IsNewest all a) (newest' : IsNewest all b) (ha : a ∈ all)
    (hb : b ∈ all) : a.name = b.name := by
  by_contra hne
  have older := isOlder_iff.1 (newest b hb (Ne.symm hne))
  have older' := isOlder_iff.1 (newest' a ha hne)
  exact lt_asymm older older'

theorem admission_cases (r : Record) (all : List Record) :
    admission r all = .pending ∨ admission r all = .skipped := by
  unfold admission
  dsimp only
  split
  · exact Or.inr rfl
  · exact Or.inl rfl

theorem isNewest_of_newest? (h : newest? all = some m) : IsNewest all m := by
  intro other hother hne
  refine isOlder_iff.2 (lt_of_le_of_ne ((mem_and_le_of_newest? h).2 other hother) fun heq ↦ ?_)
  exact hne (name_eq_of_ageKey_eq heq)

theorem exists_newest? (h : all ≠ []) : ∃ m, newest? all = some m := by
  cases all with
  | nil => exact (h rfl).elim
  | cons first rest => exact ⟨_, rfl⟩

/-- One of some requests is the newest. -/
theorem exists_isNewest (h : all ≠ []) : ∃ m ∈ all, IsNewest all m := by
  obtain ⟨m, hm⟩ := exists_newest? h
  exact ⟨m, (mem_and_le_of_newest? hm).1, isNewest_of_newest? hm⟩

/-- A listed request is superseded exactly if it is not the newest one. -/
theorem isNewest_iff (hr : r ∈ all) (distinct : ∀ a ∈ all, a.name = r.name → a = r) :
    IsNewest all r ↔ ¬(newest? all).any fun m ↦ m.name ≠ r.name := by
  obtain ⟨m, hm⟩ := exists_newest? (List.ne_nil_of_mem hr)
  obtain ⟨hmem, hle⟩ := mem_and_le_of_newest? hm
  rw [hm]
  simp only [Option.any_some, decide_eq_true_eq, not_not]
  constructor
  · intro newest
    by_contra hname
    exact not_lt_of_ge (hle r hr) (isOlder_iff.1 (newest m hmem hname))
  · intro hname
    obtain rfl := distinct m hmem hname
    exact isNewest_of_newest? hm

/-- A listed request is admitted exactly if it is the newest one and no other one is in the middle
of its cycle. -/
theorem admission_eq_pending_iff (hr : r ∈ all) (distinct : ∀ a ∈ all, a.name = r.name → a = r) :
    admission r all = .pending ↔ IsNewest all r ∧ ¬IsBlocked all r := by
  have blocked : IsBlocked all r ↔ all.any fun other ↦ other.name ≠ r.name && isActive other := by
    simp [IsBlocked, List.any_eq_true]
  rw [isNewest_iff hr distinct, blocked, ← not_or, ← Bool.or_eq_true]
  unfold admission
  dsimp only
  split
  case isTrue refused => exact iff_of_false nofun (not_not_intro refused)
  case isFalse quiet => exact iff_of_true rfl quiet

end EtcdBackup.Pass
