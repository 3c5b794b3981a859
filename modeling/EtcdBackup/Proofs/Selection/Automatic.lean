import EtcdBackup.Proofs.Selection
import EtcdBackup.Proofs.Text.Bytewise
import Mathlib.Data.List.Sort

/-!
# Selections by patterns

Without names, a request for tenant clusters covers those whose names its patterns let through, in
the order of their names. Which ones these are is said by `IsCovered`, from the answers of an engine
to the two patterns as they stand in the request: a search that was given up is neither a match nor
the lack of one, so it leaves its cluster out whichever pattern it was for. `Covers` says what the
list of the clusters is, and nothing is left open by it: two lists in the order of their names that
agree on each name are the same (`eq_of_inOrder`).

What holds of the engine that is used holds of every other one, too. With an engine that gives up
more often, no cluster is covered that was not covered before (`Covers.sublist`).
-/

set_option autoImplicit false
set_option relaxedAutoImplicit false

namespace EtcdBackup

/-- Tells of a pattern and a name whether some part of the name matches. -/
abbrev Pattern.Engine : Type := Pattern → String → Pattern.Outcome

namespace Selection

open Pattern (Engine)

variable {engine stricter : Engine} {spec : Spec} {management : Target} {skipManagement : Bool}
  {tenants guests others : List Target}

/-! ### The answers of an engine -/

/-- What an engine answers to the pattern of a field; nothing if there is no pattern. -/
def answer? (engine : Engine) (text : Option String) (name : String) : Option Pattern.Outcome :=
  (text.filter (· ≠ "")).bind fun t ↦ (Pattern.compile t).toOption.map fun p ↦ engine p name

/-- A tenant cluster is covered: its release is supported, and its name matches the one pattern and
does not match the other, as far as there are such patterns. -/
def IsCovered (engine : Engine) (spec : Spec) (t : Target) : Prop :=
  t.supported = true ∧ (∀ a ∈ answer? engine spec.clustersRegex t.name, a = .matched) ∧
    ∀ a ∈ answer? engine spec.clustersToExcludeRegex t.name, a = .unmatched

instance (engine : Engine) (spec : Spec) : DecidablePred (IsCovered engine spec) :=
  fun _ ↦ inferInstanceAs (Decidable (_ ∧ _ ∧ _))

/-- Whether patterns let a name through, by the answers of an engine. -/
def NamePatterns.acceptsBy (engine : Engine) (p : NamePatterns) (name : String) : Bool :=
  (p.included.all fun pattern ↦ engine pattern name = .matched) &&
    p.excluded.all fun pattern ↦ engine pattern name = .unmatched

/-- The tenant clusters that patterns let through by the answers of an engine, in the order of
their names. -/
def admittedBy (engine : Engine) (p : NamePatterns) (tenants : List Target) : List Target :=
  (tenants.filter fun t ↦ t.supported && NamePatterns.acceptsBy engine p t.name).mergeSort
    fun a b ↦ a.name ≤ b.name

/-- The targets of a request for tenant clusters without names, by the answers of an engine. -/
def byPatterns (engine : Engine) (spec : Spec) (management : Target) (skipManagement : Bool)
    (tenants : List Target) : Except Error Selection := do
  let patterns ← compilePatterns spec
  .ok { targets := (if skipManagement then [] else [management]) ++
    admittedBy engine patterns tenants }

theorem acceptsBy_search (p : NamePatterns) (name : String) :
    NamePatterns.acceptsBy Pattern.search p name = NamePatterns.accepts p name := by
  obtain ⟨included, excluded⟩ := p
  cases included <;> cases excluded <;> simp [NamePatterns.acceptsBy, NamePatterns.accepts]

theorem admittedBy_search (p : NamePatterns) (tenants : List Target) :
    admittedBy Pattern.search p tenants = admitted p tenants := by
  simp only [admittedBy, admitted, acceptsBy_search]

/-- The selection of a request for tenant clusters without names is by its patterns. -/
theorem ofSpec_eq_byPatterns (unnamed : spec.clusterNames = []) (guests : spec.guestBackup = true)
    (management : Target) (skipManagement : Bool) (tenants : List Target) :
    ofSpec spec management skipManagement tenants =
      byPatterns Pattern.search spec management skipManagement tenants := by
  unfold byPatterns
  cases compiled : compilePatterns spec with
  | error e =>
    unfold ofSpec
    rw [if_pos (List.isEmpty_iff.2 unnamed), guests, compiled]
    rfl
  | ok patterns =>
    rw [ofSpec_of_guests unnamed guests compiled, ← admittedBy_search]
    rfl

/-! ### What the patterns of a request say -/

/-- The compiled pattern of a field answers, unless the field is unset or empty. -/
theorem answer?_of_compilePattern {field : PatternField} {text : Option String}
    {pattern : Option Pattern} (h : compilePattern field text = .ok pattern) (engine : Engine)
    (name : String) : answer? engine text name = pattern.map fun p ↦ engine p name := by
  unfold compilePattern at h
  split at h
  case h_1 =>
    cases h
    rfl
  case h_2 t =>
    split at h
    case isTrue hempty =>
      cases h
      rw [String.isEmpty_iff.1 hempty]
      rfl
    case isFalse hsome =>
      have htext : (some t).filter (· ≠ "") = some t :=
        Option.filter_some_pos (decide_eq_true (mt String.isEmpty_iff.2 hsome))
      split at h
      case h_1 p compiled =>
        cases h
        rw [answer?, htext, Option.bind_some, compiled]
        rfl
      case h_2 => cases h

theorem compilePatterns_eq_ok_iff {p : NamePatterns} : compilePatterns spec = .ok p ↔
    compilePattern .included spec.clustersRegex = .ok p.included ∧
      compilePattern .excluded spec.clustersToExcludeRegex = .ok p.excluded := by
  unfold compilePatterns
  cases compilePattern .included spec.clustersRegex with
  | error e => simp [bind, Except.bind]
  | ok included =>
    cases compilePattern .excluded spec.clustersToExcludeRegex with
    | error e => simp [bind, Except.bind]
    | ok excluded =>
      obtain ⟨_, _⟩ := p
      simp [bind, Except.bind]

/-- The compiled patterns let those clusters through that are covered. -/
theorem acceptsBy_iff {p : NamePatterns} (compiled : compilePatterns spec = .ok p)
    (engine : Engine) (t : Target) :
    (t.supported && NamePatterns.acceptsBy engine p t.name) = true ↔ IsCovered engine spec t := by
  obtain ⟨included, excluded⟩ := compilePatterns_eq_ok_iff.1 compiled
  unfold IsCovered NamePatterns.acceptsBy
  rw [answer?_of_compilePattern included, answer?_of_compilePattern excluded]
  simp [Option.all_eq_true]

/-- A cluster that is covered was matched by the one pattern and not by the other also before the
engine gave up more often. -/
theorem IsCovered.of_stricter {t : Target} (h : IsCovered stricter spec t)
    (givesUp : ∀ p name, stricter p name = engine p name ∨ stricter p name = .gaveUp) :
    IsCovered engine spec t := by
  have hanswer (text : Option String) (answer : Pattern.Outcome) (hne : answer ≠ .gaveUp)
      (hall : ∀ a ∈ answer? stricter text t.name, a = answer) :
      ∀ a ∈ answer? engine text t.name, a = answer := by
    unfold answer? at hall ⊢
    intro a ha
    obtain ⟨t, htext, ha⟩ := Option.bind_eq_some_iff.1 ha
    obtain ⟨p, hp, rfl⟩ := Option.map_eq_some_iff.1 ha
    have hstricter := hall _ (Option.bind_eq_some_iff.2
      ⟨t, htext, Option.map_eq_some_iff.2 ⟨p, hp, rfl⟩⟩)
    rcases givesUp p _ with same | gaveUp
    · rw [← same, hstricter]
    · exact (hne (hstricter.symm.trans gaveUp)).elim
  exact ⟨h.1, hanswer _ _ nofun h.2.1, hanswer _ _ nofun h.2.2⟩

/-! ### Lists in the order of their names -/

/-- The names of some targets ascend, byte by byte; equal ones may follow each other. -/
def IsInOrder (ts : List Target) : Prop :=
  ts.Pairwise fun a b ↦ ¬Utf8.encode b.name < Utf8.encode a.name

theorem isInOrder_iff {ts : List Target} :
    IsInOrder ts ↔ ts.Pairwise fun a b ↦ a.name ≤ b.name := by
  unfold IsInOrder
  simp only [Utf8.encode_lt_encode_iff, not_lt]

section

variable (ts : List Target)

theorem le_trans_name (a b c : Target) (hab : decide (a.name ≤ b.name) = true)
    (hbc : decide (b.name ≤ c.name) = true) : decide (a.name ≤ c.name) = true :=
  decide_eq_true (le_trans (of_decide_eq_true hab) (of_decide_eq_true hbc))

theorem le_total_name (a b : Target) :
    (decide (a.name ≤ b.name) || decide (b.name ≤ a.name)) = true := by
  rw [Bool.or_eq_true, decide_eq_true_iff, decide_eq_true_iff]
  exact le_total a.name b.name

theorem isInOrder_mergeSort : IsInOrder (ts.mergeSort fun a b ↦ a.name ≤ b.name) :=
  isInOrder_iff.2 ((List.pairwise_mergeSort le_trans_name le_total_name ts).imp of_decide_eq_true)

/-- Sorting keeps the order of the targets of one name. -/
theorem filter_mergeSort (name : String) :
    (ts.mergeSort fun a b ↦ a.name ≤ b.name).filter (·.name = name) =
      ts.filter (·.name = name) := by
  have hperm := (List.mergeSort_perm ts fun a b ↦ a.name ≤ b.name).filter (·.name = name)
  -- The targets of the name are sorted as they stand, so they stand like this in the sorted list.
  have hsorted : (ts.filter (·.name = name)).Pairwise fun a b ↦ decide (a.name ≤ b.name) := by
    refine List.pairwise_of_forall_mem_list fun a ha b hb ↦ decide_eq_true (le_of_eq ?_)
    rw [of_decide_eq_true (List.mem_filter.1 ha).2, of_decide_eq_true (List.mem_filter.1 hb).2]
  have hsub := (List.sublist_mergeSort le_trans_name le_total_name hsorted
    List.filter_sublist).filter (·.name = name)
  rw [List.filter_filter] at hsub
  simp only [Bool.and_self] at hsub
  exact (hsub.eq_of_length hperm.length_eq.symm).symm

end

/-- Of two lists in order that agree on each name, neither has its first target behind that of the
other. -/
theorem name_le_of_filter_eq {t u : Target} {ts us : List Target} (hus : IsInOrder (u :: us))
    (same : ∀ name, (t :: ts).filter (·.name = name) = (u :: us).filter (·.name = name)) :
    u.name ≤ t.name := by
  have ht : t ∈ (u :: us).filter (·.name = t.name) := by
    rw [← same]
    exact List.mem_filter.2 ⟨List.mem_cons_self, decide_eq_true rfl⟩
  rcases List.mem_cons.1 (List.mem_filter.1 ht).1 with rfl | ht
  · exact le_refl _
  · exact List.rel_of_pairwise_cons (isInOrder_iff.1 hus) ht

/-- Two lists in order that agree on each name are the same. -/
theorem eq_of_inOrder {ts us : List Target} (hts : IsInOrder ts) (hus : IsInOrder us)
    (same : ∀ name, ts.filter (·.name = name) = us.filter (·.name = name)) : ts = us := by
  induction ts generalizing us with
  | nil =>
    cases us with
    | nil => rfl
    | cons u us => simpa using same u.name
  | cons t ts ih =>
    cases us with
    | nil => simpa using same t.name
    | cons u us =>
      have hname : t.name = u.name := le_antisymm
        (name_le_of_filter_eq hts fun name ↦ (same name).symm) (name_le_of_filter_eq hus same)
      have hfirst : t = u := by
        have hsame := same t.name
        simp only [List.filter_cons, hname, decide_true, if_true] at hsame
        exact (List.cons.inj hsame).1
      subst hfirst
      refine congrArg (t :: ·) (ih hts.of_cons hus.of_cons fun name ↦ ?_)
      have hrest := same name
      rw [List.filter_cons, List.filter_cons] at hrest
      split at hrest
      case isTrue => exact (List.cons.inj hrest).2
      case isFalse => exact hrest

/-! ### The clusters that a request covers -/

/-- The tenant clusters that a request covers, out of those that were discovered. -/
structure Covers (engine : Engine) (spec : Spec) (tenants guests : List Target) : Prop where
  /-- Each cluster that is covered occurs as often as it was discovered, and no other one does. -/
  occurs : guests.Perm (tenants.filter fun t ↦ IsCovered engine spec t)
  inOrder : IsInOrder guests
  /-- Clusters of one name are in the order in which they were discovered. -/
  discovered : ∀ name, guests.filter (·.name = name) =
    tenants.filter fun t ↦ t.name = name ∧ IsCovered engine spec t

theorem covers_admittedBy {p : NamePatterns} (compiled : compilePatterns spec = .ok p)
    (engine : Engine) (tenants : List Target) :
    Covers engine spec tenants (admittedBy engine p tenants) := by
  have hfilter : (tenants.filter fun t ↦ t.supported && NamePatterns.acceptsBy engine p t.name) =
      tenants.filter fun t ↦ IsCovered engine spec t := by
    refine List.filter_congr fun t _ ↦ Bool.eq_iff_iff.2 ?_
    rw [acceptsBy_iff compiled, decide_eq_true_iff]
  unfold admittedBy
  rw [hfilter]
  refine ⟨List.mergeSort_perm _ _, isInOrder_mergeSort _, fun name ↦ ?_⟩
  rw [filter_mergeSort, List.filter_filter]
  simp only [Bool.decide_and]

/-- Where fewer clusters are covered, those that are left stay in their order. -/
theorem Covers.sublist (h : Covers engine spec tenants guests)
    (h' : Covers stricter spec tenants others)
    (fewer : ∀ t, IsCovered stricter spec t → IsCovered engine spec t) :
    others.Sublist guests := by
  have heq : others = guests.filter fun t ↦ IsCovered stricter spec t := by
    refine eq_of_inOrder h'.inOrder (h.inOrder.filter _) fun name ↦ ?_
    have hswap (ts : List Target) (p q : Target → Bool) :
        (ts.filter p).filter q = (ts.filter q).filter p := by
      rw [List.filter_filter, List.filter_filter]
      exact List.filter_congr fun t _ ↦ Bool.and_comm _ _
    rw [h'.discovered, hswap, h.discovered, List.filter_filter]
    refine List.filter_congr fun t _ ↦ Bool.eq_iff_iff.2 ?_
    simp only [Bool.and_eq_true, decide_eq_true_iff]
    exact ⟨fun ⟨hname, covered⟩ ↦ ⟨covered, hname, fewer t covered⟩,
      fun ⟨covered, hname, _⟩ ↦ ⟨hname, covered⟩⟩
  rw [heq]
  exact List.filter_sublist

/-- Without names, the targets of a request for tenant clusters are the management cluster, unless
it is left out, and the clusters that its patterns cover, whatever engine answers to them. A search
that is given up leaves its cluster out, and one more that is given up adds none. -/
theorem automatic_selection (unnamed : spec.clusterNames = []) (guests : spec.guestBackup = true)
    (checked : checkPatterns spec = .ok ()) (management : Target) (skipManagement : Bool)
    (tenants : List Target) :
    ofSpec spec management skipManagement tenants =
        byPatterns Pattern.search spec management skipManagement tenants ∧
      ∀ engine, ∃ covered : List Target,
        byPatterns engine spec management skipManagement tenants = .ok
          { targets := (if skipManagement then [] else [management]) ++ covered
            unresolved := [] } ∧
        Covers engine spec tenants covered ∧
        (∀ t ∈ covered, answer? engine spec.clustersRegex t.name ≠ some .gaveUp ∧
          answer? engine spec.clustersToExcludeRegex t.name ≠ some .gaveUp) ∧
        ∀ stricter : Engine,
          (∀ p name, stricter p name = engine p name ∨ stricter p name = .gaveUp) →
          ∃ fewer : List Target,
            byPatterns stricter spec management skipManagement tenants = .ok
              { targets := (if skipManagement then [] else [management]) ++ fewer
                unresolved := [] } ∧
            fewer.Sublist covered := by
  obtain ⟨p, compiled⟩ : ∃ p, compilePatterns spec = .ok p := by
    rw [checkPatterns_of_guests unnamed guests] at checked
    cases compiled : compilePatterns spec with
    | error e =>
      rw [compiled] at checked
      cases checked
    | ok p => exact ⟨p, rfl⟩
  have hselected (engine : Engine) : byPatterns engine spec management skipManagement tenants =
      .ok { targets := (if skipManagement then [] else [management]) ++
        admittedBy engine p tenants } := by
    rw [byPatterns, compiled]
    rfl
  refine ⟨ofSpec_eq_byPatterns unnamed guests management skipManagement tenants, fun engine ↦ ?_⟩
  have hcovers := covers_admittedBy compiled engine tenants
  refine ⟨_, hselected engine, hcovers, fun t ht ↦ ?_, fun stricter givesUp ↦ ?_⟩
  · have covered := of_decide_eq_true (List.mem_filter.1 (hcovers.occurs.mem_iff.1 ht)).2
    exact ⟨fun gaveUp ↦ absurd (covered.2.1 _ gaveUp) nofun,
      fun gaveUp ↦ absurd (covered.2.2 _ gaveUp) nofun⟩
  · exact ⟨_, hselected stricter, hcovers.sublist (covers_admittedBy compiled stricter tenants)
      fun t covered ↦ covered.of_stricter givesUp⟩

/-- Of two clusters one is kept out by its name. -/
theorem automatic_selection_one :
    let spec : Spec := {
      guestBackup := true
      clustersRegex := some ".*"
      clustersToExcludeRegex := some "^test-.*" }
    let prod : Target := { name := "prod-a" }
    let test : Target := { name := "test-b" }
    checkPatterns spec = .ok () ∧
      ∃ covered, ofSpec spec (Target.management "" {}) false [prod, test] = .ok
          { targets := Target.management "" {} :: covered } ∧
        Covers Pattern.search spec [prod, test] covered ∧ covered = [prod] := by
  intro spec prod test
  have checked : checkPatterns spec = .ok () := by decide +kernel
  obtain ⟨hsearch, hengine⟩ := automatic_selection rfl rfl checked (Target.management "" {}) false
    [prod, test]
  obtain ⟨covered, hselected, hcovers, -⟩ := hengine Pattern.search
  have hmatched : ([prod, test].filter fun t ↦ IsCovered Pattern.search spec t) = [prod] := by
    decide +kernel
  have hprod := hcovers.occurs
  rw [hmatched] at hprod
  exact ⟨checked, covered, hsearch.trans hselected, hcovers, List.perm_singleton.1 hprod⟩

end Selection

end EtcdBackup
