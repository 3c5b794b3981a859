import EtcdBackup.Proofs.Interleaving.RoundEnd
import EtcdBackup.Proofs.Lookup
import EtcdBackup.Proofs.Selection.Partition

/-!
# Requests for some names

A request that asks for names covers these and no others: its selections split the names
(`Selection.Splits`), and what a pass writes has entries for the selected names only
(`Pass.Decided.isConfinedTo`). So while the names asked for stay the same, the entries of the
request are of these names throughout a run, whatever interleaves (`names_split_throughout`).
-/

set_option autoImplicit false
set_option relaxedAutoImplicit false

namespace EtcdBackup

open Dialogue

/-! ### Entries of some names -/

/-- All entries are of some names. -/
def Status.IsConfinedTo (s : Status) (names : List String) : Prop := s.instances.keys ⊆ names

namespace Status.IsConfinedTo

variable {s s' : Status} {names : List String} {name : String}

theorem of_instances_eq_empty (h : s.instances = ∅) : s.IsConfinedTo names := by
  rw [IsConfinedTo, h]
  exact List.nil_subset names

theorem of_instances_eq (h : s.IsConfinedTo names) (hsame : s'.instances = s.instances) :
    s'.IsConfinedTo names := by
  rwa [IsConfinedTo, hsame]

theorem insert (h : s.IsConfinedTo names) (hname : name ∈ names) (entry : InstanceStatus) :
    IsConfinedTo { s with instances := s.instances.insert name entry } names := by
  intro other hother
  rcases Keyed.mem_keys_insert_iff.1 hother with rfl | hother
  · exact hname
  · exact h hother

end Status.IsConfinedTo

/-- A record asks for the names, and its entries are of these. -/
structure Record.IsConfinedTo (r : Record) (names : List String) : Prop where
  asks : r.spec.clusterNames = names
  entries : (r.status.getD {}).IsConfinedTo names

theorem Record.IsConfinedTo.of_unwritten {r : Record} {names : List String}
    (asks : r.spec.clusterNames = names) (unwritten : r.status = none) : r.IsConfinedTo names where
  asks := asks
  entries := by
    rw [unwritten]
    exact .of_instances_eq_empty rfl

namespace Pass

variable {ctx : Context} {record : Record} {now : Instant} {es : List (Exchange Calls)}

/-- A pass adds entries for names that are asked for, and for no others. -/
theorem Decided.isConfinedTo {decision : Decision} (h : Decided ctx record now es decision)
    {next : Status} (hnext : decision.status? = some next)
    (reserved : ctx.management.name = managementName) (named : record.spec.clusterNames ≠ [])
    (before : (record.status.getD {}).IsConfinedTo record.spec.clusterNames) :
    next.IsConfinedTo record.spec.clusterNames := by
  cases h with
  | start =>
    cases hnext
    exact .of_instances_eq_empty rfl
  | work phase planned =>
    cases hnext
    obtain ⟨look, rest, selection, -, selected, hchange⟩ := planned.selected_change
    obtain ⟨tenants, hselected⟩ := Runner.exists_ofSpec_of_leads selected
    rw [Selection.ofSpec_eq_split named reserved] at hselected
    cases hselected
    have splits := Selection.splits_split reserved record.spec.clusterNames tenants
    rcases hchange with ⟨u, hu, rfl⟩ | ⟨t, ht, sub, rfl⟩
    · exact before.insert ((splits.mem_unresolved_iff u).1 hu).1 _
    · exact before.insert ((splits.mem_targets_iff t).1 ht).1 _
  | reject | enter | close | proceed | judge =>
    cases hnext
    exact before.of_instances_eq rfl
  | retireFinished | retireSkipped =>
    rw [Decision.status?_retire] at hnext
    cases hnext

end Pass

namespace Interleaving

variable {store : Store} {events past : List Event} {w w' : World} {e : Event} {id : Nat}
  {before after given : Record} {answer : Except Error Unit} {name : String} {names : List String}

/-- Whoever else creates or edits the record of the name makes it ask for the names. -/
def Event.AsksFor (name : String) (names : List String) : Event → Prop
  | .created r | .edited _ r => r.name = name → r.spec.clusterNames = names
  | _ => True

/-- All that was ever stored under a name is confined to the names asked for. -/
structure Confined (name : String) (names : List String) (past : List Event) (w : World) :
    Prop where
  heard : w.IsHeard
  traced : w.IsTraced past
  reserved : ∀ id ctx, .started id ctx name ∈ past → ctx.management.name = managementName
  records : ∀ r ∈ w.store.log, r.name = name → r.IsConfinedTo names

/-- A commit keeps a record confined. -/
theorem Confined.of_commitOf (hw : Confined name names past w) (named : names ≠ [])
    (h : CommitOf w id before after) (hname : after.name = name) : after.IsConfinedTo names := by
  cases h with
  | @intro th current now es decision status version thread _ hread decided hstatus same stored
      overwritten =>
    subst overwritten
    have hthread : th.name = name := (Store.name_eq_of_get? stored).symm.trans hname
    have started := hw.traced.started id th thread
    rw [hthread] at started
    have hcurrent := hw.records current hread.1 (hread.2.trans hthread)
    have hbefore := hw.records before (Store.mem_log_of_get? stored) hname
    refine ⟨hbefore.asks, ?_⟩
    rw [← hcurrent.asks] at named ⊢
    refine (Pass.decided_of_leads decided).isConfinedTo hstatus (hw.reserved id th.ctx started)
      named ?_
    rw [hcurrent.asks]
    exact hcurrent.entries

theorem Confined.step (hw : Confined name names past w) (named : names ≠ []) (h : Step w e w')
    (leaves : e.LeavesStatus name) (asks : e.AsksFor name names)
    (reserved : ∀ id ctx, e = .started id ctx name → ctx.management.name = managementName) :
    Confined name names (past ++ [e]) w' := by
  refine ⟨h.isHeard hw.heard, h.isTraced hw.traced, fun id ctx hmem ↦ ?_, fun r hr hname ↦ ?_⟩
  · rcases List.mem_append.1 hmem with hmem | hmem
    · exact hw.reserved id ctx hmem
    · exact reserved id ctx (List.mem_singleton.1 hmem).symm
  · rw [h.log_eq, List.mem_append, Option.mem_toList] at hr
    rcases hr with hr | hr
    · cases e with
      | committed =>
        cases hr
        exact hw.of_commitOf named (h.commitOf hw.heard) hname
      | created =>
        cases hr
        exact .of_unwritten (asks hname) (leaves hname)
      | edited =>
        cases hr
        cases h with
        | edited stored same fresh =>
          rw [same] at hname
          refine ⟨asks (same.trans hname), ?_⟩
          rw [leaves hname]
          exact (hw.records _ (Store.mem_log_of_get? stored) hname).entries
      | started | asked | deleted | removed => cases hr
    · exact hw.records r hr hname

/-- The entries are of the names asked for throughout a run. -/
theorem Run.confined (run : Run (.start store) events w) (named : names ≠ [])
    (fresh : ∀ r ∈ store.log, r.name = name → r.IsConfinedTo names)
    (leaves : ∀ e ∈ events, e.LeavesStatus name) (asks : ∀ e ∈ events, e.AsksFor name names)
    (reserved : ∀ id ctx, .started id ctx name ∈ events → ctx.management.name = managementName) :
    Confined name names events w := by
  have hstart : Confined name names [] (.start store) :=
    ⟨World.isHeard_start store, World.isTraced_start store, nofun, fresh⟩
  have hrun := run.preserves
    (fun step (he : _ ∧ _ ∧ _) hw ↦ Confined.step hw named step he.1 he.2.1 he.2.2)
    (fun e he ↦ ⟨leaves e he, asks e he, fun id ctx heq ↦ reserved id ctx (heq ▸ he)⟩) hstart
  exact hrun

/-- Names asked for are split by every selection, which nothing else in the request has a part in;
and while they stay the same, all entries of the request are of these names. -/
theorem names_split_throughout (named : names ≠ []) :
    (∀ management tenants, management.name = managementName →
      ∃ s, Selection.Splits names management tenants s ∧
        ∀ spec skipManagement, spec.clusterNames = names →
          Selection.ofSpec spec management skipManagement tenants = .ok s) ∧
    ∀ store events w name, Run (.start store) events w →
      (∀ r ∈ store.log, r.name = name → r.status = none ∧ r.spec.clusterNames = names) →
      (∀ e ∈ events, e.LeavesStatus name) → (∀ e ∈ events, e.AsksFor name names) →
      (∀ id ctx, .started id ctx name ∈ events → ctx.management.name = managementName) →
      ∀ r ∈ w.store.log, r.name = name → (r.status.getD {}).instances.keys ⊆ names := by
  constructor
  · intro management tenants reserved
    refine ⟨_, Selection.splits_split reserved names tenants, fun spec skipManagement hnames ↦ ?_⟩
    rw [← hnames] at named ⊢
    exact Selection.ofSpec_eq_split named reserved skipManagement tenants
  · intro store events w name run fresh leaves asks reserved r hr hname
    have confined := run.confined named
      (fun r hr hname ↦ .of_unwritten (fresh r hr hname).2 (fresh r hr hname).1)
      leaves asks reserved
    exact (confined.records r hr hname).entries

/-- The event is one of a pass with a context over the record of a name, which writes a status
at most. -/
def Event.IsOfPass (ctx : Context) (name : String) : Event → Prop
  | .started _ other named => other = ctx ∧ named = name
  | .asked _ _ | .committed _ _ _ _ _ => True
  | _ => False

theorem Event.IsOfPass.asksFor {ctx : Context} {other : String} (h : e.IsOfPass ctx name) :
    e.AsksFor other names := by
  cases e <;> first | exact h.elim | trivial

theorem isOfPass {ctx : Context} {r : Record} {now : Instant} {es : List (Exchange Calls)}
    {status : Status} {version : Option String} :
    ∀ e ∈ decisionEvents id ctx r now es ++ writeEvents id r status version,
      e.IsOfPass ctx r.name := by
  have hasked : ∀ e ∈ (⟨.get r.name, .ok r⟩ :: ⟨.now, now⟩ :: es : List (Exchange Calls)).map
      (Event.asked id), e.IsOfPass ctx r.name :=
    List.forall_mem_map.2 fun _ _ ↦ trivial
  exact List.forall_mem_append.2 ⟨List.forall_mem_cons.2 ⟨⟨rfl, rfl⟩, hasked⟩,
    List.forall_mem_cons.2 ⟨trivial, List.forall_mem_singleton.2 trivial⟩⟩

/-- The cluster of a request is not found, which is noted in its entry. -/
theorem exists_run_missing :
    ∃ events w r, Run (.start (.single tenantRequest)) events w ∧
      (∀ e ∈ events, e.LeavesStatus "b") ∧
      (∀ e ∈ events, e.IsOfPass (Pass.plainContext true) "b") ∧
      r ∈ w.store.log ∧ r.name = "b" ∧ (r.status.getD {}).instances.keys = ["prod-a"] := by
  let ctx := Pass.plainContext true
  let admitted : Status := { phase := .pending }
  let running : Status := { phase := .v2Running, started := some default }
  let noted := running.withReason "prod-a" Selection.notFoundReason
  let r₁ := written tenantRequest admitted (some "1")
  let r₂ := written r₁ running (some "2")
  let missing : Except Error (List Target) := .ok []
  have decided₀ : (Pass.decide ctx tenantRequest default).Leads [⟨.list, .ok [tenantRequest]⟩]
      (.done (.ok (.advance admitted))) := .ask (.rest _)
  have decided₁ : (Pass.decide ctx r₁ default).Leads [] (.done (.ok (.advance running))) :=
    .rest _
  have decided₂ : (Pass.decide ctx r₂ default).Leads [⟨.discover, missing⟩]
      (.done (.ok (.progress noted))) := .ask (.rest _)
  have new₀ : some "1" ∉ [some "0"] := by decide
  have new₁ : some "2" ∉ [some "1", some "0"] := by decide
  have new₂ : some "3" ∉ [some "2", some "1", some "0"] := by decide
  have gives₀ : ∀ e ∈ ([⟨.list, .ok [tenantRequest]⟩] : List (Exchange Calls)),
      (Store.single tenantRequest).Gives e.request e.answer :=
    List.forall_mem_singleton.2 (List.Perm.refl _)
  obtain ⟨w₁, h₁⟩ := (Alone.start tenantRequest).exists_pass gives₀ decided₀ rfl new₀
  obtain ⟨w₂, h₂⟩ := h₁.exists_pass (List.forall_mem_nil _) decided₁ rfl new₁
  have gives₂ : ∀ e ∈ ([⟨.discover, missing⟩] : List (Exchange Calls)),
      w₂.store.Gives e.request e.answer := List.forall_mem_singleton.2 trivial
  obtain ⟨w₃, h₃⟩ := h₂.exists_pass gives₂ decided₂ rfl new₂
  refine ⟨_, w₃, _, h₃.run, h₃.leaves, ?_, Store.mem_log_of_get? h₃.stored, rfl, rfl⟩
  exact List.forall_mem_append.2 ⟨List.forall_mem_append.2 ⟨isOfPass, isOfPass⟩, isOfPass⟩

/-- The request for one tenant cluster, which is not found, comes to an entry for it. -/
theorem names_split_throughout_missing :
    (∃ s, Selection.Splits ["prod-a"] (Pass.plainContext true).management [] s ∧
      Selection.ofSpec tenantRequest.spec (Pass.plainContext true).management true [] = .ok s) ∧
    ∃ events w r, Run (.start (.single tenantRequest)) events w ∧ r ∈ w.store.log ∧
      r.name = "b" ∧ (r.status.getD {}).instances.keys = ["prod-a"] ∧
      (r.status.getD {}).instances.keys ⊆ ["prod-a"] := by
  obtain ⟨split, throughout⟩ := names_split_throughout (List.cons_ne_nil "prod-a" [])
  obtain ⟨s, splits, hs⟩ := split (Pass.plainContext true).management [] rfl
  obtain ⟨events, w, r, run, leaves, own, hr, hname, hkeys⟩ := exists_run_missing
  have fresh : ∀ r ∈ (Store.single tenantRequest).log,
      r.name = "b" → r.status = none ∧ r.spec.clusterNames = ["prod-a"] :=
    List.forall_mem_singleton.2 fun _ ↦ ⟨rfl, rfl⟩
  have reserved (id : Nat) (ctx : Context) (he : .started id ctx "b" ∈ events) :
      ctx.management.name = managementName := by
    rw [(own _ he).1]
    rfl
  exact ⟨⟨s, splits, hs tenantRequest.spec true rfl⟩, events, w, r, run, hr, hname, hkeys,
    throughout _ events w "b" run fresh leaves (fun e he ↦ (own e he).asksFor) reserved r hr hname⟩

end Interleaving

end EtcdBackup
