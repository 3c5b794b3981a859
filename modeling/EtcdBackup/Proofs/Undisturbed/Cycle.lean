import EtcdBackup.Proofs.Undisturbed.Admission
import EtcdBackup.Proofs.Undisturbed.Measure

/-!
# The length of a cycle

A request that is stored alone, over a healthy store and with the same discovered clusters in each
pass, gets to its verdict in a number of passes that its targets alone determine: six for the
phases, one for each unresolved name and four for each target (`cycle_length`). What the backups
come to does not matter. Each pass writes once, and after it one write less is left
(`Comes.writesLeft`).
-/

set_option autoImplicit false
set_option relaxedAutoImplicit false

namespace EtcdBackup

open Dialogue Interleaving

/-- A request that is alone is admitted. -/
theorem Pass.admission_alone (r : Record) : admission r [r] = .pending := by
  simp [admission, newest?]

namespace Undisturbed

open Pass

variable {s s' : Store} {r : Record} {ctx : Context} {es : List (Exchange Calls)}
  {result : Except Error Action} {selection : Selection} {tenants : List Target}

/-- The tenant clusters are found to be these, whenever they are looked up. -/
def Discovers (tenants : List Target) (es : List (Exchange Calls)) : Prop :=
  ∀ answer, (⟨.discover, answer⟩ : Exchange Calls) ∈ es → answer = .ok tenants

/-- The last exchange is the successful write of a status, and no other one changes the store. -/
def WritesOnce (es : List (Exchange Calls)) : Prop :=
  ∃ before given, es = before ++ [⟨.updateStatus given, .ok ()⟩] ∧ AreQuiet before

/-- A store with one record has the new one after a write. -/
theorem values_put (alone : s.records.values = [r]) (new : Record) (hname : new.name = r.name)
    (fresh : s.IsFresh new) : (s.put new fresh).records.values = [new] := by
  obtain ⟨⟨name, held⟩, hentries, rfl⟩ := List.map_eq_singleton_iff.1 alone
  have hget : s.get? name = some held :=
    s.records.ascending.find?_of_mem (hentries ▸ List.mem_singleton_self _)
  have hheld := Store.name_eq_of_get? hget
  change (Keyed.insertEntry new.name new s.records.entries).map Prod.snd = [new]
  rw [hentries, hname, ← hheld, Keyed.insertEntry, if_neg (String.lt_irrefl _), if_pos rfl]
  rfl

/-- A pass over a request that is alone and on its course writes once, after which the request is on
its course still and one write less is left. -/
theorem Comes.writesLeft (h : Comes s ctx r es result s') (alone : s.records.values = [r])
    (valid : Selection.checkPatterns r.spec = .ok ())
    (selected : Selection.ofSpec r.spec ctx.management ctx.skipManagement tenants = .ok selection)
    (discovered : Discovers tenants es) (onCourse : (r.status.getD {}).OnCourse selection)
    (active : r.phase.isTerminal = false) :
    WritesOnce es ∧ ∃ r', s'.records.values = [r'] ∧ r'.name = r.name ∧ r'.spec = r.spec ∧
      (r'.status.getD {}).OnCourse selection ∧
      (r'.status.getD {}).writesLeft selection + 1 = (r.status.getD {}).writesLeft selection := by
  -- The same clusters are discovered in every pass, so the targets never change.
  have selects {look : List (Exchange Calls)} {result : Except Error Selection}
      (h : (Runner.select ctx r).Leads look (.done result)) (hlook : look ⊆ es) :
      result = .ok selection := by
    rw [← selected]
    exact Runner.eq_ofSpec_of_leads h fun answer hanswer ↦ discovered answer (hlook hanswer)
  cases h with
  | @undecided now look e failed served =>
    rcases undecided_of_leads failed with rfl | ⟨-, hselect⟩
    · obtain ⟨middle, listing, -⟩ := served_cons_iff.1 served
      obtain ⟨all, hanswer, -⟩ := listing.eq_of_list
      cases hanswer
    · cases selects hselect fun x hx ↦ List.mem_cons_of_mem _ (List.mem_cons_of_mem _ hx)
  | @wrote now look decision status version decided served hstatus fresh =>
    have hlook : look ⊆ ⟨.get r.name, .ok r⟩ :: ⟨.now, now⟩ :: look ++ [⟨.get r.name, .ok r⟩,
        ⟨.updateStatus { r with status := some status }, .ok ()⟩] := fun x hx ↦
      List.mem_append_left _ (List.mem_cons_of_mem _ (List.mem_cons_of_mem _ hx))
    have quiet := areQuiet_of_leads decided
    have admitted (all : List Record) (hall : (⟨.list, .ok all⟩ : Exchange Calls) ∈ look) :
        admission r all = .pending := by
      obtain ⟨all', hall', order, -⟩ := (served.serves_of_mem quiet hall).eq_of_list
      cases hall'
      rw [alone, List.perm_singleton] at order
      rw [order, admission_alone]
    obtain ⟨next, fewer⟩ := (decided_of_leads decided).writesLeft hstatus valid
      (fun first selection' hselect hfirst ↦
        Except.ok.inj (selects hselect (List.Subset.trans hfirst hlook)))
      (Selection.HasDistinctNames.of_ofSpec selected) admitted onCourse
    have hvalues := values_put alone (written r status version) rfl fresh
    refine ⟨⟨_, _, List.append_cons _ _ _, ?_⟩, _, hvalues, rfl, rfl, next, fewer⟩
    rw [(areQuiet_read _ _ _ quiet).append_iff]
    exact List.forall_mem_singleton.2 id
  | removed decided =>
    rw [(decided_of_leads decided).isTerminal (Or.inl rfl)] at active
    cases active
  | kept decided =>
    rw [(decided_of_leads decided).isTerminal (Or.inr rfl)] at active
    cases active

/-- Passes over a request that is alone, up to the number of writes that its cycle still needs. -/
theorem Passes.cycle {passes : List WholePass} (run : Passes s passes s')
    (alone : s.records.values = [r]) (valid : Selection.checkPatterns r.spec = .ok ())
    (selected : Selection.ofSpec r.spec ctx.management ctx.skipManagement tenants = .ok selection)
    (each : ∀ pass ∈ passes, pass.ctx = ctx ∧ pass.name = r.name ∧
      Discovers tenants pass.exchanges)
    (onCourse : (r.status.getD {}).OnCourse selection)
    (short : passes.length ≤ (r.status.getD {}).writesLeft selection) :
    (∀ pass ∈ passes, WritesOnce pass.exchanges) ∧ ∃ r', s'.records.values = [r'] ∧
      r'.name = r.name ∧ (r'.status.getD {}).OnCourse selection ∧
      (r'.status.getD {}).writesLeft selection + passes.length =
        (r.status.getD {}).writesLeft selection := by
  induction run generalizing r with
  | nil s => exact ⟨List.forall_mem_nil _, r, alone, rfl, onCourse, rfl⟩
  | @cons s middle last pass passes served run ih =>
    rw [List.forall_mem_cons] at each
    obtain ⟨⟨rfl, hname, discovered⟩, others⟩ := each
    rw [List.length_cons] at short
    have stored : s.get? pass.name = some r := by
      rw [hname, ← mem_values_iff, alone]
      exact List.mem_singleton_self r
    -- There is a write left for this pass, so there is no verdict yet.
    have active : r.phase.isTerminal = false := by
      rw [Bool.eq_false_iff]
      intro terminal
      have := onCourse.isTerminal_iff.1 terminal
      omega
    obtain ⟨written, r', alone', hname', hspec, onCourse', fewer⟩ :=
      (pass.comes served stored).writesLeft alone valid selected discovered onCourse active
    rw [← hspec] at valid selected
    rw [← hname'] at others
    obtain ⟨hwritten, r'', alone'', hname'', onCourse'', rest⟩ :=
      ih alone' valid selected others onCourse' (by omega)
    refine ⟨List.forall_mem_cons.2 ⟨written, hwritten⟩, r'', alone'', hname''.trans hname',
      onCourse'', ?_⟩
    rw [List.length_cons]
    omega

/-- The answer to a lookup of the tenant clusters is what the surroundings respond. -/
theorem Follows.discovers {respond : List (Exchange Calls) → (c : Call) → c.Answer}
    (h : Follows respond es) (hrespond : ∀ before, respond before .discover = .ok tenants) :
    Discovers tenants es := by
  intro answer hanswer
  obtain ⟨before, after, hes⟩ := List.append_of_mem hanswer
  rw [h before .discover answer after hes id, hrespond]

/-- The cycle of a request that is stored alone, over a healthy store: every pass writes once, and
the request gets to its verdict with the last of six passes, one more for each unresolved name and
four more for each target, and not before. There are these passes, whatever the surroundings
respond. -/
theorem cycle_length (alone : s.records.values = [r]) (unwritten : r.status = none)
    (valid : Selection.checkPatterns r.spec = .ok ()) (ctx : Context) (tenants : List Target) :
    ∃ selection,
      Selection.ofSpec r.spec ctx.management ctx.skipManagement tenants = .ok selection ∧
      (∀ passes s', Passes s passes s' →
        (∀ pass ∈ passes, pass.ctx = ctx ∧ pass.name = r.name ∧
          Discovers tenants pass.exchanges) →
        passes.length ≤ 6 + selection.unresolved.length + 4 * selection.targetNames.card →
          (∀ pass ∈ passes, WritesOnce pass.exchanges) ∧
          ∃ r', s'.records.values = [r'] ∧ r'.name = r.name ∧
            (r'.phase = .completed ∨ r'.phase = .failed ↔
              passes.length =
                6 + selection.unresolved.length + 4 * selection.targetNames.card)) ∧
      ∀ respond : Nat → List (Exchange Calls) → (c : Call) → c.Answer,
        (∀ i before, respond i before .discover = .ok tenants) →
          ∃ passes s', Passes s passes s' ∧
            passes.length = 6 + selection.unresolved.length + 4 * selection.targetNames.card ∧
            ∀ i pass, passes[i]? = some pass → pass.ctx = ctx ∧ pass.name = r.name ∧
              Discovers tenants pass.exchanges ∧ Follows (respond i) pass.exchanges := by
  obtain ⟨selection, selected⟩ :=
    Selection.exists_ofSpec valid ctx.management ctx.skipManagement tenants
  have fresh : r.status.getD {} = {} := by rw [unwritten]; rfl
  have hlength := Status.writesLeft_default selection
  rw [← fresh] at hlength
  have onCourse : (r.status.getD {}).OnCourse selection := by
    rw [fresh]
    exact Status.onCourse_default selection
  refine ⟨selection, selected, fun passes s' run each short ↦ ?_, fun respond discovered ↦ ?_⟩
  · rw [← hlength] at short ⊢
    obtain ⟨written, r', alone', hname, onCourse', rest⟩ :=
      run.cycle alone valid selected each onCourse short
    refine ⟨written, r', alone', hname, ?_⟩
    refine onCourse'.verdict_iff.trans ?_
    omega
  · obtain ⟨passes, s', run, horder, follows⟩ :=
      exists_passes s (List.replicate _ (ctx, r.name)) respond
    obtain ⟨hn, heach⟩ := List.eq_replicate_iff.1 horder
    rw [List.length_map] at hn
    refine ⟨passes, s', run, hn, fun i pass hi ↦ ?_⟩
    obtain ⟨hctx, hname⟩ := Prod.mk.inj (heach _ (List.mem_map_of_mem (List.mem_of_getElem? hi)))
    exact ⟨hctx, hname, (follows i pass hi).discovers (discovered i), follows i pass hi⟩

/-- A request for the management cluster and for one that does not exist: eleven passes. -/
theorem cycle_length_eleven :
    ∃ (s : Store) (passes : List WholePass) (s' : Store) (r : Record), Passes s passes s' ∧
      passes.length = 11 ∧ (∀ pass ∈ passes, WritesOnce pass.exchanges) ∧
      s'.records.values = [r] ∧ (r.phase = .completed ∨ r.phase = .failed) := by
  let r : Record := { freshRecord "b" with spec := { clusterNames := [managementName, "a"] } }
  let respond (c : Call) : c.Answer :=
    match c with
    | .discover => .ok []
    | c => Classical.choice inferInstance
  obtain ⟨selection, selected, writes, exist⟩ :=
    cycle_length (s := .single r) (r := r) rfl rfl rfl (plainContext false) []
  have hselection : Selection.ofSpec r.spec (plainContext false).management false [] =
      .ok ⟨[(plainContext false).management], [⟨"a", Selection.notFoundReason⟩]⟩ := by rfl
  obtain rfl := Except.ok.inj (selected.symm.trans hselection)
  obtain ⟨passes, s', run, hlength, heach⟩ := exist (fun _ _ ↦ respond) fun _ _ ↦ rfl
  have each (pass : WholePass) (hpass : pass ∈ passes) : pass.ctx = plainContext false ∧
      pass.name = r.name ∧ Discovers [] pass.exchanges := by
    obtain ⟨i, hi⟩ := List.getElem?_of_mem hpass
    obtain ⟨hctx, hname, discovered, -⟩ := heach i pass hi
    exact ⟨hctx, hname, discovered⟩
  obtain ⟨written, r', values, -, verdict⟩ := writes passes s' run each hlength.le
  exact ⟨_, passes, s', r', run, hlength, written, values, verdict.2 hlength⟩

end Undisturbed

end EtcdBackup
