import EtcdBackup.Proofs.Interleaving.PhaseOrder
import EtcdBackup.Proofs.Undisturbed.Lockstep

/-!
# Backups do not disturb each other

A run over a request is a series of writes, each decided on by a pass (`Strides`); the passes in
between leave everything as it was (`Passes.exists_strides`). Two runs over the same request write
the same number of statuses, and each status of the one is abreast of that of the other
(`Strides.abreast`): with nothing written at the end of a cycle, neither can get ahead. So whatever
comes of all other backups, the one that goes by a script ends alike in both runs, makers are opened
for it equally often, all backups are started in the same order, and the statuses at the end differ
in the verdict at most (`undisturbed`).
-/

set_option autoImplicit false
set_option relaxedAutoImplicit false

namespace EtcdBackup

open Dialogue Interleaving

namespace Pass

/-- A verdict only depends on the name of the request. -/
theorem admission_congr {r r' : Record} (h : r'.name = r.name) (all : List Record) :
    admission r' all = admission r all := by
  unfold admission
  rw [h]

theorem Decided.phase_ne_empty {ctx : Context} {r : Record} {now : Instant}
    {look : List (Exchange Calls)} {decision : Decision} (h : Decided ctx r now look decision)
    {next : Status} (hnext : decision.status? = some next) : next.phase ≠ .empty := by
  have hall : ∀ edge ∈ Phase.cycleEdges ++ Phase.rejectionEdges, edge.2 ≠ .empty := by decide
  refine hall (r.phase, next.phase) (List.mem_append.2 ?_)
  exact (h.mem_edges hnext).imp id And.left

end Pass

namespace Undisturbed

open Pass Runner

variable {s s' : Store} {r r' : Record} {ctx : Context} {name : String} {version : Datastore}
  {es : List (Exchange Calls)}

/-! ### The writes of a run -/

/-- All exchanges of some passes, one after the other. -/
def exchanges (passes : List WholePass) : List (Exchange Calls) :=
  passes.flatMap WholePass.exchanges

/-- The statuses that are written by some exchanges. -/
def writes (es : List (Exchange Calls)) : List Status :=
  es.filterMap fun e ↦
    match e with
    | ⟨.updateStatus given, .ok ()⟩ => given.status
    | _ => none

theorem writes_append (es es' : List (Exchange Calls)) :
    writes (es ++ es') = writes es ++ writes es' := List.filterMap_append

theorem writes_of_areQuiet (quiet : AreQuiet es) : writes es = [] := by
  refine List.filterMap_eq_nil_iff.2 fun e he ↦ ?_
  have hquiet := quiet e he
  obtain ⟨request, answer⟩ := e
  cases request with
  | updateStatus given => exact (hquiet trivial).elim
  | _ => rfl

/-- A status that a run writes, with the exchanges that led to it. -/
structure Stride where
  look : List (Exchange Calls)
  status : Status

/-- The exchanges that led to the writes of a run. -/
def looks (strides : List Stride) : List (Exchange Calls) := strides.flatMap Stride.look

/-- The writes of a run over a request one after the other, each decided on by a pass. The verdict
on a request that nobody has looked at is that of the store that the run began with. -/
inductive Strides (ctx : Context) (s : Store) : Record → List Stride → Record → Prop
  | nil (r : Record) : Strides ctx s r [] r
  | cons {r last : Record} {now : Instant} {look : List (Exchange Calls)} {status : Status}
      {strides : List Stride} {decision : Decision} {version : Option String}
      (decided : (decide ctx r now).Leads look (.done (.ok decision)))
      (hstatus : decision.status? = some status)
      (admitted : r.phase = .empty → ∀ all, (⟨.list, .ok all⟩ : Exchange Calls) ∈ look →
        admission r all = admission r s.records.values)
      (rest : Strides ctx s (written r status version) strides last) :
      Strides ctx s r (⟨look, status⟩ :: strides) last

/-- What the writes of a run have to do with its exchanges. -/
structure Condenses (strides : List Stride) (es : List (Exchange Calls)) : Prop where
  work_eq : work es = work (looks strides)
  writes_eq : writes es = strides.map Stride.status
  subset : ∀ stride ∈ strides, stride.look ⊆ es

namespace Condenses

variable {strides : List Stride} {es' : List (Exchange Calls)}

/-- A pass that writes nothing. -/
theorem skip (h : Condenses strides es') (idle : work es = []) (unwritten : writes es = []) :
    Condenses strides (es ++ es') where
  work_eq := by rw [work_append, idle, List.nil_append, h.work_eq]
  writes_eq := by rw [writes_append, unwritten, List.nil_append, h.writes_eq]
  subset stride hstride := List.subset_append_of_subset_right _ (h.subset stride hstride)

/-- A pass that writes. -/
theorem cons (h : Condenses strides es') (stride : Stride) (hwork : work es = work stride.look)
    (hwrites : writes es = [stride.status]) (subset : stride.look ⊆ es) :
    Condenses (stride :: strides) (es ++ es') where
  work_eq := by
    rw [looks, List.flatMap_cons, work_append, work_append, hwork, h.work_eq]
    rfl
  writes_eq := by
    rw [writes_append, hwrites, h.writes_eq]
    rfl
  subset := by
    rw [List.forall_mem_cons]
    exact ⟨List.subset_append_of_subset_left _ subset,
      fun other hother ↦ List.subset_append_of_subset_right _ (h.subset other hother)⟩

end Condenses

/-- A request that was deleted does not come back. -/
theorem Served.get?_eq_none (h : Served s es s') (absent : s.get? name = none) :
    s'.get? name = none := by
  induction h with
  | nil => exact absent
  | @cons s middle last e es first _ ih =>
    refine ih ?_
    cases first with
    | @written given before after stored current overwritten fresh =>
      have hname : after.name = given.name :=
        overwritten.name_eq (Store.name_eq_of_get? stored)
      rw [Store.get?_put, if_neg fun h ↦ ?_, absent]
      rw [hname] at h
      rw [h, absent] at stored
      cases stored
    | deleted =>
      rw [Store.get?_remove]
      split
      · rfl
      · exact absent
    | found | missing | listed | refused | elsewhere => exact absent

theorem Passes.get?_eq_none {passes : List WholePass} (run : Passes s passes s')
    (absent : s.get? name = none) : s'.get? name = none := by
  induction run with
  | nil => exact absent
  | cons served _ ih => exact ih (served.get?_eq_none absent)

/-- What a run over a request comes to is a series of writes, with passes in between that leave
everything as it was. -/
theorem Passes.exists_strides {s₀ : Store} {passes : List WholePass} (run : Passes s passes s')
    (stored : s.get? r.name = some r) (last : s'.get? r.name = some r')
    (each : ∀ pass ∈ passes, pass.ctx = ctx ∧ pass.name = r.name)
    (first : r.phase = .empty → s = s₀) :
    ∃ strides, Strides ctx s₀ r strides r' ∧ Condenses strides (exchanges passes) := by
  induction run generalizing r with
  | nil s =>
    rw [stored] at last
    cases last
    exact ⟨[], .nil r', rfl, rfl, List.forall_mem_nil _⟩
  | @cons s middle final pass passes served run ih =>
    rw [List.forall_mem_cons] at each
    obtain ⟨⟨rfl, hname⟩, others⟩ := each
    have unwritten {look : List (Exchange Calls)} (quiet : AreQuiet look) (now : Instant) :
        writes (⟨.get r.name, .ok r⟩ :: ⟨.now, now⟩ :: look) = [] :=
      writes_of_areQuiet (areQuiet_read _ _ _ quiet)
    have comes := pass.comes served (hname ▸ stored)
    change ∃ strides, _ ∧ Condenses strides (pass.exchanges ++ exchanges passes)
    generalize pass.exchanges = es, pass.result = result at comes
    cases comes with
    | @undecided now look e failed _ =>
      obtain ⟨strides, h, condenses⟩ := ih stored last others first
      have hwork : work look = [] := by
        rcases undecided_of_leads failed with rfl | ⟨-, hselect⟩
        · rfl
        · exact work_select hselect
      exact ⟨strides, h, condenses.skip hwork (unwritten (areQuiet_of_leads failed) now)⟩
    | @kept now look decided _ =>
      obtain ⟨strides, h, condenses⟩ := ih stored last others first
      have hdecided := decided_of_leads decided
      obtain ⟨rfl, -⟩ := hdecided.of_isTerminal (hdecided.isTerminal (Or.inr rfl))
      exact ⟨strides, h, condenses.skip rfl (unwritten (List.forall_mem_nil _) now)⟩
    | removed =>
      have absent : (s.remove r.name).get? r.name = none := by rw [Store.get?_remove, if_pos rfl]
      rw [run.get?_eq_none absent] at last
      cases last
    | @wrote now look decision status version decided served' hstatus fresh =>
      have stored' : (s.put (written r status version) fresh).get? (written r status version).name =
          some (written r status version) := Store.get?_put_self fresh
      have hphase := (decided_of_leads decided).phase_ne_empty hstatus
      obtain ⟨strides, h, condenses⟩ := ih stored' last others fun empty ↦ (hphase empty).elim
      refine ⟨⟨look, status⟩ :: strides, .cons decided hstatus (fun empty all hall ↦ ?_) h,
        condenses.cons ⟨look, status⟩ ?_ ?_ fun e he ↦ ?_⟩
      · obtain rfl := first empty
        have quiet := areQuiet_of_leads decided
        obtain ⟨all', hall', order, -⟩ := (served'.serves_of_mem quiet hall).eq_of_list
        cases hall'
        exact (Settles.refl s).admission_eq stored stored order
      · rw [work_append]
        exact List.append_nil _
      · rw [writes_append, unwritten (areQuiet_of_leads decided) now]
        rfl
      · exact List.mem_append_left _ (List.mem_cons_of_mem _ (List.mem_cons_of_mem _ he))

/-! ### Two runs in step -/

variable {last last' : Record} {strides strides' : List Stride}
  {discovery : Except Error (List Target)} {script : Nat → Outcomes} {turn turn' : Turn}
  {past past' : List (Exchange Calls)}

/-- Nothing is written at the end of a cycle. -/
theorem Strides.of_isTerminal (h : Strides ctx s r strides last) (terminal : r.phase.isTerminal) :
    strides = [] ∧ last = r := by
  cases h with
  | nil => exact ⟨rfl, rfl⟩
  | cons decided hstatus =>
    rcases ((decided_of_leads decided).of_isTerminal terminal).2 with rfl | rfl <;> cases hstatus

/-- Two runs over requests that are abreast stay so up to their ends. -/
theorem Strides.abreast (h : Strides ctx s r strides last) (h' : Strides ctx s r' strides' last')
    (terminal : last.phase.isTerminal) (terminal' : last'.phase.isTerminal)
    (same : r'.name = r.name ∧ r'.spec = r.spec)
    (abreast : Abreast name version (r.status.getD {}) (r'.status.getD {}))
    (finds : ∀ stride ∈ strides, Finds discovery stride.look)
    (finds' : ∀ stride ∈ strides', Finds discovery stride.look)
    (fits : (scripted name version script).AllFit turn (looks strides))
    (fits' : (scripted name version script).AllFit turn' (looks strides'))
    (attempts : turn.attempts = turn'.attempts)
    (order : (callers past).eraseDups = (callers past').eraseDups) :
    Abreast name version (last.status.getD {}) (last'.status.getD {}) ∧
      openings name version (looks strides) = openings name version (looks strides') ∧
      (callers (past ++ looks strides)).eraseDups = (callers (past' ++ looks strides')).eraseDups ∧
      List.Forall₂ (Abreast name version) (strides.map Stride.status)
        (strides'.map Stride.status) := by
  induction h generalizing r' strides' turn turn' past past' with
  | nil r =>
    obtain ⟨rfl, rfl⟩ := h'.of_isTerminal (abreast.isTerminal_eq ▸ terminal)
    refine ⟨abreast, rfl, ?_, .nil⟩
    rw [looks, List.flatMap_nil, List.append_nil, List.append_nil]
    exact order
  | @cons r last now look status strides decision _ decided hstatus admitted rest ih =>
    cases h' with
    | nil =>
      obtain ⟨h, -⟩ := (Strides.cons decided hstatus admitted rest).of_isTerminal
        (abreast.isTerminal_eq.trans terminal')
      cases h
    | @cons _ _ now' look' status' strides' decision' _ decided' hstatus' admitted' rest' =>
      rw [List.forall_mem_cons] at finds finds'
      rw [looks, List.flatMap_cons, Monitor.allFit_append] at fits fits'
      have together := together_of_leads decided decided' hstatus hstatus' abreast same.2
        finds.1 finds'.1 fun empty all all' hall hall' ↦ by
          have empty' : r'.phase = .empty := (abreast.phase_eq (congrArg _ empty)).trans empty
          rw [admitted' empty' all' hall', admitted empty all hall, admission_congr same.1]
      obtain ⟨next, hopenings⟩ := together.abreast abreast fits.1 fits'.1 attempts
      have attempts_next : ((look.foldl (scripted name version script).after turn).attempts) =
          (look'.foldl (scripted name version script).after turn').attempts := by
        rw [attempts_foldl_after, attempts_foldl_after, attempts, hopenings]
      obtain ⟨hlast, hrest, horder, hforall⟩ := ih rest' terminal same next finds.2 finds'.2
        fits.2 fits'.2 attempts_next (together.eraseDups_callers order)
      refine ⟨hlast, ?_, ?_, .cons next hforall⟩
      · rw [looks, looks, List.flatMap_cons, List.flatMap_cons, openings_append, openings_append,
          hopenings]
        exact congrArg _ hrest
      · rw [looks, looks, List.flatMap_cons, List.flatMap_cons, ← List.append_assoc,
          ← List.append_assoc]
        exact horder

/-! ### The backup of one datastore of one target -/

/-- What is the same in two runs for the backup of a datastore version of a target, whatever came of
the other backups. -/
structure IsUndisturbed (name : String) (version : Datastore) (es es' : List (Exchange Calls))
    (last last' : Status) : Prop where
  /-- The sub-status ends alike, times and durations aside. -/
  sub : (last.sub? name version).map SubStatus.timeless =
    (last'.sub? name version).map SubStatus.timeless
  /-- As many makers are opened. -/
  openings : openings name version es = openings name version es'
  /-- The backups are started in the same order: with each write the same ones have been. -/
  started : List.Forall₂ (fun s s' : Status ↦ ∀ other v,
    (s.sub other v).started.isSome = (s'.sub other v).started.isSome) (writes es) (writes es')
  /-- Makers are opened for them in the same order. -/
  callers : (callers es).eraseDups = (callers es').eraseDups
  /-- The statuses end alike, but for the other sub-statuses, times, durations and the verdict. -/
  outline : last.outline name version = last'.outline name version

/-- Backups do not disturb each other. Two runs take the same request from the same healthy store to
the end of its cycle, with the same context and the same answer to the lookup of the clusters. If
the attempts at one datastore version of one target are answered by the same script, the runs agree
on it, whatever is answered to all other attempts. -/
theorem undisturbed {s₁ s₂ : Store} {r₁ r₂ : Record} {passes₁ passes₂ : List WholePass}
    (run₁ : Passes s passes₁ s₁) (run₂ : Passes s passes₂ s₂) (stored : s.get? r.name = some r)
    (each : ∀ pass ∈ passes₁ ++ passes₂,
      pass.ctx = ctx ∧ pass.name = r.name ∧ Finds discovery pass.exchanges)
    (last₁ : s₁.get? r.name = some r₁) (terminal₁ : r₁.phase.isTerminal)
    (last₂ : s₂.get? r.name = some r₂) (terminal₂ : r₂.phase.isTerminal)
    (fits₁ : (scripted name version script).AllFit {} (exchanges passes₁))
    (fits₂ : (scripted name version script).AllFit {} (exchanges passes₂)) :
    IsUndisturbed name version (exchanges passes₁) (exchanges passes₂) (r₁.status.getD {})
      (r₂.status.getD {}) := by
  rw [List.forall_mem_append] at each
  have finds {passes : List WholePass} {strides : List Stride}
      (each : ∀ pass ∈ passes,
        pass.ctx = ctx ∧ pass.name = r.name ∧ Finds discovery pass.exchanges)
      (condenses : Condenses strides (exchanges passes)) :
      ∀ stride ∈ strides, Finds discovery stride.look := by
    intro stride hstride answer hanswer
    obtain ⟨pass, hpass, he⟩ := List.mem_flatMap.1 (condenses.subset stride hstride hanswer)
    exact (each pass hpass).2.2 answer he
  obtain ⟨strides₁, h₁, condenses₁⟩ := run₁.exists_strides stored last₁
    (fun pass hpass ↦ ⟨(each.1 pass hpass).1, (each.1 pass hpass).2.1⟩) fun _ ↦ rfl
  obtain ⟨strides₂, h₂, condenses₂⟩ := run₂.exists_strides stored last₂
    (fun pass hpass ↦ ⟨(each.2 pass hpass).1, (each.2 pass hpass).2.1⟩) fun _ ↦ rfl
  rw [← allFit_work, condenses₁.work_eq, allFit_work] at fits₁
  rw [← allFit_work, condenses₂.work_eq, allFit_work] at fits₂
  have hcallers₁ : callers (exchanges passes₁) = callers (looks strides₁) := by
    rw [← callers_work, condenses₁.work_eq, callers_work]
  have hcallers₂ : callers (exchanges passes₂) = callers (looks strides₂) := by
    rw [← callers_work, condenses₂.work_eq, callers_work]
  have horder : (callers ([] : List (Exchange Calls))).eraseDups = (callers []).eraseDups := rfl
  obtain ⟨abreast, hopenings, horder, hforall⟩ := h₁.abreast h₂ terminal₁ terminal₂ ⟨rfl, rfl⟩
    (.refl name version _) (finds each.1 condenses₁) (finds each.2 condenses₂) fits₁ fits₂ rfl
    horder
  constructor
  case sub => rw [← Status.sub?_outline, abreast.outline, Status.sub?_outline]
  case openings =>
    rw [openings_eq_count, openings_eq_count] at hopenings ⊢
    rw [hcallers₁, hcallers₂, hopenings]
  case started =>
    rw [condenses₁.writes_eq, condenses₂.writes_eq]
    exact hforall.imp fun _ _ h other v ↦ (h.parallel other v).started
  case callers =>
    rw [hcallers₁, hcallers₂]
    exact horder
  case outline => exact abreast.outline

/-- Whatever the surroundings respond, there are passes that take a request that is stored alone to
its verdict. -/
theorem exists_cycle (alone : s.records.values = [r]) (unwritten : r.status = none)
    (valid : Selection.checkPatterns r.spec = .ok ()) (ctx : Context) {tenants : List Target}
    (respond : (c : Call) → c.Answer) (discovered : respond .discover = .ok tenants) :
    ∃ passes s' r', Passes s passes s' ∧ s'.get? r.name = some r' ∧ r'.phase.isTerminal ∧
      ∀ pass ∈ passes,
        pass.ctx = ctx ∧ pass.name = r.name ∧ Follows (fun _ ↦ respond) pass.exchanges := by
  obtain ⟨selection, selected⟩ :=
    Selection.exists_ofSpec valid ctx.management ctx.skipManagement tenants
  obtain ⟨passes, s', run, horder, follows⟩ := exists_passes s
    (List.replicate ((r.status.getD {}).writesLeft selection) (ctx, r.name)) fun _ _ ↦ respond
  obtain ⟨hlength, hall⟩ := List.eq_replicate_iff.1 horder
  rw [List.length_map] at hlength
  have each (pass : WholePass) (hpass : pass ∈ passes) :
      pass.ctx = ctx ∧ pass.name = r.name ∧ Follows (fun _ ↦ respond) pass.exchanges := by
    obtain ⟨i, hi⟩ := List.getElem?_of_mem hpass
    obtain ⟨hctx, hname⟩ := Prod.mk.inj (hall _ (List.mem_map_of_mem hpass))
    exact ⟨hctx, hname, follows i pass hi⟩
  have onCourse : (r.status.getD {}).OnCourse selection := by
    rw [unwritten]
    exact Status.onCourse_default selection
  obtain ⟨-, r', alone', hname, onCourse', rest⟩ := run.cycle alone valid selected
    (fun pass hpass ↦ ⟨(each pass hpass).1, (each pass hpass).2.1,
      (each pass hpass).2.2.discovers fun _ ↦ discovered⟩) onCourse hlength.le
  have stored : s'.get? r'.name = some r' := by
    rw [← mem_values_iff, alone']
    exact List.mem_singleton_self r'
  exact ⟨passes, s', r', run, hname ▸ stored, onCourse'.isTerminal_iff.2 (by omega), each⟩

/-- The answers of surroundings in which each backup succeeds, but for those of v3 datastores. -/
def responses (opened : Except Error Backupper) : (c : Call) → c.Answer
  | .openBackupper _ .v2 => .ok ⟨0, .v2⟩
  | .openBackupper _ .v3 => opened
  | .create _ | .encrypt _ => .ok "/a"
  | .upload _ => .ok 3
  | .discover | .list => .ok []
  | .now => .epoch
  | .stopwatch => .zero
  | .sleep _ | .measure _ => ()
  | .get _ => .error default
  | .updateStatus _ | .delete _ | .cleanup _ => .ok ()

/-- All attempts at the v2 datastore are answered by the script then. -/
theorem allFit_responses (opened : Except Error Backupper) {passes : List WholePass}
    (each : ∀ pass ∈ passes, Follows (fun _ ↦ responses opened) pass.exchanges) (name : String) :
    (scripted name .v2 fun _ ↦ ⟨.ok .v2, .ok "/a", .ok "/a", .ok 3⟩).AllFit {}
      (exchanges passes) := by
  refine Monitor.allFit_of_forall fun e he turn ↦ ?_
  obtain ⟨pass, hpass, he⟩ := List.mem_flatMap.1 he
  obtain ⟨before, after, hes⟩ := List.append_of_mem he
  obtain ⟨c, answer⟩ := e
  have hanswer (elsewhere : ¬c.IsOnStore) : answer = responses opened c :=
    each pass hpass before c answer after hes elsewhere
  cases c with
  | openBackupper t v =>
    rintro ⟨-, rfl⟩
    rw [hanswer id]
    rfl
  | create b | encrypt b | upload path =>
    intro k _
    exact hanswer id
  | _ => trivial

/-- A request for the management cluster. The backup of its v3 datastore fails in one run and
succeeds in the other, and the backup of its v2 datastore is the same in both. -/
theorem undisturbed_management :
    ∃ (ctx : Context) (s s₁ s₂ : Store) (r₁ r₂ : Record) (passes₁ passes₂ : List WholePass),
      Passes s passes₁ s₁ ∧ Passes s passes₂ s₂ ∧
      (∀ pass ∈ passes₁, Follows (fun _ ↦ responses (.error default)) pass.exchanges) ∧
      (∀ pass ∈ passes₂, Follows (fun _ ↦ responses (.ok ⟨1, .v3⟩)) pass.exchanges) ∧
      (∀ version, ctx.management.isComplete version) ∧
      s₁.get? "b" = some r₁ ∧ r₁.phase.isTerminal ∧ s₂.get? "b" = some r₂ ∧ r₂.phase.isTerminal ∧
      IsUndisturbed managementName .v2 (exchanges passes₁) (exchanges passes₂)
        (r₁.status.getD {}) (r₂.status.getD {}) := by
  let r : Record := freshRecord "b"
  let ctx : Context := { plainContext false with
    management := .management "/d" { endpoints := "http://e", tls := some {} } }
  obtain ⟨passes₁, s₁, r₁, run₁, last₁, terminal₁, each₁⟩ := exists_cycle (s := .single r) (r := r)
    rfl rfl rfl ctx (responses (.error default)) rfl
  obtain ⟨passes₂, s₂, r₂, run₂, last₂, terminal₂, each₂⟩ := exists_cycle (s := .single r) (r := r)
    rfl rfl rfl ctx (responses (.ok ⟨1, .v3⟩)) rfl
  have each : ∀ pass ∈ passes₁ ++ passes₂,
      pass.ctx = ctx ∧ pass.name = r.name ∧ Finds (.ok []) pass.exchanges := by
    rw [List.forall_mem_append]
    exact ⟨fun pass hpass ↦ ⟨(each₁ pass hpass).1, (each₁ pass hpass).2.1,
        (each₁ pass hpass).2.2.discovers fun _ ↦ rfl⟩,
      fun pass hpass ↦ ⟨(each₂ pass hpass).1, (each₂ pass hpass).2.1,
        (each₂ pass hpass).2.2.discovers fun _ ↦ rfl⟩⟩
  have follows₁ (pass : WholePass) (hpass : pass ∈ passes₁) := (each₁ pass hpass).2.2
  have follows₂ (pass : WholePass) (hpass : pass ∈ passes₂) := (each₂ pass hpass).2.2
  have complete (version : Datastore) : ctx.management.isComplete version := by
    cases version <;> decide
  exact ⟨ctx, .single r, s₁, s₂, r₁, r₂, passes₁, passes₂, run₁, run₂, follows₁, follows₂, complete,
    last₁, terminal₁, last₂, terminal₂,
    undisturbed run₁ run₂ (r := r) rfl each last₁ terminal₁ last₂ terminal₂
      (allFit_responses _ follows₁ managementName) (allFit_responses _ follows₂ managementName)⟩

end Undisturbed

end EtcdBackup
