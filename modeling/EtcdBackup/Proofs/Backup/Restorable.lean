import EtcdBackup.Backup.Pipeline
import EtcdBackup.Operator
import EtcdBackup.Proofs.Backup.Artifact

/-!
# What is stored can be restored

A backup runs its steps on a maker that it keeps under a number, and what one step leaves in the
maker, the next one takes from it: the file of the snapshot, its archive and the sealed form of
that, each under a name that is made from the one before. Each step has a lemma about what is then
known of the files (`ensures_create`, `ensures_encrypt_call`, `ensures_upload`), and
`ensures_attempt` puts them together: a backup that succeeds has stored one object, under the name
in its outcome, and the snapshot that the server sent is in it (`IsRestorable`). What is stored opens
under the passphrase, if there is one, whether or not the backup succeeds (`restorable`).
-/

set_option autoImplicit false
set_option relaxedAutoImplicit false

namespace EtcdBackup

open Dialogue

variable {α β : Type} {setup : Operator.Setup} {o : Operator}

namespace Operator

theorem run_bind (d : Job α) (f : α → Job β) (o : Operator) :
    run setup (d >>= f) o = run setup d o >>= fun p ↦ run setup (f p.1) p.2 := by
  induction d generalizing o with
  | done a => rfl
  | ask request next ih =>
    have step (next : Calls.Answer request → Job β) : run setup (.ask request next) o =
        answer setup request o >>= fun p ↦ run setup (next p.1) p.2 := rfl
    have step' : run setup (.ask request next) o =
        answer setup request o >>= fun p ↦ run setup (next p.1) p.2 := rfl
    rw [Dialogue.ask_bind, step, step', Dialogue.bind_assoc]
    exact congrArg (answer setup request o >>= ·) (funext fun p ↦ ih p.1 p.2)

end Operator

namespace Backup

section

variable {State : Type} {m : Monitor Effects State} {s : State}

theorem ensures_run_bind {d : Job α} {f : α → Job β} {post : State → β × Operator → Prop}
    (mid : State → α × Operator → Prop) (h : (Operator.run setup d o).Ensures m s mid)
    (hf : ∀ s a o, mid s (a, o) → (Operator.run setup (f a) o).Ensures m s post) :
    (Operator.run setup (d >>= f) o).Ensures m s post := by
  rw [Operator.run_bind]
  exact h.bind fun s p hp ↦ hf s p.1 p.2 hp

theorem ensures_run_call {c : Call} {post : State → c.Answer × Operator → Prop}
    (h : (Operator.answer setup c o).Ensures m s post) :
    (Operator.run setup (Job.call c) o).Ensures m s post :=
  h.bind fun _ _ hp ↦ .done hp

/-- A step for a maker. -/
theorem ensures_withMaker {b : Backupper} {act : Maker → Work (α × Maker)}
    {post : State → α × Operator → Prop}
    (h : (act (o.makers.getD b.id default)).Ensures m s fun s p ↦
      post s (p.1, { o with makers := o.makers.setIfInBounds b.id p.2 })) :
    (Operator.withMaker b act o).Ensures m s post := by
  have acted : Dialogue.Ensures m
      (act (o.makers.getD b.id default) >>= fun made ↦ .done (made, o)) s fun s p ↦
      p.2 = o ∧ post s (p.1.1, { o with makers := o.makers.setIfInBounds b.id p.1.2 }) :=
    h.bind fun _ _ hp ↦ .done ⟨rfl, hp⟩
  refine acted.bind fun s p hp ↦ ?_
  obtain ⟨⟨a, maker⟩, o'⟩ := p
  obtain ⟨rfl, hp⟩ := hp
  exact .done hp

end

section

variable {target : Target} {s : Sight} {version : Datastore} {stage : Stage}

/-- The condition holds of what a step comes to, unless it failed. -/
def Achieves (good : Sight → α → Operator → Prop) : Sight → Except Error α × Operator → Prop
  | s, (.ok a, o) => good s a o
  | _, (.error _, _) => True

/-- A step that fails ends the steps, and one that succeeds is gone on from. -/
theorem ensures_step {passphrase : String} {act : Job (Except Error α)}
    {f : Except Error α → Job (Except Error β)} {good : Sight → α → Operator → Prop}
    {good' : Sight → β → Operator → Prop}
    (h : (Operator.run setup act o).Ensures (monitor passphrase) s (Achieves good))
    (error : ∀ e, ∃ e', f (.error e) = pure (.error e'))
    (ok : ∀ s a o, good s a o →
      (Operator.run setup (f (.ok a)) o).Ensures (monitor passphrase) s (Achieves good')) :
    (Operator.run setup (act >>= f) o).Ensures (monitor passphrase) s (Achieves good') := by
  refine ensures_run_bind _ h fun s result o hresult ↦ ?_
  cases result with
  | error e =>
    obtain ⟨e', he'⟩ := error e
    rw [he']
    exact .done trivial
  | ok a => exact ok s a o hresult

/-- A step is timed without changing anything else. -/
theorem ensures_timed {passphrase : String} {act : Job (Except Error α)}
    {good : Sight → α → Operator → Prop}
    (h : (Operator.run setup act o).Ensures (monitor passphrase) s (Achieves good)) :
    (Operator.run setup (timed version stage act) o).Ensures (monitor passphrase) s
      (Achieves fun s a o ↦ good s a.1 o) := by
  unfold timed
  refine ensures_run_bind (fun s' p ↦ s' = s ∧ p.2 = o)
    (.ask trivial fun _ _ ↦ .done ⟨rfl, rfl⟩) ?_
  rintro _ before _ ⟨rfl, rfl⟩
  exact ensures_step h (fun e ↦ ⟨_, rfl⟩) fun s a o ha ↦ .ask trivial fun after _ ↦ .done ha

/-! ### The steps of a backup -/

/-- The workspace of a fresh maker. -/
def freshWorkspace (setup : Operator.Setup) (target : Target) (directory : String) : Workspace :=
  ⟨.v3, filenamePrefix setup.installation target.name, setup.passphrase, some directory, none⟩

/-- The name of the artifact of a target, without extensions. -/
def stemOf (setup : Operator.Setup) (target : Target) (time : Instant) : String :=
  artifactStem (filenamePrefix setup.installation target.name) .v3 time.toMoment

/-- A maker is kept under its number. -/
structure Keeps (o : Operator) (b : Backupper) (maker : Maker) : Prop where
  lt : b.id < o.makers.size
  getD : o.makers.getD b.id default = maker

theorem Keeps.push (o : Operator) (version : Datastore) (maker : Maker) :
    Keeps { o with makers := o.makers.push maker } ⟨o.makers.size, version⟩ maker := by
  refine ⟨?_, ?_⟩
  · rw [Array.size_push]
    exact Nat.lt_succ_self _
  · simp

theorem Keeps.set {b : Backupper} {maker : Maker} (h : Keeps o b maker) (maker' : Maker) :
    Keeps { o with makers := o.makers.setIfInBounds b.id maker' } b maker' := by
  refine ⟨?_, ?_⟩
  · rw [Array.size_setIfInBounds]
    exact h.lt
  · simp [h.lt]

theorem ensures_open : (Operator.run setup (Job.call (.openBackupper target .v3)) o).Ensures
    (monitor setup.passphrase) s (Achieves fun s' b o' ↦ s' = s ∧
      ∃ directory,
        Keeps o' b ⟨target.dataDir, target.v3, freshWorkspace setup target directory⟩) := by
  refine .ask trivial fun answer _ ↦ ?_
  cases answer with
  | error e => exact .done trivial
  | ok directory =>
    exact .done ⟨rfl, directory, .push o .v3 _⟩

/-- The archive of a snapshot is made, and the maker knows where it is. -/
structure IsMade (setup : Operator.Setup) (target : Target) (before : Sight) (b : Backupper)
    (t : Taken) (archive : Bytes) (s : Sight) (path : String) (o : Operator) : Prop where
  told : s.told = before.told ++ t.exchanges
  place : ∃ directory, path = Path.join directory (stemOf setup target t.time ++ ".db.tar.gz")
  file : s.files path = some archive
  short : archive.length < 2 ^ 63
  isArchive : IsArchive archive (stemOf setup target t.time ++ ".db") t.stream.chunks.flatten
  maker : ∃ maker, Keeps o b maker ∧ maker.workspace.artifact = some path ∧
    maker.workspace.passphrase = setup.passphrase

theorem ensures_create {b : Backupper} {directory : String}
    (noSlash : '/' ∉ (filenamePrefix setup.installation target.name).toList)
    (keeps : Keeps o b ⟨target.dataDir, target.v3, freshWorkspace setup target directory⟩) :
    (Operator.run setup (Job.call (.create b)) o).Ensures (monitor setup.passphrase) s
      (Achieves fun s' path o' ↦ ∃ t archive, IsMade setup target s b t archive s' path o') := by
  refine ensures_run_call (ensures_withMaker ?_)
  rw [keeps.getD]
  refine (ensures_snapshotV3 (w := freshWorkspace setup target directory) target.v3 rfl
    noSlash).bind fun s' result hresult ↦ ?_
  cases result with
  | error e => exact .done trivial
  | ok made =>
    obtain ⟨path, workspace⟩ := made
    obtain ⟨t, packed⟩ := hresult
    obtain ⟨archive, file, short, isArchive⟩ := packed.archive
    obtain rfl : workspace = { freshWorkspace setup target directory with artifact := some path } :=
      packed.workspace
    exact .done ⟨t, archive, packed.told, ⟨directory, packed.path⟩, file, short, isArchive, _,
      keeps.set _, rfl, rfl⟩

/-- The file that is stored of an archive is there. -/
structure IsCovered (passphrase path : String) (archive : Bytes) (told : List (Exchange Effects))
    (content : Bytes) (s : Sight) (path' : String) : Prop where
  told : s.told = told
  file : s.files path' = some content
  short : content.length < 2 ^ 63
  ready : IsReady passphrase path archive path' content

theorem ensures_encrypt_call {b : Backupper} {maker : Maker} {path : String} {archive : Bytes}
    (keeps : Keeps o b maker) (hartifact : maker.workspace.artifact = some path)
    (hpassphrase : maker.workspace.passphrase = setup.passphrase)
    (known : s.files path = some archive) (short : archive.length < 2 ^ 63) :
    (Operator.run setup (Job.call (.encrypt b)) o).Ensures (monitor setup.passphrase) s
      (Achieves fun s' path' _ ↦
        ∃ content, IsCovered setup.passphrase path archive s.told content s' path') := by
  refine ensures_run_call (ensures_withMaker ?_)
  rw [keeps.getD]
  refine (ensures_encrypt hartifact hpassphrase known short).bind fun s' result hresult ↦ ?_
  cases result with
  | error e => exact .done trivial
  | ok made =>
    obtain ⟨htold, content, file, hlength, ready⟩ := hresult
    exact .done ⟨content, htold, file, hlength, ready⟩

/-- What is uploaded is the content of the file, under its name. -/
theorem ensures_upload {path key : String} {content : Bytes} (hkey : Path.fileName? path = some key)
    (known : s.files path = some content)
    (opens : setup.passphrase ≠ "" → ∃ plain, Sealed.unpack setup.passphrase content = .ok plain) :
    (Operator.run setup (Job.call (.upload path)) o).Ensures (monitor setup.passphrase) s
      (Achieves fun s' size _ ↦ size = UInt64.ofNat content.length ∧
        s'.told = s.told ++ [⟨.put setup.store key content, .ok ()⟩]) := by
  refine ensures_run_call ?_
  change Dialogue.Ensures _ (Upload.file setup.store path >>= fun size ↦ .done (size, o)) s _
  have hobject : Upload.objectKey path = .ok key := by rw [Upload.objectKey, hkey]
  unfold Upload.file
  rw [hobject]
  refine ensures_read known (fun e ↦ ?_) (.ask opens fun answer _ ↦ ?_)
  · cases e <;> exact .done trivial
  · cases answer with
    | error detail => exact .done trivial
    | ok stored => exact .done ⟨rfl, rfl⟩

/-! ### The whole backup -/

/-- An object is stored of which the snapshot can be restored. -/
structure IsRestorable (setup : Operator.Setup) (target : Target) (told : List (Exchange Effects))
    (outcome : Outcome) (t : Taken) (archive content : Bytes) : Prop where
  told : told = t.exchanges ++ [⟨.put setup.store outcome.filename content, .ok ()⟩]
  filename : outcome.filename = stemOf setup target t.time ++ ".db.tar.gz" ++
    (if setup.passphrase = "" then "" else ".enc")
  size : outcome.size.toNat = content.length
  plain : setup.passphrase = "" → content = archive
  covered : setup.passphrase ≠ "" → Sealed.IsSealed setup.passphrase archive content ∧
    Sealed.unpack setup.passphrase content = .ok archive
  isArchive : Archive.unpack? archive =
    some [⟨stemOf setup target t.time ++ ".db", some t.stream.chunks.flatten⟩]

/-- The name of the file that is stored. -/
theorem IsReady.fileName {path path' directory : String} {time : Instant} {archive content : Bytes}
    (h : IsReady setup.passphrase path archive path' content)
    (noSlash : '/' ∉ (filenamePrefix setup.installation target.name).toList)
    (hpath : path = Path.join directory (stemOf setup target time ++ ".db.tar.gz")) :
    Path.fileName? path' = some (stemOf setup target time ++ ".db.tar.gz" ++
      (if setup.passphrase = "" then "" else ".enc")) := by
  have isName {extension : String} (hextension : '/' ∉ extension.toList) :
      Path.IsName (stemOf setup target time ++ extension) :=
    isName_stem (w := freshWorkspace setup target directory) noSlash time hextension
  have isArchiveName : Path.IsName (stemOf setup target time ++ ".db.tar.gz") :=
    isName (by decide)
  have isSealedName : Path.IsName (stemOf setup target time ++ ".db.tar.gz" ++ ".enc") := by
    rw [String.append_assoc]
    exact isName (by decide)
  by_cases hnone : setup.passphrase = ""
  · rw [if_pos hnone, (h.plain hnone).1, hpath, String.append_empty,
      Path.fileName?_join directory isArchiveName]
  · rw [if_neg hnone, (h.covered hnone).1, hpath,
      Path.join_append directory isArchiveName isSealedName,
      Path.fileName?_join directory isSealedName]

theorem ensures_stages {b : Backupper} {directory : String}
    (noSlash : '/' ∉ (filenamePrefix setup.installation target.name).toList)
    (keeps : Keeps o b ⟨target.dataDir, target.v3, freshWorkspace setup target directory⟩)
    (fresh : s.told = []) :
    (Operator.run setup (stages b) o).Ensures (monitor setup.passphrase) s
      (Achieves fun s' outcome _ ↦
        ∃ t archive content, IsRestorable setup target s'.told outcome t archive content) := by
  unfold stages
  refine ensures_step (ensures_timed (ensures_create noSlash keeps)) (fun e ↦ ⟨e, rfl⟩) ?_
  rintro s₁ ⟨path, creation⟩ o₁ ⟨t, archive, made⟩
  obtain ⟨maker, keeps', hartifact, hpassphrase⟩ := made.maker
  obtain ⟨directory', hpath⟩ := made.place
  refine ensures_step (ensures_timed (ensures_encrypt_call keeps' hartifact hpassphrase made.file
    made.short)) (fun e ↦ ⟨e, rfl⟩) ?_
  rintro s₂ ⟨path', encryption⟩ o₂ ⟨content, covered⟩
  have hkey := covered.ready.fileName noSlash hpath
  have opens (hsome : setup.passphrase ≠ "") :
      Sealed.unpack setup.passphrase content = .ok archive :=
    Sealed.unpack_of_isSealed (covered.ready.covered hsome).2
  refine ensures_step (ensures_timed (ensures_upload hkey covered.file
    fun hsome ↦ ⟨archive, opens hsome⟩)) (fun e ↦ ⟨e, rfl⟩) ?_
  rintro s₃ ⟨size, upload⟩ o₃ ⟨rfl, htold⟩
  refine .done ⟨t, archive, content, ?_, ?_, ?_, fun hnone ↦ (covered.ready.plain hnone).2,
    fun hsome ↦ ⟨(covered.ready.covered hsome).2, opens hsome⟩, made.isArchive⟩
  · rw [htold, covered.told, made.told, fresh, hkey]
    rfl
  · rw [hkey]
    rfl
  · exact UInt64.toNat_ofNat_of_lt' (Nat.lt_trans covered.short (by decide))

theorem ensures_attempt
    (noSlash : '/' ∉ (filenamePrefix setup.installation target.name).toList)
    (fresh : s.told = []) :
    (Operator.run setup (attempt target .v3) o).Ensures (monitor setup.passphrase) s
      (Achieves fun s' outcome _ ↦
        ∃ t archive content, IsRestorable setup target s'.told outcome t archive content) := by
  unfold attempt
  refine ensures_step ensures_open (fun e ↦ ⟨e, rfl⟩) ?_
  rintro _ b o' ⟨rfl, directory, keeps⟩
  unfold pipeline
  refine ensures_run_bind _ (ensures_stages noSlash keeps fresh) fun s' result o' hresult ↦ ?_
  have cleaned : (Operator.run setup (Job.call (.cleanup b)) o').Ensures (monitor setup.passphrase)
      s' fun s'' _ ↦ s''.told = s'.told := by
    refine ensures_run_call (ensures_withMaker ?_)
    unfold Maker.cleanup Workspace.cleanup
    cases (o'.makers.getD b.id default).workspace.directory with
    | none => exact .done rfl
    | some directory => exact .ask trivial fun _ _ ↦ .done rfl
  refine ensures_run_bind _ cleaned fun s'' _ o'' htold ↦ .done ?_
  cases result with
  | error e => exact trivial
  | ok outcome =>
    change ∃ t archive content, IsRestorable setup target s''.told outcome t archive content
    rw [htold]
    exact hresult

end

/-! ### A backup that succeeds -/

section

variable {target : Target} {b : Backupper} {maker maker' : Maker} {es es' : List (Exchange Effects)}

theorem leads_run_bind {d : Job α} {f : α → Job β} {a : α} {o' : Operator}
    {rest : Dialogue Effects (β × Operator)}
    (h : (Operator.run setup d o).Leads es (.done (a, o')))
    (h' : (Operator.run setup (f a) o').Leads es' rest) :
    (Operator.run setup (d >>= f) o).Leads (es ++ es') rest := by
  rw [Operator.run_bind]
  exact h.bind_done h'

theorem leads_timed {act : Job (Except Error α)} {version : Datastore} {stage : Stage} {a : α}
    {o' : Operator} (before after : Duration)
    (h : (Operator.run setup act o).Leads es (.done (.ok a, o'))) :
    (Operator.run setup (timed version stage act) o).Leads
      ([⟨.stopwatch, before⟩] ++ (es ++ [⟨.stopwatch, after⟩]))
      (.done (.ok (a, after.since before), o')) := by
  have started : (Operator.run setup (Job.call .stopwatch) o).Leads [⟨.stopwatch, before⟩]
      (.done (before, o)) := .ask (.rest _)
  unfold timed
  exact leads_run_bind started (leads_run_bind h (.ask (.rest _)))

theorem leads_run_call {c : Call} {p : c.Answer × Operator}
    (h : (Operator.answer setup c o).Leads es (.done p)) :
    (Operator.run setup (Job.call c) o).Leads es (.done p) :=
  h.bind fun p ↦ .done p

theorem leads_withMaker {act : Maker → Work (α × Maker)} {a : α} (keeps : Keeps o b maker)
    (h : (act maker).Leads es (.done (a, maker'))) :
    (Operator.withMaker b act o).Leads es
      (.done (a, { o with makers := o.makers.setIfInBounds b.id maker' })) := by
  rw [← keeps.getD] at h
  exact (h.bind fun p ↦ .done (p, o)).bind fun p ↦
    .done (p.1.1, { p.2 with makers := p.2.makers.setIfInBounds b.id p.1.2 })

/-- The exchanges of a snapshot that is taken and packed. -/
def snapshotExchanges (server : EtcdServer) (tls : Option TlsMaterial) (revision : Int)
    (time : Instant) (chunks : List Bytes) (database name : String) : List (Exchange Effects) :=
  [⟨.etcd server tls .status, .ok (some revision)⟩, ⟨.etcd server tls (.compact revision), .ok ()⟩,
    ⟨.etcd server tls .defragment, .ok ()⟩, ⟨.now, time⟩,
    ⟨.etcd server tls .snapshot, .ok ⟨chunks, none⟩⟩,
    ⟨.machine (.write database chunks.flatten), .ok ()⟩,
    ⟨.machine (.write (database ++ ".tar.gz") []), .ok ()⟩,
    ⟨.machine (.tree database), .ok (.file chunks.flatten)⟩,
    ⟨.machine (.write (database ++ ".tar.gz") (Archive.pack name (.file chunks.flatten))), .ok ()⟩]

theorem leads_create {directory : String} {server : EtcdServer}
    (keeps : Keeps o b ⟨target.dataDir, target.v3, freshWorkspace setup target directory⟩)
    (hserver : (Etcd.server target.v3).run = .done (.ok server))
    (noSlash : '/' ∉ (filenamePrefix setup.installation target.name).toList) (revision : Int)
    (time : Instant) (chunks : List Bytes) :
    let name := stemOf setup target time ++ ".db"
    let database := Path.join directory name
    ∃ o', (Operator.run setup (Job.call (.create b)) o).Leads
        (snapshotExchanges server target.v3.tls revision time chunks database name)
        (.done (.ok (database ++ ".tar.gz"), o')) ∧
      Keeps o' b ⟨target.dataDir, target.v3,
        { freshWorkspace setup target directory with
          artifact := some (database ++ ".tar.gz") }⟩ := by
  intro name database
  have isName : Path.IsName name :=
    isName_stem (w := freshWorkspace setup target directory) noSlash time (by decide)
  have packed := leads_packSnapshot (freshWorkspace setup target directory) (database ++ ".tar.gz")
    (Path.fileName?_join directory isName) (.file chunks.flatten)
  have taken : (snapshotV3 (freshWorkspace setup target directory) target.v3).run.Leads
      (snapshotExchanges server target.v3.tls revision time chunks database name)
      (.done (.ok (database ++ ".tar.gz", { freshWorkspace setup target directory with
        artifact := some (database ++ ".tar.gz") }))) := by
    unfold snapshotV3
    rw [ExceptT.run_bind, hserver]
    exact .ask (.ask (.ask (.ask (.ask (.ask packed)))))
  exact ⟨_, leads_run_call (leads_withMaker keeps
    (taken.bind fun result ↦ .done (Maker.keep _ result))), keeps.set _⟩

variable (salt : { bs : Bytes // bs.length = Sealed.saltLength })
  (nonce : { bs : Bytes // bs.length = Sealed.nonceLength })

/-- The exchanges of an artifact that is sealed. -/
def sealingExchanges (passphrase path : String) (archive : Bytes) : List (Exchange Effects) :=
  [⟨.machine (.read path), .ok archive⟩, ⟨.machine (.randomBytes Sealed.saltLength), salt⟩,
    ⟨.machine (.randomBytes Sealed.nonceLength), nonce⟩,
    ⟨.machine (.write (sealedPath path) (Sealed.pack passphrase salt nonce archive)), .ok ()⟩]

theorem leads_encrypt {path : String} (keeps : Keeps o b maker)
    (hartifact : maker.workspace.artifact = some path)
    (hpassphrase : maker.workspace.passphrase = setup.passphrase) (hsome : setup.passphrase ≠ "")
    (archive : Bytes) :
    ∃ o' maker', (Operator.run setup (Job.call (.encrypt b)) o).Leads
        (sealingExchanges salt nonce setup.passphrase path archive)
        (.done (.ok (sealedPath path), o')) ∧
      Keeps o' b maker' ∧ maker'.workspace.directory = maker.workspace.directory := by
  rw [← hpassphrase] at hsome ⊢
  have sealing : (Work.onMachine maker.workspace.encrypt).Leads
      (sealingExchanges salt nonce maker.workspace.passphrase path archive)
      (.done (.ok
        (sealedPath path, { maker.workspace with artifact := some (sealedPath path) }))) := by
    have hne : ¬maker.workspace.passphrase.isEmpty = true := fun h ↦ hsome (String.isEmpty_iff.1 h)
    unfold Workspace.encrypt
    rw [hartifact]
    dsimp only
    rw [if_neg hne]
    exact .ask (.ask (.ask (.ask (.rest _))))
  exact ⟨_, _, leads_run_call (leads_withMaker keeps
    (sealing.bind fun result ↦ .done (Maker.keep maker result))), keeps.set _, rfl⟩

theorem leads_upload {path key : String} (hkey : Path.fileName? path = some key) (content : Bytes) :
    (Operator.run setup (Job.call (.upload path)) o).Leads
      [⟨.machine (.read path), .ok content⟩, ⟨.put setup.store key content, .ok ()⟩]
      (.done (.ok (UInt64.ofNat content.length), o)) := by
  have hobject : Upload.objectKey path = .ok key := by rw [Upload.objectKey, hkey]
  have stored : (Upload.file setup.store path).Leads
      [⟨.machine (.read path), .ok content⟩, ⟨.put setup.store key content, .ok ()⟩]
      (.done (.ok (UInt64.ofNat content.length))) := by
    unfold Upload.file
    rw [hobject]
    exact .ask (.ask (.rest _))
  exact leads_run_call (stored.bind fun size ↦ .done (size, o))

/-- A step that takes no time. -/
def timedExchanges (es : List (Exchange Effects)) : List (Exchange Effects) :=
  [⟨.stopwatch, .zero⟩] ++ (es ++ [⟨.stopwatch, .zero⟩])

/-- The exchanges of the steps of a backup that succeeds. -/
def stagesExchanges (setup : Operator.Setup) (target : Target) (server : EtcdServer)
    (directory : String) (time : Instant) (chunks : List Bytes) : List (Exchange Effects) :=
  let name := stemOf setup target time ++ ".db"
  let archive := Archive.pack name (.file chunks.flatten)
  let path := Path.join directory name ++ ".tar.gz"
  let content := Sealed.pack setup.passphrase salt nonce archive
  timedExchanges
      (snapshotExchanges server target.v3.tls 0 time chunks (Path.join directory name) name) ++
    (timedExchanges (sealingExchanges salt nonce setup.passphrase path archive) ++
      (timedExchanges [⟨.machine (.read (sealedPath path)), .ok content⟩,
        ⟨.put setup.store (name ++ ".tar.gz" ++ ".enc") content, .ok ()⟩] ++ []))

theorem leads_stages {directory : String} {server : EtcdServer}
    (keeps : Keeps o b ⟨target.dataDir, target.v3, freshWorkspace setup target directory⟩)
    (hserver : (Etcd.server target.v3).run = .done (.ok server))
    (noSlash : '/' ∉ (filenamePrefix setup.installation target.name).toList)
    (hsome : setup.passphrase ≠ "") (time : Instant) (chunks : List Bytes) :
    ∃ outcome o' maker, (Operator.run setup (stages b) o).Leads
        (stagesExchanges salt nonce setup target server directory time chunks)
        (.done (.ok outcome, o')) ∧
      Keeps o' b maker ∧ maker.workspace.directory = some directory := by
  have isName {extension : String} (hextension : '/' ∉ extension.toList) :
      Path.IsName (stemOf setup target time ++ extension) :=
    isName_stem (w := freshWorkspace setup target directory) noSlash time hextension
  have isArchiveName : Path.IsName (stemOf setup target time ++ ".db" ++ ".tar.gz") := by
    rw [String.append_assoc]
    exact isName (by decide)
  have isSealedName : Path.IsName (stemOf setup target time ++ ".db" ++ ".tar.gz" ++ ".enc") := by
    rw [String.append_assoc, String.append_assoc]
    exact isName (by decide)
  have hkey : Path.fileName? (sealedPath (Path.join directory (stemOf setup target time ++ ".db") ++
      ".tar.gz")) = some (stemOf setup target time ++ ".db" ++ ".tar.gz" ++ ".enc") := by
    rw [sealedPath_eq, Path.join_append directory (isName (by decide)) isArchiveName,
      Path.join_append directory isArchiveName isSealedName,
      Path.fileName?_join directory isSealedName]
  obtain ⟨o₁, created, keeps₁⟩ := leads_create keeps hserver noSlash 0 time chunks
  obtain ⟨o₂, maker, encrypted, keeps₂, hdirectory⟩ := leads_encrypt salt nonce keeps₁ rfl rfl hsome
    (Archive.pack (stemOf setup target time ++ ".db") (.file chunks.flatten))
  unfold stages
  exact ⟨_, _, maker, leads_run_bind (leads_timed .zero .zero created) <|
    leads_run_bind (leads_timed .zero .zero encrypted) <|
      leads_run_bind (leads_timed .zero .zero (leads_upload hkey _)) (.rest _), keeps₂, hdirectory⟩

/-- The exchanges of a backup that succeeds. -/
def successExchanges (setup : Operator.Setup) (target : Target) (server : EtcdServer)
    (directory : String) (time : Instant) (chunks : List Bytes) : List (Exchange Effects) :=
  [⟨.machine (.makeTemporary Workspace.directoryPrefix), .ok directory⟩] ++
    (stagesExchanges salt nonce setup target server directory time chunks ++
      ([⟨.machine (.removeTree directory), .ok ()⟩] ++ []))

/-- A backup of which every request succeeds is successful. -/
theorem leads_attempt {server : EtcdServer}
    (hserver : (Etcd.server target.v3).run = .done (.ok server))
    (noSlash : '/' ∉ (filenamePrefix setup.installation target.name).toList)
    (hsome : setup.passphrase ≠ "") (directory : String) (time : Instant) (chunks : List Bytes) :
    ∃ outcome o', (Operator.run setup (attempt target .v3) o).Leads
      (successExchanges salt nonce setup target server directory time chunks)
      (.done (.ok outcome, o')) := by
  let fresh : Maker := ⟨target.dataDir, target.v3, freshWorkspace setup target directory⟩
  have opened : (Operator.run setup (Job.call (.openBackupper target .v3)) o).Leads
      [⟨.machine (.makeTemporary Workspace.directoryPrefix), .ok directory⟩]
      (.done (.ok ⟨o.makers.size, .v3⟩, { o with makers := o.makers.push fresh })) :=
    .ask (.rest _)
  obtain ⟨outcome, o', maker, staged, keeps', hdirectory⟩ :=
    leads_stages salt nonce (Keeps.push o .v3 fresh) hserver noSlash hsome time chunks
  have cleaning : (maker.cleanup).Leads [⟨.machine (.removeTree directory), .ok ()⟩]
      (.done (.ok (), { maker with workspace := { maker.workspace with directory := none } })) := by
    unfold Maker.cleanup Workspace.cleanup
    rw [hdirectory]
    exact .ask (.rest _)
  unfold attempt pipeline
  exact ⟨outcome, _, leads_run_bind opened <| leads_run_bind staged <|
    leads_run_bind (leads_run_call (leads_withMaker keeps' cleaning)) (.rest _)⟩

/-- Files can behave so, if their paths are usable and they are not too long. -/
theorem allFit_success {passphrase : String} {server : EtcdServer} {directory : String}
    {time : Instant} {chunks : List Bytes}
    (database : IsUsable (Path.join directory (stemOf setup target time ++ ".db")))
    (archive : IsUsable (Path.join directory (stemOf setup target time ++ ".db") ++ ".tar.gz"))
    (covered : IsUsable (sealedPath
      (Path.join directory (stemOf setup target time ++ ".db") ++ ".tar.gz")))
    (short : chunks.flatten.length < 2 ^ 63)
    (short' : (Archive.pack (stemOf setup target time ++ ".db")
      (.file chunks.flatten)).length + 48 < 2 ^ 63) :
    (monitor passphrase).AllFit {}
      (successExchanges salt nonce setup target server directory time chunks) := by
  have hlength := (Sealed.isSealed_pack setup.passphrase (Archive.pack
    (stemOf setup target time ++ ".db") (.file chunks.flatten)) salt.2 nonce.2).length_eq
  refine .cons trivial <| .cons trivial <| .cons trivial <| .cons trivial <| .cons trivial <|
    .cons trivial <| .cons trivial <| .cons ⟨database, short⟩ <|
    .cons ⟨archive, Nat.two_pow_pos 63⟩ <| .cons ?_ <| .cons ⟨archive, by omega⟩ <|
    .cons trivial <| .cons trivial <| .cons ?_ <| .cons trivial <| .cons trivial <|
    .cons ⟨covered, by omega⟩ <| .cons trivial <| .cons trivial <| .cons ?_ <| .cons trivial <|
    .cons trivial <| .cons trivial trivial
  · intro known hknown
    have hne : Path.join directory (stemOf setup target time ++ ".db") ≠
        Path.join directory (stemOf setup target time ++ ".db") ++ ".tar.gz" := by
      intro heq
      have hsame := congrArg String.length heq
      rw [String.length_append] at hsame
      exact absurd (Nat.left_eq_add.1 hsame) (by decide)
    rcases Sight.cases_of_wrote hknown with ⟨heq, -⟩ | hfiles
    · exact (hne heq).elim
    · exact congrArg FileTree.file
        (Option.some.inj ((Sight.files_wrote_self _ _ _).symm.trans hfiles))
  all_goals
    intro known hknown
    exact Option.some.inj ((Sight.files_wrote_self _ _ _).symm.trans hknown)

end

/-- An archive does not begin like a sealed file. -/
theorem ne_pack_of_isSealed {passphrase : String} {plain content : Bytes}
    (h : Sealed.IsSealed passphrase plain content) (name : String) (tree : FileTree) :
    content ≠ Archive.pack name tree := by
  rintro rfl
  obtain ⟨salt, nonce, -, -, hpack⟩ := Sealed.isSealed_iff.1 h
  exact absurd (List.cons.inj hpack).1 (by decide)

/-- A backup of a v3 datastore that succeeds stores one object, from which the snapshot can be
restored. However it ends, it never stores a plain archive, nor anything that does not open under
the passphrase, if there is one. -/
theorem restorable {target : Target} {o : Operator} {es : List (Exchange Effects)}
    {rest : Dialogue Effects (Except Error Outcome × Operator)}
    (hinstallation : '/' ∉ setup.installation.toList) (hcluster : '/' ∉ target.name.toList)
    (course : (Operator.run setup (attempt target .v3) o).Leads es rest)
    (fits : (monitor setup.passphrase).AllFit {} es) :
    (∀ outcome o', rest = .done (.ok outcome, o') → ∃ t archive content,
      IsRestorable setup target (es.filter fun e ↦ isTelling e.request) outcome t archive content) ∧
      (setup.passphrase ≠ "" → ∀ e ∈ es, ∀ store key content, e.request = .put store key content →
        (∃ plain, Sealed.unpack setup.passphrase content = .ok plain) ∧
          ∀ name tree, content ≠ Archive.pack name tree) := by
  have noSlash : '/' ∉ (filenamePrefix setup.installation target.name).toList := by
    simp only [filenamePrefix, String.toList_append, List.mem_append, not_or]
    exact ⟨⟨hinstallation, by decide⟩, hcluster⟩
  obtain ⟨hmay, hrest⟩ := (ensures_attempt (o := o) noSlash rfl).of_leads course fits
  refine ⟨?_, fun hsome e he store key content hrequest ↦ ?_⟩
  · rintro outcome o' rfl
    cases hrest with
    | done achieved =>
      rw [← List.nil_append (es.filter _), ← Sight.told_foldl_after es {}]
      exact achieved
  · obtain ⟨s, hmay'⟩ := hmay.exists_of_mem he
    rw [hrequest] at hmay'
    obtain ⟨plain, hopen⟩ := hmay' hsome
    exact ⟨⟨plain, hopen⟩, ne_pack_of_isSealed (Sealed.unpack_eq_ok_iff.1 hopen)⟩

/-- A setup with a passphrase. -/
def coveredSetup : Operator.Setup :=
  { (default : Operator.Setup) with installation := "i", passphrase := "pw" }

/-- A cluster with an etcd server. -/
def servedTarget : Target := { name := "c", v3 := { endpoints := "http://e" } }

/-- A snapshot of three bytes in two chunks. -/
def coveredExchanges (server : EtcdServer) : List (Exchange Effects) :=
  successExchanges ⟨List.replicate 16 0, rfl⟩ ⟨List.replicate 12 0, rfl⟩ coveredSetup servedTarget
    server "/d" .epoch [[1, 2], [3]]

/-- The snapshot is stored sealed, and can be restored. -/
theorem restorable_pw : ∃ server outcome o' t archive content,
    (Operator.run coveredSetup (attempt servedTarget .v3) {}).Leads (coveredExchanges server)
        (.done (.ok outcome, o')) ∧
      (monitor "pw").AllFit {} (coveredExchanges server) ∧
      IsRestorable coveredSetup servedTarget
        ((coveredExchanges server).filter fun e ↦ isTelling e.request) outcome t archive
        content := by
  have checked : Etcd.checkEndpoints none (Etcd.endpoints "http://e") = .ok () := by decide +kernel
  let server : EtcdServer := .direct (Etcd.endpoints "http://e")
  have hserver : (Etcd.server servedTarget.v3).run = .done (.ok server) := by
    unfold Etcd.server servedTarget
    dsimp only
    rw [checked]
    rfl
  obtain ⟨outcome, o', course⟩ : ∃ outcome o',
      (Operator.run coveredSetup (attempt servedTarget .v3) {}).Leads (coveredExchanges server)
        (.done (.ok outcome, o')) :=
    leads_attempt _ _ hserver (by decide) (by decide) "/d" .epoch [[1, 2], [3]]
  have fits : (monitor coveredSetup.passphrase).AllFit {} (coveredExchanges server) :=
    allFit_success _ _ ⟨by decide +kernel, by decide +kernel⟩
      ⟨by decide +kernel, by decide +kernel⟩ ⟨by decide +kernel, by decide +kernel⟩ (by decide)
      (by decide +kernel)
  obtain ⟨stored, -⟩ := restorable (by decide) (by decide) course fits
  obtain ⟨t, archive, content, restored⟩ := stored outcome o' rfl
  exact ⟨server, outcome, o', t, archive, content, course, fits, restored⟩

end Backup

end EtcdBackup
