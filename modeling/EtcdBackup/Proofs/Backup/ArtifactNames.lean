import EtcdBackup.Proofs.Backup.Artifact
import EtcdBackup.Proofs.Time.FileText
import EtcdBackup.Upload

/-!
# The names of artifacts

The name of an uploaded file is put together with dashes, and a cluster may have dashes, versions
and times in its own name. It tells all the same which cluster, version and second it is of, and
whether the file is sealed (`Label.name_eq_name_iff`): the extensions have no digits and stand
behind one, and in front of them the time is found from its end. A leap second in the middle of a
minute would have the name of the second behind it (`not_apart_of_irregular`), but no clock gives
one.

A path that ends in such a name is stored under it (`Label.objectKey_of_endsIn`), and a maker of
backups gives no other paths for the upload (`Maker.path_of_leads`). So different backups are
different objects (`artifacts_apart`).
-/

set_option autoImplicit false
set_option relaxedAutoImplicit false

namespace EtcdBackup.Backup

open Dialogue

theorem slash_notMem_filenamePrefix {installation cluster : String}
    (hinstallation : '/' ∉ installation.toList) (hcluster : '/' ∉ cluster.toList) :
    '/' ∉ (filenamePrefix installation cluster).toList := by
  simp only [filenamePrefix, String.toList_append, List.mem_append, not_or]
  exact ⟨⟨hinstallation, by decide⟩, hcluster⟩

/-- The extensions of an archive. -/
def archiveExtension : Datastore → String
  | .v2 => ".tar.gz"
  | .v3 => ".db.tar.gz"

/-- What an uploaded file is named after, within an installation. -/
structure Label where
  cluster : String
  version : Datastore
  time : Moment
  isSealed : Bool

namespace Label

variable {installation : String} {l l' : Label}

/-- The labels are of one cluster, version and second, and of files that are sealed or not. -/
structure Agrees (l l' : Label) : Prop where
  cluster : l.cluster = l'.cluster
  version : l.version = l'.version
  second : l.time.wholeSecond = l'.time.wholeSecond
  isSealed : l.isSealed = l'.isSealed

/-- The name of an uploaded file. -/
def name (installation : String) (l : Label) : String :=
  let archive := artifactStem (filenamePrefix installation l.cluster) l.version l.time ++
    archiveExtension l.version
  if l.isSealed then sealedPath archive else archive

/-- All extensions of an uploaded file. -/
def extensions (l : Label) : String :=
  archiveExtension l.version ++ if l.isSealed then "." ++ sealedExtension else ""

theorem name_eq (installation : String) (l : Label) : l.name installation =
    artifactStem (filenamePrefix installation l.cluster) l.version l.time ++ l.extensions := by
  unfold name extensions
  cases l.isSealed with
  | true =>
    change _ ++ _ ++ "." ++ sealedExtension = _
    rw [String.append_assoc, String.append_assoc]
    rfl
  | false =>
    rw [← String.append_assoc]
    exact String.append_empty.symm

/-- What a name has in front of its time. -/
def front (installation : String) (l : Label) : List Char :=
  installation.toList ++ '-' :: (l.cluster.toList ++ '-' :: l.version.tag.toList)

theorem toList_name (installation : String) (l : Label) : (l.name installation).toList =
    (l.front installation ++ '-' :: l.time.fileText.toList) ++ l.extensions.toList := by
  simp [name_eq, artifactStem, filenamePrefix, front]

/-- Extensions have no digits. -/
theorem isDigit_extensions (l : Label) : ∀ c ∈ l.extensions.toList, c.isDigit = false := by
  have hall : l.extensions.toList.all (!·.isDigit) = true := by
    unfold extensions
    cases l.version <;> cases l.isSealed <;> decide
  intro c hc
  have hc' := List.all_eq_true.1 hall c hc
  rwa [Bool.not_eq_true'] at hc'

/-- The front of a name ends in the digit of the version. -/
theorem isDigit_getLast?_front (installation : String) (l : Label) :
    ∀ c ∈ (l.front installation).getLast?, c.isDigit = true := by
  have htag : ∀ c ∈ l.version.tag.toList.getLast?, c.isDigit = true := by
    cases l.version <;>
    · rintro c ⟨⟩
      rfl
  have hne : l.version.tag.toList ≠ [] := by cases l.version <;> decide
  have hfront : l.front installation =
      (installation.toList ++ '-' :: (l.cluster.toList ++ ['-'])) ++ l.version.tag.toList := by
    simp [front]
  rw [hfront, List.getLast?_append_of_ne_nil _ hne]
  exact htag

theorem extensions_inj (h : l.extensions = l'.extensions) :
    l.version = l'.version ∧ l.isSealed = l'.isSealed := by
  unfold extensions at h
  revert h
  cases l.version <;> cases l'.version <;> cases l.isSealed <;> cases l'.isSealed <;> decide

/-- A name tells the cluster, the version and the second that it is of, and whether the file is
sealed. -/
theorem name_eq_name_iff (regular : l.time.IsRegular) (regular' : l'.time.IsRegular) :
    l.name installation = l'.name installation ↔ l.Agrees l' := by
  constructor
  · intro h
    have hlast (l : Label) : ∀ c ∈ (l.front installation ++ '-' :: l.time.fileText.toList).getLast?,
        c.isDigit = true := by
      rw [List.append_cons]
      exact l.time.isDigit_getLast?_fileText _
    have hlists := congrArg String.toList h
    rw [toList_name, toList_name] at hlists
    obtain ⟨hstem, hextensions⟩ := Text.eq_of_run Bool.false_ne_true.symm (hlast l)
      l.isDigit_extensions (hlast l') l'.isDigit_extensions hlists
    obtain ⟨hversion, hsealed⟩ := extensions_inj (String.toList_inj.1 hextensions)
    obtain ⟨hfront, htime⟩ := Moment.append_fileText_inj regular regular'
      (l.isDigit_getLast?_front installation) (l'.isDigit_getLast?_front installation) hstem
    have hcluster : l.cluster.toList = l'.cluster.toList := by
      unfold front at hfront
      rw [hversion] at hfront
      exact List.append_cancel_right (List.cons.inj (List.append_cancel_left hfront)).2
    exact ⟨String.toList_inj.1 hcluster, hversion, htime, hsealed⟩
  · intro h
    unfold name artifactStem
    rw [h.cluster, h.version, h.isSealed, Moment.fileText_congr h.second]

/-- Without slashes in what it is made from, it is the name of a file. -/
theorem isName_name (hinstallation : '/' ∉ installation.toList)
    (hcluster : '/' ∉ l.cluster.toList) : Path.IsName (l.name installation) := by
  have hextensions : '/' ∉ l.extensions.toList := by
    unfold extensions
    cases l.version <;> cases l.isSealed <;> decide
  rw [name_eq]
  exact isName_artifactStem (slash_notMem_filenamePrefix hinstallation hcluster) l.version l.time
    hextensions

/-- A path that ends in such a name is stored under it. -/
theorem objectKey_of_endsIn (hinstallation : '/' ∉ installation.toList)
    (hcluster : '/' ∉ l.cluster.toList) {path front back : String}
    (h : Path.EndsIn path (l.name installation) front back) :
    Upload.objectKey path = .ok (l.name installation) := by
  rw [Upload.objectKey, h.fileName? (isName_name hinstallation hcluster)]

end Label

/-! ### What a maker gives for the upload -/

section

variable {w : Workspace} {directory : String} {es : List (Exchange Effects)}
  {made : String × Workspace}

theorem eq_of_packSnapshot {source archive : String}
    (h : (packSnapshot w source archive).run.Leads es (.done (.ok made))) :
    made = (archive, { w with artifact := some archive }) := by
  obtain ⟨_, _, _, -, -, hend⟩ := leads_bind_ok_iff.1 h
  cases hend
  rfl

/-- The directory of a workspace, as long as it is there. -/
theorem eq_of_directory? {found : String} (hdirectory : w.directory = some directory)
    (h : (liftM w.directory? : ExceptT Error (Dialogue Effects) String).run.Leads es
      (.done (.ok found))) : found = directory := by
  unfold Workspace.directory? at h
  rw [hdirectory] at h
  cases h
  rfl

/-- An archive is named after the time that was read while it was made. -/
structure IsArchived (w : Workspace) (directory : String) (es : List (Exchange Effects))
    (time : Instant) (made : String × Workspace) : Prop where
  read : (⟨.now, time⟩ : Exchange Effects) ∈ es
  path : made.1 = Path.join directory (w.stem time ++ archiveExtension w.version)
  workspace : made.2 = { w with artifact := some made.1 }

theorem isArchived_of_snapshotV2 {dataDir : String} (version : w.version = .v2)
    (hdirectory : w.directory = some directory)
    (h : (snapshotV2 w dataDir).run.Leads es (.done (.ok made))) :
    ∃ time, IsArchived w directory es time made := by
  obtain ⟨clock, time, _, rfl, hclock, hnamed⟩ := leads_bind_ok_iff.1 h
  obtain ⟨_, found, _, rfl, hfound, hplaced⟩ := leads_bind_ok_iff.1 hnamed
  obtain ⟨_, _, _, rfl, -, hcopied⟩ := leads_bind_ok_iff.1 hplaced
  obtain ⟨now, _, rfl, hnow⟩ := leads_ask_done_iff.1 hclock
  cases hnow
  obtain rfl := eq_of_directory? hdirectory hfound
  obtain rfl := eq_of_packSnapshot hcopied
  refine ⟨time, .head _, ?_, rfl⟩
  rw [version]
  rfl

theorem isArchived_of_snapshotV3 {settings : V3Settings} (version : w.version = .v3)
    (hdirectory : w.directory = some directory) (noSlash : '/' ∉ w.namePrefix.toList)
    (h : (snapshotV3 w settings).run.Leads es (.done (.ok made))) :
    ∃ time, IsArchived w directory es time made := by
  obtain ⟨_, _, _, rfl, -, hconnected⟩ := leads_bind_ok_iff.1 h
  obtain ⟨_, _, _, rfl, -, hcompacted⟩ := leads_bind_ok_iff.1 hconnected
  obtain ⟨_, found, _, rfl, hfound, hplaced⟩ := leads_bind_ok_iff.1 hcompacted
  obtain ⟨clock, time, _, rfl, hclock, hnamed⟩ := leads_bind_ok_iff.1 hplaced
  obtain ⟨_, _, _, rfl, -, hsaved⟩ := leads_bind_ok_iff.1 hnamed
  obtain ⟨now, _, rfl, hnow⟩ := leads_ask_done_iff.1 hclock
  cases hnow
  obtain rfl := eq_of_directory? hdirectory hfound
  obtain rfl := eq_of_packSnapshot hsaved
  have hname : w.stem time ++ ".db" ++ ".tar.gz" = w.stem time ++ ".db.tar.gz" :=
    String.append_assoc
  refine ⟨time, by simp, ?_, rfl⟩
  dsimp only
  rw [Path.join_append _ (isName_stem noSlash time (by decide))
    (hname ▸ isName_stem noSlash time (by decide)), hname, version]
  rfl

/-- The exchanges of taking a snapshot of a v2 datastore, if nothing goes wrong. -/
def takingV2 (w : Workspace) (directory dataDir : String) (time : Instant) (tree : FileTree) :
    List (Exchange Effects) :=
  let copy := Path.join directory (w.stem time)
  let archive := Path.join directory (w.stem time ++ ".tar.gz")
  [⟨.now, time⟩, ⟨.machine (.run (etcdctlBackup dataDir copy)), .ok ⟨0, []⟩⟩,
    ⟨.machine (.write archive []), .ok ()⟩, ⟨.machine (.tree copy), .ok tree⟩,
    ⟨.machine (.write archive (Archive.pack (w.stem time) tree)), .ok ()⟩]

theorem leads_snapshotV2 (dataDir : String) (time : Instant) (tree : FileTree)
    (hdirectory : w.directory = some directory) (isName : Path.IsName (w.stem time)) :
    let archive := Path.join directory (w.stem time ++ ".tar.gz")
    (snapshotV2 w dataDir).run.Leads (takingV2 w directory dataDir time tree)
      (.done (.ok (archive, { w with artifact := some archive }))) := by
  intro archive
  have found : w.directory? = .ok directory := by rw [Workspace.directory?, hdirectory]
  have packed := leads_packSnapshot w archive (Path.fileName?_join directory isName) tree
  unfold snapshotV2
  rw [found]
  exact .ask (.ask packed)

end

namespace Maker

variable {m m' : Maker} {es es' es'' : List (Exchange Effects)}
  {installation passphrase directory archive path : String} {target : Target}
  {version : Datastore}

theorem exists_directory_of_create
    (h : (create installation passphrase target version).Leads es (.done (.ok m))) :
    ∃ directory, m = ⟨target.dataDir, target.v3,
      ⟨version, filenamePrefix installation target.name, passphrase, some directory, none⟩⟩ := by
  obtain ⟨answer, _, rfl, hmade⟩ := leads_ask_done_iff.1 h
  cases answer with
  | error e => cases hmade
  | ok directory =>
    cases hmade
    exact ⟨directory, rfl⟩

theorem isArchived_of_makeArtifact (hdirectory : m.workspace.directory = some directory)
    (noSlash : '/' ∉ m.workspace.namePrefix.toList)
    (h : m.makeArtifact.Leads es (.done (.ok archive, m'))) :
    ∃ time, IsArchived m.workspace directory es time (archive, m'.workspace) := by
  obtain ⟨_, result, _, rfl, hsnapshot, hend⟩ := leads_bind_done_iff.1 h
  cases result with
  | error e => cases hend
  | ok made =>
    cases hend
    rw [List.append_nil]
    unfold snapshot at hsnapshot
    split at hsnapshot
    case h_1 version => exact isArchived_of_snapshotV2 version hdirectory hsnapshot
    case h_2 version => exact isArchived_of_snapshotV3 version hdirectory noSlash hsnapshot

/-- What is to be uploaded is the archive, or the sealed file beside it if there is a passphrase. -/
theorem path_of_encrypt (hartifact : m.workspace.artifact = some archive)
    (h : m.encrypt.Leads es (.done (.ok path, m'))) :
    path = if m.workspace.passphrase.isEmpty then archive else sealedPath archive := by
  obtain ⟨_, result, _, rfl, hseal, hend⟩ := leads_bind_done_iff.1 h
  cases result with
  | error e => cases hend
  | ok made =>
    cases hend
    unfold Workspace.encrypt at hseal
    rw [hartifact] at hseal
    dsimp only at hseal
    split at hseal
    case isTrue unsealed =>
      cases hseal
      rw [if_pos unsealed]
    case isFalse secret =>
      rw [if_neg secret]
      obtain ⟨content, _, rfl, hread⟩ := leads_ask_done_iff.1 hseal
      cases content with
      | error e => cases hread
      | ok plain =>
        obtain ⟨salt, _, rfl, hsalt⟩ := leads_ask_done_iff.1 hread
        obtain ⟨nonce, _, rfl, hnonce⟩ := leads_ask_done_iff.1 hsalt
        obtain ⟨written, _, rfl, hwritten⟩ := leads_ask_done_iff.1 hnonce
        cases written with
        | error e => cases hwritten
        | ok _ =>
          cases hwritten
          rfl

/-- The file that a maker gives for the upload has the name of its cluster, its version and the
time that was read while the archive was made. -/
theorem path_of_leads (hinstallation : '/' ∉ installation.toList)
    (hcluster : '/' ∉ target.name.toList)
    (opened : (create installation passphrase target version).Leads es (.done (.ok m)))
    (made : m.makeArtifact.Leads es' (.done (.ok archive, m')))
    {last : Maker} (ready : m'.encrypt.Leads es'' (.done (.ok path, last))) :
    ∃ directory time, (⟨.now, time⟩ : Exchange Effects) ∈ es' ∧ path = Path.join directory
      (Label.name installation ⟨target.name, version, time.toMoment, !passphrase.isEmpty⟩) := by
  obtain ⟨directory, rfl⟩ := exists_directory_of_create opened
  have isName (time : Instant) (isSealed : Bool) :
      Path.IsName (Label.name installation ⟨target.name, version, time.toMoment, isSealed⟩) :=
    Label.isName_name hinstallation hcluster
  obtain ⟨time, harchive⟩ := isArchived_of_makeArtifact rfl
    (slash_notMem_filenamePrefix hinstallation hcluster) made
  have hplace : archive = Path.join directory
      (Label.name installation ⟨target.name, version, time.toMoment, false⟩) := harchive.path
  have hpassphrase : m'.workspace.passphrase = passphrase :=
    congrArg Workspace.passphrase harchive.workspace
  have hpath := path_of_encrypt (congrArg Workspace.artifact harchive.workspace) ready
  rw [hpassphrase] at hpath
  refine ⟨directory, time, harchive.read, ?_⟩
  cases hsecret : passphrase.isEmpty with
  | true => exact (hpath.trans (if_pos hsecret)).trans hplace
  | false =>
    have hsealed : Label.name installation ⟨target.name, version, time.toMoment, true⟩ =
        Label.name installation ⟨target.name, version, time.toMoment, false⟩ ++ ".enc" := sealedPath_eq _
    rw [hpath, hsecret, hplace]
    refine (sealedPath_eq _).trans ?_
    rw [Path.join_append _ (isName time false) (hsealed ▸ isName time true), ← hsealed]
    rfl

/-- Nothing keeps a maker from making an archive of a v2 datastore. -/
theorem leads_makeArtifact_v2 (hversion : m.workspace.version = .v2)
    (hdirectory : m.workspace.directory = some directory)
    (noSlash : '/' ∉ m.workspace.namePrefix.toList) (time : Instant) (tree : FileTree) :
    let archive := Path.join directory (m.workspace.stem time ++ ".tar.gz")
    m.makeArtifact.Leads (takingV2 m.workspace directory m.dataDir time tree) (.done (.ok archive,
      { m with workspace := { m.workspace with artifact := some archive } })) := by
  intro archive
  have isName : Path.IsName (m.workspace.stem time) := by
    rw [← String.append_empty (s := m.workspace.stem time)]
    exact isName_stem noSlash time (by decide)
  have taken := leads_snapshotV2 m.dataDir time tree hdirectory isName
  have course : (m.snapshot.run >>= fun result ↦ .done (m.keep result)).Leads _ _ :=
    Leads.bind_done (by rw [snapshot, hversion]; exact taken) (.rest _)
  rwa [List.append_nil] at course

end Maker

/-- The names of the uploaded files of an installation tell the cluster, the version and the second
of a backup apart, and whether the file is sealed, as long as leap seconds end minutes. A path that
ends in such a name is stored under it, unless there are slashes in what it is made from, and the
paths that makers of backups give for the upload are such paths; so different backups are different
objects. -/
theorem artifacts_apart (installation : String) :
    (∀ l l' : Label, l.time.IsRegular → l'.time.IsRegular →
      (l.name installation = l'.name installation ↔ l.Agrees l')) ∧
    ('/' ∉ installation.toList →
      (∀ l : Label, '/' ∉ l.cluster.toList → ∀ path front back,
        Path.EndsIn path (l.name installation) front back →
          Upload.objectKey path = .ok (l.name installation)) ∧
      (∀ l l' : Label, l.time.IsRegular → l'.time.IsRegular → '/' ∉ l.cluster.toList →
        '/' ∉ l'.cluster.toList → ∀ path front back path' front' back',
        Path.EndsIn path (l.name installation) front back →
        Path.EndsIn path' (l'.name installation) front' back' →
          Upload.objectKey path = Upload.objectKey path' → l.Agrees l') ∧
      ∀ passphrase target version, '/' ∉ target.name.toList →
        ∀ opened made ready m m' last archive path,
        (Maker.create installation passphrase target version).Leads opened (.done (.ok m)) →
        m.makeArtifact.Leads made (.done (.ok archive, m')) →
        m'.encrypt.Leads ready (.done (.ok path, last)) →
          ∃ time : Instant, (⟨.now, time⟩ : Exchange Effects) ∈ made ∧ Upload.objectKey path =
            .ok (Label.name installation
              ⟨target.name, version, time.toMoment, !passphrase.isEmpty⟩)) := by
  refine ⟨fun _ _ ↦ Label.name_eq_name_iff, fun hinstallation ↦ ⟨?_, ?_, ?_⟩⟩
  · intro l hcluster path front back h
    exact Label.objectKey_of_endsIn hinstallation hcluster h
  · intro l l' regular regular' hcluster hcluster' path front back path' front' back' h h' heq
    rw [Label.objectKey_of_endsIn hinstallation hcluster h,
      Label.objectKey_of_endsIn hinstallation hcluster' h'] at heq
    exact (Label.name_eq_name_iff regular regular').1 (Except.ok.inj heq)
  · intro passphrase target version hcluster opened made ready m m' last archive path hopened hmade
      hready
    obtain ⟨directory, time, hread, rfl⟩ :=
      Maker.path_of_leads hinstallation hcluster hopened hmade hready
    obtain ⟨front, hends⟩ := Path.exists_endsIn_join directory
      (Label.isName_name (l := ⟨target.name, version, time.toMoment, !passphrase.isEmpty⟩)
        hinstallation hcluster)
    exact ⟨time, hread, Label.objectKey_of_endsIn hinstallation hcluster hends⟩

/-- A cluster that is called like a file of another one, with the sealed backup of that in the year
10000 and an unsealed one of its own. -/
theorem artifacts_apart_nested :
    let time : Moment := ⟨253402300800, 0, by decide⟩
    let other : Label := ⟨"wc", .v3, time, true⟩
    let target : Target := { name := "wc-v3-+10000-01-01T00-00-00.db.tar.gz.enc" }
    let own : Label := ⟨target.name, .v2, Instant.epoch.toMoment, false⟩
    other.name "gauss" = "gauss-" ++ target.name ∧
      Upload.objectKey "/tmp/gauss-wc-v3-+10000-01-01T00-00-00.db.tar.gz.enc/." =
        .ok (other.name "gauss") ∧
      own.name "gauss" ≠ other.name "gauss" ∧
      ∃ made archive m m' last,
        (Maker.create "gauss" "" target .v2).Leads
            [⟨.machine (.makeTemporary Workspace.directoryPrefix), .ok "/d"⟩] (.done (.ok m)) ∧
          m.makeArtifact.Leads made (.done (.ok archive, m')) ∧
          m'.encrypt.Leads [] (.done (.ok archive, last)) ∧
          ∃ read : Instant, (⟨.now, read⟩ : Exchange Effects) ∈ made ∧ Upload.objectKey archive =
            .ok (Label.name "gauss" ⟨target.name, .v2, read.toMoment, false⟩) := by
  intro time other target own
  obtain ⟨hnames, hkeys⟩ := artifacts_apart "gauss"
  obtain ⟨hstored, -, hmakers⟩ := hkeys (by decide)
  have hother : other.name "gauss" = "gauss-" ++ target.name := by decide +kernel
  have hends : Path.EndsIn "/tmp/gauss-wc-v3-+10000-01-01T00-00-00.db.tar.gz.enc/."
      (other.name "gauss") "/tmp/" "/." :=
    ⟨by rw [hother]; decide +kernel, .inr ⟨"/tmp", by decide +kernel⟩,
      .inr ⟨".", by decide +kernel, by decide +kernel⟩⟩
  have happart : own.name "gauss" ≠ other.name "gauss" := fun h ↦
    absurd ((hnames own other (by decide) (by decide)).1 h).isSealed Bool.false_ne_true
  let m : Maker := ⟨"", {}, ⟨.v2, filenamePrefix "gauss" target.name, "", some "/d", none⟩⟩
  have made := Maker.leads_makeArtifact_v2 (m := m) rfl rfl (by decide +kernel) .epoch
    (.directory [])
  have opened : (Maker.create "gauss" "" target .v2).Leads
      [⟨.machine (.makeTemporary Workspace.directoryPrefix), .ok "/d"⟩] (.done (.ok m)) :=
    .ask (.rest _)
  exact ⟨hother, hstored other (by decide) _ _ _ hends, happart, _, _, m, _, _, opened, made,
    .rest _, hmakers "" target .v2 (by decide +kernel) _ _ [] _ _ _ _ _ opened made (.rest _)⟩

/-- In the middle of a minute a leap second has the name of the second behind it. And a path whose
last part is longer than a name is not stored under the name, though it ends in the letters of
it. -/
theorem not_apart_of_irregular :
    let leap : Label := ⟨"wc", .v2, ⟨1483228564, 1333333333, by decide⟩, false⟩
    let next : Label := ⟨"wc", .v2, ⟨1483228565, 333333333, by decide⟩, false⟩
    (leap.name "gauss" = next.name "gauss" ∧ leap.time.wholeSecond ≠ next.time.wholeSecond) ∧
      (next.name "gauss").toList <:+ ("/tmp/x" ++ next.name "gauss").toList ∧
        Upload.objectKey ("/tmp/x" ++ next.name "gauss") ≠ .ok (next.name "gauss") := by
  intro leap next
  refine ⟨⟨by decide +kernel, by decide⟩, ?_, by decide +kernel⟩
  rw [String.toList_append]
  exact List.suffix_append _ _

end EtcdBackup.Backup
