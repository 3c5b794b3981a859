import EtcdBackup.Backup.Maker
import EtcdBackup.Proofs.Archive
import EtcdBackup.Proofs.Monitor
import EtcdBackup.Proofs.Path
import EtcdBackup.Proofs.SealedForm
import EtcdBackup.Proofs.Time.Text

/-!
# What is in an artifact

A backup goes through several files before it is stored, and each step takes its input from a file
that the step before has written. What is read from a file is what was written into it, as long as
nothing else touched a file of that name: a `Sight` keeps the content of files as far as it is known
from the exchanges. With it the artifact of a snapshot is found to be an archive of what the server
sent (`ensures_snapshotV3`), and its sealed form to hold that archive (`ensures_encrypt`).
-/

set_option autoImplicit false
set_option relaxedAutoImplicit false

namespace EtcdBackup.Backup

open Dialogue

/-- What the exchanges show of the files, and those of them that tell what the backup is of and what
is stored of it. -/
structure Sight where
  files : String → Option Bytes := fun _ ↦ none
  told : List (Exchange Effects) := []

/-- Requests for the time and for snapshots, and the storing of objects. -/
def isTelling : Effect → Bool
  | .now | .etcd _ _ .snapshot | .put _ _ _ => true
  | _ => false

namespace Sight

/-- A file was written. Another path with the same last part may lead to the same file. -/
def wrote (s : Sight) (path : String) (content : Option Bytes) : Sight :=
  { s with files := fun other ↦
      if other = path then content
      else if Path.fileName? other = Path.fileName? path then none
      else s.files other }

/-- What is seen after an exchange. -/
def after (s : Sight) (e : Exchange Effects) : Sight :=
  match e with
  | ⟨.machine (.write path content), .ok ()⟩ => s.wrote path (some content)
  | ⟨.machine (.write path _), .error _⟩ => s.wrote path none
  | ⟨.machine (.removeTree _), _⟩ => { s with files := fun _ ↦ none }
  | ⟨.machine (.run _), _⟩ => { s with files := fun _ ↦ none }
  | ⟨.now, t⟩ => { s with told := s.told ++ [⟨.now, t⟩] }
  | ⟨.etcd server tls .snapshot, answer⟩ =>
    { s with told := s.told ++ [⟨.etcd server tls .snapshot, answer⟩] }
  | ⟨.put store key content, answer⟩ =>
    { s with told := s.told ++ [⟨.put store key content, answer⟩] }
  | _ => s

/-- The exchanges that are kept are those that tell. -/
theorem told_foldl_after (es : List (Exchange Effects)) (s : Sight) :
    (es.foldl after s).told = s.told ++ es.filter fun e ↦ isTelling e.request := by
  have told_after (s : Sight) (e : Exchange Effects) :
      (s.after e).told = s.told ++ [e].filter fun e ↦ isTelling e.request := by
    obtain ⟨request, answer⟩ := e
    cases request with
    | machine request =>
      cases request with
      | write path content => cases answer <;> exact (List.append_nil _).symm
      | read | tree | makeTemporary | removeTree | randomBytes | run =>
        exact (List.append_nil _).symm
    | etcd server tls call =>
      cases call with
      | snapshot => rfl
      | status | compact | defragment => exact (List.append_nil _).symm
    | now | put => rfl
    | stopwatch | sleep | api | access | note => exact (List.append_nil _).symm
  induction es generalizing s with
  | nil => exact (List.append_nil _).symm
  | cons e es ih =>
    rw [List.foldl_cons, ih, told_after, List.append_assoc, ← List.filter_append,
      List.singleton_append]

@[simp] theorem files_wrote_self (s : Sight) (path : String) (content : Option Bytes) :
    (s.wrote path content).files path = content :=
  if_pos rfl

/-- Files of other names stay as they were. -/
theorem files_wrote_of_ne (s : Sight) {path other : String} (content : Option Bytes)
    (h : Path.fileName? other ≠ Path.fileName? path) :
    (s.wrote path content).files other = s.files other := by
  have hpath : other ≠ path := fun heq ↦ h (heq ▸ rfl)
  simp only [wrote, if_neg hpath, if_neg h]

theorem cases_of_wrote {s : Sight} {path other : String} {content : Option Bytes} {known : Bytes}
    (h : (s.wrote path content).files other = some known) :
    other = path ∧ content = some known ∨ s.files other = some known := by
  unfold wrote at h
  dsimp only at h
  split at h
  case isTrue heq => exact Or.inl ⟨heq, h⟩
  case isFalse =>
    split at h
    · cases h
    · exact Or.inr h

end Sight

/-- A path that a file can be written to. -/
structure IsUsable (path : String) : Prop where
  whole : '\x00' ∉ path.toList
  short : (Utf8.encode path).length < 4096

/-- Files that are read hold what was written into them, and no object may be stored that does not
open under the passphrase, if there is one. -/
def monitor (passphrase : String) : Monitor Effects Sight where
  after := Sight.after
  fits s e :=
    match e with
    | ⟨.machine (.read path), .ok content⟩ => ∀ known, s.files path = some known → content = known
    | ⟨.machine (.tree path), .ok tree⟩ => ∀ known, s.files path = some known → tree = .file known
    | ⟨.machine (.write path content), .ok ()⟩ => IsUsable path ∧ content.length < 2 ^ 63
    | _ => True
  may _ request :=
    match request with
    | .put _ _ content => passphrase ≠ "" → ∃ plain, Sealed.unpack passphrase content = .ok plain
    | _ => True

section

variable {α : Type} {passphrase : String} {s : Sight}

/-- A file that is read holds what is known of it. -/
theorem ensures_read {path : String} {known : Bytes} {next : Except IoFault Bytes → Work α}
    {post : Sight → α → Prop} (hknown : s.files path = some known)
    (error : ∀ e, (next (.error e)).Ensures (monitor passphrase) s post)
    (ok : (next (.ok known)).Ensures (monitor passphrase) s post) :
    (Dialogue.ask (S := Effects) (.machine (.read path)) next).Ensures (monitor passphrase) s
      post := by
  refine .ask trivial fun answer fits ↦ ?_
  cases answer with
  | error e => exact error e
  | ok content =>
    obtain rfl : content = known := fits known hknown
    exact ok

/-- A file that was written is there, and it can be there. -/
theorem ensures_write {path : String} {content : Bytes} {next : Except IoFault Unit → Work α}
    {post : Sight → α → Prop}
    (error : ∀ e, (next (.error e)).Ensures (monitor passphrase) (s.wrote path none) post)
    (ok : IsUsable path → content.length < 2 ^ 63 →
      (next (.ok ())).Ensures (monitor passphrase) (s.wrote path (some content)) post) :
    (Dialogue.ask (S := Effects) (.machine (.write path content)) next).Ensures
      (monitor passphrase) s post := by
  refine .ask trivial fun answer fits ↦ ?_
  cases answer with
  | error e => exact error e
  | ok written => exact ok fits.1 fits.2

end

/-! ### Names -/

theorem slash_notMem_fileText (t : Moment) : '/' ∉ t.fileText.toList := by
  have hpadded (width n : Nat) : '/' ∉ (padded width n).toList := fun h ↦
    absurd (isDigit_padded width n _ h) (by decide)
  have hyear : '/' ∉ (Date.yearText t.date.year).toList := by
    unfold Date.yearText
    split
    · exact hpadded _ _
    · rw [String.toList_append, List.mem_append, not_or]
      refine ⟨?_, hpadded _ _⟩
      split <;> decide
  simp only [Moment.fileText, Date.text, Moment.clockText, String.toList_append, List.mem_append,
    not_or]
  have hdash : '/' ∉ "-".toList := by decide
  have hT : '/' ∉ "T".toList := by decide
  exact ⟨⟨⟨⟨⟨⟨hyear, hdash⟩, hpadded _ _⟩, hdash⟩, hpadded _ _⟩, hT⟩,
    ⟨⟨⟨hpadded _ _, hdash⟩, hpadded _ _⟩, hdash⟩, hpadded _ _⟩

theorem sealedPath_eq (path : String) : sealedPath path = path ++ ".enc" := String.append_assoc

/-- What is made of a name without a slash can be the name of a file. -/
theorem isName_artifactStem {namePrefix : String} (h : '/' ∉ namePrefix.toList)
    (version : Datastore) (time : Moment) {extension : String}
    (hextension : '/' ∉ extension.toList) :
    Path.IsName (artifactStem namePrefix version time ++ extension) := by
  have hdash : '-' ∈ (artifactStem namePrefix version time ++ extension).toList := by
    simp [artifactStem]
  have htag : '/' ∉ version.tag.toList := by cases version <;> decide
  refine ⟨?_, ?_, ?_, ?_⟩
  · simp only [artifactStem, String.toList_append, List.mem_append, not_or]
    exact ⟨⟨⟨⟨⟨h, by decide⟩, htag⟩, by decide⟩, slash_notMem_fileText time⟩, hextension⟩
  all_goals
    intro heq
    rw [heq] at hdash
    revert hdash
    decide

theorem isName_stem {w : Workspace} (h : '/' ∉ w.namePrefix.toList) (time : Instant)
    {extension : String} (hextension : '/' ∉ extension.toList) :
    Path.IsName (w.stem time ++ extension) :=
  isName_artifactStem h w.version time.toMoment hextension

/-! ### Taking a snapshot -/

/-- A snapshot that a server sent in full, and the time that its file is named after. -/
structure Taken where
  time : Instant
  server : EtcdServer
  tls : Option TlsMaterial
  stream : SnapshotStream
  complete : stream.fault = none

/-- The exchanges that tell of it. -/
def Taken.exchanges (t : Taken) : List (Exchange Effects) :=
  [⟨.now, t.time⟩, ⟨.etcd t.server t.tls .snapshot, .ok t.stream⟩]

/-- A file is an archive with one file of a name in it. -/
def IsArchive (archive : Bytes) (name : String) (content : Bytes) : Prop :=
  Archive.unpack? archive = some [⟨name, some content⟩]

/-- A file under a usable path can be packed and is unpacked again. -/
theorem isArchive_pack {directory name : String} {content : Bytes} (isName : Path.IsName name)
    (usable : IsUsable (Path.join directory name)) (short : content.length < 2 ^ 63) :
    IsArchive (Archive.pack name (.file content)) name content := by
  have hsuffix := Path.encode_join directory isName
  have hwhole : '\x00' ∉ name.toList := by
    obtain ⟨front, hjoin, -⟩ := Path.toList_join directory isName
    exact fun hzero ↦ usable.whole (hjoin ▸ List.mem_append_right front hzero)
  have hslash : (0x2F : UInt8) ∉ Utf8.encode name :=
    Utf8.notMem_encode (c := '/') (by decide) isName.slash
  have hlength := hsuffix.length_le
  have hshort := usable.short
  have fits : ∀ e ∈ Tar.entriesOf name (.file content), e.Fits := by
    rw [Tar.entriesOf, List.forall_mem_singleton]
    refine ⟨Utf8.notMem_encode (c := '\x00') (by decide) hwhole,
      fun hlast ↦ hslash (List.mem_of_getLast? hlast), by dsimp only; omega, ?_⟩
    rintro _ ⟨⟩
    exact Nat.lt_trans short (by decide)
  exact Archive.unpack?_pack fits

/-- Nothing keeps a file or directory from being packed. -/
theorem leads_packSnapshot (w : Workspace) {source name : String} (archive : String)
    (h : Path.fileName? source = some name) (tree : FileTree) :
    (packSnapshot w source archive).run.Leads
      [⟨.machine (.write archive []), .ok ()⟩, ⟨.machine (.tree source), .ok tree⟩,
        ⟨.machine (.write archive (Archive.pack name tree)), .ok ()⟩]
      (.done (.ok (archive, { w with artifact := some archive }))) := by
  unfold packSnapshot Archive.packFile
  rw [h]
  exact .ask (.ask (.ask (.rest _)))

section

variable {passphrase : String} {s : Sight} {w : Workspace}

theorem ensures_server (settings : V3Settings) :
    (Etcd.server settings).run.Ensures (monitor passphrase) s (UnlessFailed fun s' _ ↦ s' = s) := by
  unfold Etcd.server
  cases settings.proxy with
  | none =>
    refine Ensures.bind_exceptT (fun s' _ ↦ s' = s) (.of_except fun _ _ ↦ rfl) fun s' _ hs' ↦ ?_
    exact .done hs'
  | some target =>
    refine Ensures.ask trivial fun access _ ↦ ?_
    cases access with
    | error e => exact .failed
    | ok address =>
      refine Ensures.bind_exceptT (fun s' _ ↦ s' = s) (.of_except fun _ _ ↦ rfl) fun s' _ hs' ↦ ?_
      exact .done hs'

theorem ensures_compactAndDefragment (server : EtcdServer) (tls : Option TlsMaterial) :
    (compactAndDefragment server tls).run.Ensures (monitor passphrase) s
      (UnlessFailed fun s' _ ↦ s' = s) := by
  refine Ensures.ask trivial fun status _ ↦ ?_
  cases status with
  | error e => exact .failed
  | ok revision =>
    cases revision with
    | none => exact .failed
    | some revision =>
      refine Ensures.ask trivial fun compacted _ ↦ ?_
      cases compacted with
      | error e => exact .failed
      | ok _ =>
        refine Ensures.ask trivial fun defragmented _ ↦ ?_
        cases defragmented with
        | error e => exact .failed
        | ok _ => exact .done rfl

theorem ensures_saveSnapshot (server : EtcdServer) (tls : Option TlsMaterial) (path : String) :
    (saveSnapshot server tls path).run.Ensures (monitor passphrase) s
      (UnlessFailed fun s' _ ↦ IsUsable path ∧ ∃ stream : SnapshotStream,
        stream.fault = none ∧ stream.chunks.flatten.length < 2 ^ 63 ∧
        s'.files path = some stream.chunks.flatten ∧
        s'.told = s.told ++ [⟨.etcd server tls .snapshot, .ok stream⟩]) := by
  refine Ensures.ask trivial fun answer _ ↦ ?_
  cases answer with
  | error e => exact .failed
  | ok stream =>
    refine ensures_write (fun _ ↦ .failed) fun usable short ↦ ?_
    cases hfault : stream.fault with
    | some fault => exact .failed
    | none => exact .done ⟨usable, stream, hfault, short, Sight.files_wrote_self _ _ _, rfl⟩

/-- The file of a snapshot is packed under its name. -/
theorem ensures_packSnapshot {directory name archive : String} {content : Bytes}
    (isName : Path.IsName name) (usable : IsUsable (Path.join directory name))
    (short : content.length < 2 ^ 63)
    (known : s.files (Path.join directory name) = some content)
    (apart : Path.fileName? archive ≠ some name) :
    (packSnapshot w (Path.join directory name) archive).run.Ensures (monitor passphrase) s
      (UnlessFailed fun s' made ↦ made = (archive, { w with artifact := some archive }) ∧
        s'.told = s.told ∧ ∃ packed, s'.files archive = some packed ∧ packed.length < 2 ^ 63 ∧
          IsArchive packed name content) := by
  have hname := Path.fileName?_join directory isName
  have kept : (s.wrote archive (some [])).files (Path.join directory name) = some content := by
    rw [Sight.files_wrote_of_ne s _ (by rw [hname]; exact apart.symm), known]
  unfold packSnapshot Archive.packFile
  rw [hname]
  refine ensures_write (fun _ ↦ .failed) fun _ _ ↦ ?_
  refine Ensures.ask trivial fun answer fits ↦ ?_
  cases answer with
  | error e => cases e <;> exact .failed
  | ok tree =>
    obtain rfl : tree = .file content := fits content kept
    refine ensures_write (fun _ ↦ .failed) fun _ hlength ↦ ?_
    exact .done ⟨rfl, rfl, _, Sight.files_wrote_self _ _ _, hlength,
      isArchive_pack isName usable short⟩

/-- A snapshot that was taken and packed, with the archive in the workspace. -/
structure IsPacked (w : Workspace) (directory : String) (before : Sight) (t : Taken) (s : Sight)
    (made : String × Workspace) : Prop where
  path : made.1 = Path.join directory (w.stem t.time ++ ".db.tar.gz")
  workspace : made.2 = { w with artifact := some made.1 }
  told : s.told = before.told ++ t.exchanges
  archive : ∃ archive, s.files made.1 = some archive ∧ archive.length < 2 ^ 63 ∧
    IsArchive archive (w.stem t.time ++ ".db") t.stream.chunks.flatten

/-- The artifact of a snapshot is an archive of what the server sent, under the name of the file. -/
theorem ensures_snapshotV3 (settings : V3Settings) {directory : String}
    (hdirectory : w.directory = some directory) (noSlash : '/' ∉ w.namePrefix.toList) :
    (snapshotV3 w settings).run.Ensures (monitor passphrase) s
      (UnlessFailed fun s' made ↦ ∃ t, IsPacked w directory s t s' made) := by
  unfold snapshotV3
  refine (ensures_server settings).bind_exceptT _ fun s' server hs' ↦ ?_
  subst hs'
  refine (ensures_compactAndDefragment server settings.tls).bind_exceptT _ fun s' _ hs' ↦ ?_
  subst hs'
  refine Ensures.bind_exceptT (fun s'' directory' ↦ s'' = s' ∧ directory = directory') ?_
    fun s'' directory' hs'' ↦ ?_
  · unfold Workspace.directory?
    rw [hdirectory]
    exact .done ⟨rfl, rfl⟩
  obtain ⟨rfl, rfl⟩ := hs''
  refine Ensures.bind_exceptT
    (fun s' time ↦ s' = ({ s'' with told := s''.told ++ [⟨.now, time⟩] } : Sight))
    (Ensures.ask trivial fun _ _ ↦ .done rfl) fun s' time hs' ↦ ?_
  subst hs'
  have isName : Path.IsName (w.stem time ++ ".db") := isName_stem noSlash time (by decide)
  dsimp only
  refine (ensures_saveSnapshot server settings.tls
    (Path.join directory (w.stem time ++ ".db"))).bind_exceptT _ fun s' _ hs' ↦ ?_
  obtain ⟨usable, stream, complete, short, hfiles, htold⟩ := hs'
  have isArchiveName : Path.IsName (w.stem time ++ ".db.tar.gz") :=
    isName_stem noSlash time (by decide)
  have hname : w.stem time ++ ".db" ++ ".tar.gz" = w.stem time ++ ".db.tar.gz" :=
    String.append_assoc
  have hpath : Path.join directory (w.stem time ++ ".db") ++ ".tar.gz" =
      Path.join directory (w.stem time ++ ".db.tar.gz") := by
    rw [Path.join_append directory isName (by rwa [hname]), hname]
  have apart : Path.fileName? (Path.join directory (w.stem time ++ ".db.tar.gz")) ≠
      some (w.stem time ++ ".db") := by
    rw [Path.fileName?_join directory isArchiveName]
    intro heq
    have hlength := congrArg String.length (Option.some.inj heq)
    rw [String.length_append, String.length_append] at hlength
    exact absurd (Nat.add_left_cancel hlength) (by decide)
  rw [hpath]
  refine (ensures_packSnapshot isName usable short hfiles apart).mono fun s'' result hresult ↦ ?_
  cases result with
  | error e => trivial
  | ok made =>
    obtain ⟨rfl, htold', harchive⟩ := hresult
    refine ⟨⟨time, server, settings.tls, stream, complete⟩, rfl, rfl, ?_, harchive⟩
    rw [htold', htold]
    exact List.append_assoc _ _ _

/-- What is stored of an archive: itself, or its sealed form beside it if there is a passphrase. -/
structure IsReady (passphrase path : String) (archive : Bytes) (path' : String) (content : Bytes) :
    Prop where
  plain : passphrase = "" → path' = path ∧ content = archive
  covered : passphrase ≠ "" →
    path' = path ++ ".enc" ∧ Sealed.IsSealed passphrase archive content

/-- Sealing the artifact gives its sealed form, if there is a passphrase. -/
theorem ensures_encrypt {path : String} {archive : Bytes} (hartifact : w.artifact = some path)
    (hpassphrase : w.passphrase = passphrase) (known : s.files path = some archive)
    (short : archive.length < 2 ^ 63) :
    (Work.onMachine w.encrypt).Ensures (monitor passphrase) s
      (UnlessFailed fun s' made ↦ s'.told = s.told ∧ ∃ content, s'.files made.1 = some content ∧
        content.length < 2 ^ 63 ∧ IsReady passphrase path archive made.1 content) := by
  subst hpassphrase
  unfold Workspace.encrypt
  rw [hartifact]
  dsimp only
  split
  case isTrue hempty =>
    have hnone := String.isEmpty_iff.1 hempty
    exact .done ⟨rfl, archive, known, short, fun _ ↦ ⟨rfl, rfl⟩, fun hsome ↦ (hsome hnone).elim⟩
  case isFalse hsome =>
    have hpassphrase : w.passphrase ≠ "" := fun h ↦ hsome (String.isEmpty_iff.2 h)
    refine ensures_read known (fun _ ↦ .failed) ?_
    refine .ask trivial fun salt _ ↦ .ask trivial fun nonce _ ↦ ?_
    refine ensures_write (fun _ ↦ .failed) fun _ hlength ↦ ?_
    exact .done ⟨rfl, _, Sight.files_wrote_self _ _ _, hlength, fun h ↦ (hpassphrase h).elim,
      fun _ ↦ ⟨String.append_assoc, Sealed.isSealed_pack _ _ salt.2 nonce.2⟩⟩

end

end EtcdBackup.Backup
