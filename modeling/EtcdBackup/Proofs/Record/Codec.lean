import EtcdBackup.Proofs.Json.Fields
import EtcdBackup.Proofs.Json.Text
import EtcdBackup.Record.Codec

/-!
# Statuses written over stored ones

A status goes into the store as a patch, and members that its form on the wire leaves out stay in
the store as they were. A status `Covers` a stored value if there is nothing under the keys that it
leaves out. Then the status is read back as it was written (`Status.decode_mergePatch`).
-/

set_option autoImplicit false
set_option relaxedAutoImplicit false

namespace EtcdBackup

variable {α β : Type}

namespace Json

theorem find?_optionalMember (key other : String) (encode : α → Json) (x : Option α) :
    Keyed.find? other (optionalMember key encode x) =
      if key = other then x.map encode else none := by
  cases x with
  | none => exact (ite_self none).symm
  | some a => rfl

@[simp] theorem reverse_optionalMember (key : String) (encode : α → Json) (x : Option α) :
    (optionalMember key encode x).reverse = optionalMember key encode x := by
  cases x <;> rfl

theorem plain_optionalMember (depth : Nat) (key : String) (encode : α → Json)
    (h : ∀ a, (encode a).isNull = false ∧ (encode a).Plain depth) (x : Option α) :
    ∀ e ∈ optionalMember key encode x, e.2.isNull = false ∧ e.2.Plain depth := by
  cases x with
  | none => exact List.forall_mem_nil _
  | some a => exact List.forall_mem_singleton.2 (h a)

end Json

/-! ### Single values -/

@[simp] theorem Phase.decode_encode (phase : Phase) : decode phase.encode = .ok phase := by
  cases phase <;> rfl

@[simp] theorem InstanceState.decode_encode (state : InstanceState) :
    decode state.encode = .ok state := by
  cases state <;> rfl

@[simp] theorem Decoder.instant_encode (t : Instant) : instant t.encode = .ok t := by
  change (Instant.parse t.text).mapError DecodeError.time = _
  rw [Instant.parse_text]
  rfl

theorem Decoder.integer_ofNat (name : String) {n : Nat} {high : Int} (h : (n : Int) ≤ high) :
    integer name 0 high (Json.ofNat n) = .ok n :=
  if_pos ⟨Int.natCast_nonneg n, h⟩

@[simp] theorem Decoder.uint32_ofNat (n : UInt32) : uint32 (Json.ofNat n.toNat) = .ok n := by
  have hbound : (n.toNat : Int) ≤ UInt32.size - 1 := Int.le_sub_one_of_lt (mod_cast n.toNat_lt)
  rw [uint32, integer_ofNat "u32" hbound]
  exact congrArg Except.ok UInt32.ofNat_toNat

@[simp] theorem Decoder.uint64_ofNat (n : UInt64) : uint64 (Json.ofNat n.toNat) = .ok n := by
  have hbound : (n.toNat : Int) ≤ UInt64.size - 1 := Int.le_sub_one_of_lt (mod_cast n.toNat_lt)
  rw [uint64, integer_ofNat "u64" hbound]
  exact congrArg Except.ok UInt64.ofNat_toNat

/-! ### Fields of a value that a patch was applied to -/

namespace Fields

open Json

variable {j : Json} {members : List (String × Json)} {key : String} {decode : Decoder β}

/-- A member that is always written is read back. -/
theorem read_written {absent : Except DecodeError β} {value : Json} {b : β}
    (hfind : (ofFields members).get? key = some value) (hnull : value.isNull = false)
    (hread : decode ((j.getD key).mergePatch value) = .ok b) :
    read decode absent ((j.mergePatch (ofFields members)).get? key) = .ok b := by
  rw [get?_mergePatch_of_some hfind hnull]
  exact hread

/-- A member that is left out if it has no value is read back, if there was none before. -/
theorem read_optional {encode : β → Json} {x : Option β}
    (hfind : (ofFields members).get? key = x.map encode)
    (hnull : ∀ b, (encode b).isNull = false)
    (hread : ∀ b, x = some b → decode ((j.getD key).mergePatch (encode b)) = .ok b)
    (habsent : x = none → j.getD key = .null) :
    read (Decoder.option decode) (.ok none) ((j.mergePatch (ofFields members)).get? key) =
      .ok x := by
  cases x with
  | none =>
    rw [get?_mergePatch_of_none hfind, read_option]
    exact Decoder.option_eq_ok_none_iff.2 (habsent rfl)
  | some b =>
    refine read_written hfind (hnull b) (Decoder.option_of_ok (hread b rfl) ?_)
    rw [isNull_mergePatch, hnull]

end Fields

/-! ### The progress of one datastore -/

namespace SubStatus

/-- Where a sub-status is written, there is nothing under the keys that it leaves out. -/
structure Covers (s : SubStatus) (j : Json) : Prop where
  started : s.started = none → j.getD "startedTimestamp" = .null
  finished : s.finished = none → j.getD "finishedTimestamp" = .null
  filename : s.filename = none → j.getD "filename" = .null

theorem get?_encode (s : SubStatus) :
    s.encode.get? "status" = some s.state.encode ∧
      s.encode.get? "attempts" = some (Json.ofNat s.attempts.toNat) ∧
      s.encode.get? "startedTimestamp" = s.started.map Instant.encode ∧
      s.encode.get? "finishedTimestamp" = s.finished.map Instant.encode ∧
      s.encode.get? "latestError" = some (.string s.latestError) ∧
      s.encode.get? "creationTime" = some (Json.ofNat s.creationMillis.toNat) ∧
      s.encode.get? "encryptionTime" = some (Json.ofNat s.encryptionMillis.toNat) ∧
      s.encode.get? "uploadTime" = some (Json.ofNat s.uploadMillis.toNat) ∧
      s.encode.get? "backupFileSize" = some (Json.ofNat s.size.toNat) ∧
      s.encode.get? "filename" = s.filename.map .string := by
  simp [encode, Json.get?_ofFields, Json.find?_optionalMember, Keyed.find?_append, Keyed.find?]

theorem plain_encode (s : SubStatus) (depth : Nat) : s.encode.Plain (depth + 1) := by
  have time (x : Option Instant) (key : String) :=
    Json.plain_optionalMember depth key Instant.encode (fun _ ↦ ⟨rfl, .string _⟩) x
  have number (n : UInt64) : (Json.ofNat n.toNat).isNull = false ∧
      (Json.ofNat n.toNat).Plain depth := ⟨rfl, .natural n.toNat_lt⟩
  have attempts : (Json.ofNat s.attempts.toNat).Plain depth :=
    .natural (Nat.lt_trans s.attempts.toNat_lt (by decide))
  refine Json.plain_ofFields ?_
  simp only [List.forall_mem_append, List.forall_mem_cons]
  exact ⟨⟨⟨⟨⟨⟨rfl, .string _⟩, ⟨rfl, attempts⟩, nofun⟩, time _ _⟩, time _ _⟩,
    ⟨rfl, .string _⟩, number _, number _, number _, number _, nofun⟩,
    Json.plain_optionalMember _ _ _ (fun _ ↦ ⟨rfl, .string _⟩) _⟩

theorem lawful_fields : fields.Lawful :=
  (Fields.lawful_start _).default.default.default.default.default.default.default.default.default
    |>.default

theorem decode_mergePatch {s : SubStatus} {j : Json} (ordered : j.Ordered) (h : s.Covers j) :
    decode (j.mergePatch s.encode) = .ok s := by
  obtain ⟨hstate, hattempts, hstarted, hfinished, herror, hcreation, hencryption, hupload, hsize,
    hfilename⟩ := s.get?_encode
  refine (Fields.decode_object_iff lawful_fields
    (Json.ascending_mergeMembers ordered.ascending _) _ s).2 ?_
  exact Fields.reads_start SubStatus.mk _
    |>.default (Fields.read_written hstate rfl s.state.decode_encode)
    |>.default (Fields.read_written hattempts rfl (Decoder.uint32_ofNat _))
    |>.default (Fields.read_optional hstarted (fun _ ↦ rfl)
      (fun _ _ ↦ Decoder.instant_encode _) h.started)
    |>.default (Fields.read_optional hfinished (fun _ ↦ rfl)
      (fun _ _ ↦ Decoder.instant_encode _) h.finished)
    |>.default (Fields.read_written herror rfl rfl)
    |>.default (Fields.read_written hcreation rfl (Decoder.uint64_ofNat _))
    |>.default (Fields.read_written hencryption rfl (Decoder.uint64_ofNat _))
    |>.default (Fields.read_written hupload rfl (Decoder.uint64_ofNat _))
    |>.default (Fields.read_written hsize rfl (Decoder.uint64_ofNat _))
    |>.default (Fields.read_optional hfilename (fun _ ↦ rfl) (fun _ _ ↦ rfl) h.filename)

end SubStatus

/-! ### The entries of the targets -/

namespace InstanceStatus

/-- Where an entry is written, there is nothing under the keys that it leaves out. -/
structure Covers (s : InstanceStatus) (j : Json) : Prop where
  error : s.error = none → j.getD "error" = .null
  absent : ∀ version, s.sub? version = none → j.getD version.tag = .null
  inside : ∀ version sub, s.sub? version = some sub → sub.Covers (j.getD version.tag)

theorem get?_encode (s : InstanceStatus) :
    s.encode.get? "name" = some (.string s.name) ∧
      s.encode.get? "error" = s.error.map .string ∧
      s.encode.get? "v2" = s.v2.map SubStatus.encode ∧
      s.encode.get? "v3" = s.v3.map SubStatus.encode := by
  simp [encode, Json.get?_ofFields, Json.find?_optionalMember, Keyed.find?_append, Keyed.find?]

theorem plain_encode (s : InstanceStatus) (depth : Nat) : s.encode.Plain (depth + 2) := by
  have sub (x : Option SubStatus) (key : String) :=
    Json.plain_optionalMember (depth + 1) key SubStatus.encode (fun s ↦ ⟨rfl, s.plain_encode depth⟩) x
  refine Json.plain_ofFields ?_
  simp only [List.forall_mem_append, List.forall_mem_cons]
  exact ⟨⟨⟨⟨⟨rfl, .string _⟩, nofun⟩,
    Json.plain_optionalMember _ _ _ (fun _ ↦ ⟨rfl, .string _⟩) _⟩, sub _ _⟩, sub _ _⟩

theorem lawful_fields : fields.Lawful :=
  (Fields.lawful_start _).required.default.default.default

theorem decode_mergePatch {s : InstanceStatus} {j : Json} (ordered : j.Ordered)
    (h : s.Covers j) : decode (j.mergePatch s.encode) = .ok s := by
  obtain ⟨hname, herror, hv2, hv3⟩ := s.get?_encode
  refine (Fields.decode_object_iff lawful_fields
    (Json.ascending_mergeMembers ordered.ascending _) _ s).2 ?_
  exact Fields.reads_start InstanceStatus.mk _
    |>.required (Fields.read_written hname rfl rfl)
    |>.default (Fields.read_optional herror (fun _ ↦ rfl) (fun _ _ ↦ rfl) h.error)
    |>.default (Fields.read_optional hv2 (fun _ ↦ rfl)
      (fun sub hsub ↦ SubStatus.decode_mergePatch (ordered.getD "v2") (h.inside .v2 sub hsub))
      (h.absent .v2))
    |>.default (Fields.read_optional hv3 (fun _ ↦ rfl)
      (fun sub hsub ↦ SubStatus.decode_mergePatch (ordered.getD "v3") (h.inside .v3 sub hsub))
      (h.absent .v3))

end InstanceStatus

/-! ### The status -/

namespace Status

/-- Where a status is written, there is nothing under the keys that it leaves out, except for
entries if it has none itself. -/
structure Covers (s : Status) (j : Json) : Prop where
  started : s.started = none → j.getD "startedTimestamp" = .null
  finished : s.finished = none → j.getD "finishedTimestamp" = .null
  error : s.error = none → j.getD "error" = .null
  names : s.instances.isEmpty = false → ∀ name, ((j.getD "instances").get? name).isSome →
    (s.instances.get? name).isSome
  entries : ∀ name entry, s.instances.get? name = some entry →
    entry.Covers ((j.getD "instances").getD name)

/-- The form of the entries on the wire. -/
def encodeInstances (m : Keyed InstanceStatus) : Json :=
  .object (m.entries.map fun e ↦ (e.1, e.2.encode))

theorem get?_encode (s : Status) :
    s.encode.get? "status" = some s.phase.encode ∧
      s.encode.get? "startedTimestamp" = s.started.map Instant.encode ∧
      s.encode.get? "finishedTimestamp" = s.finished.map Instant.encode ∧
      s.encode.get? "instances" =
        (if s.instances.isEmpty then none else some (encodeInstances s.instances)) ∧
      s.encode.get? "error" = s.error.map .string := by
  cases hinstances : s.instances.isEmpty <;>
    simp [encode, encodeInstances, hinstances, Json.get?_ofFields, Json.find?_optionalMember,
      Keyed.find?_append, Keyed.find?]

theorem plain_encodeInstances {depth : Nat} (m : Keyed InstanceStatus) :
    (encodeInstances m).Plain (depth + 3) := by
  refine .object (m.ascending.map _) (fun e he ↦ ?_) fun e he ↦ ?_
  all_goals obtain ⟨e', -, rfl⟩ := List.mem_map.1 he
  · rfl
  · exact e'.2.plain_encode _

theorem plain_encode (s : Status) (depth : Nat) : s.encode.Plain (depth + 4) := by
  have time (x : Option Instant) (key : String) :=
    Json.plain_optionalMember (depth + 3) key Instant.encode (fun _ ↦ ⟨rfl, .string _⟩) x
  have hinstances : ∀ e ∈ (if s.instances.isEmpty then []
      else [("instances", encodeInstances s.instances)]),
      e.2.isNull = false ∧ e.2.Plain (depth + 3) := by
    split
    · exact List.forall_mem_nil _
    · exact List.forall_mem_singleton.2 ⟨rfl, plain_encodeInstances _⟩
  refine Json.plain_ofFields ?_
  simp only [List.forall_mem_append, List.forall_mem_cons]
  exact ⟨⟨⟨⟨⟨⟨rfl, .string _⟩, nofun⟩, time _ _⟩, time _ _⟩, hinstances⟩,
    Json.plain_optionalMember _ _ _ (fun _ ↦ ⟨rfl, .string _⟩) _⟩

theorem ordered_encode (s : Status) : s.encode.Ordered := (s.plain_encode 0).ordered

theorem lawful_fields : fields.Lawful :=
  (Fields.lawful_start _).default.default.default.default.default

theorem get?_encodeInstances (m : Keyed InstanceStatus) (name : String) :
    Keyed.find? name (m.entries.map fun e ↦ (e.1, e.2.encode)) =
      (m.get? name).map InstanceStatus.encode :=
  Keyed.find?_map _ m.entries name

/-- Entries that are written are read back, if there were no others before. -/
theorem keyed_mergePatch {m : Keyed InstanceStatus} {j : Json} (ordered : j.Ordered)
    (names : ∀ name, (j.get? name).isSome → (m.get? name).isSome)
    (covers : ∀ name entry, m.get? name = some entry → entry.Covers (j.getD name)) :
    Decoder.keyed InstanceStatus.decode (j.mergePatch (encodeInstances m)) = .ok m := by
  have hchanges : Keyed.Ascending (m.entries.map fun e ↦ (e.1, e.2.encode)) := m.ascending.map _
  refine (Decoder.keyed_object_iff (Json.ascending_mergeMembers ordered.ascending _) m).2
    fun name ↦ ?_
  have hget := j.get?_mergePatch hchanges name
  rw [get?_encodeInstances] at hget
  refine (congrArg (Option.map InstanceStatus.decode) hget).trans ?_
  cases hentry : m.get? name with
  | none =>
    cases hj : j.get? name with
    | none => rfl
    | some value =>
      have hsome := names name (hj ▸ rfl)
      rw [hentry] at hsome
      cases hsome
  | some entry =>
    exact congrArg some
      (InstanceStatus.decode_mergePatch (ordered.getD name) (covers name entry hentry))

/-- A status is read back as it was written, but for the entries. -/
theorem decode_mergePatch {s : Status} {j : Json} (ordered : j.Ordered) (h : s.Covers j)
    {instances : Keyed InstanceStatus}
    (held : Fields.read (Decoder.keyed InstanceStatus.decode) (.ok ∅)
      ((j.mergePatch s.encode).get? "instances") = .ok instances) :
    decode (j.mergePatch s.encode) = .ok { s with instances := instances } := by
  obtain ⟨hphase, hstarted, hfinished, -, herror⟩ := s.get?_encode
  refine (Fields.decode_object_iff lawful_fields
    (Json.ascending_mergeMembers ordered.ascending _) _ _).2 ?_
  exact Fields.reads_start Status.mk _
    |>.default (Fields.read_written hphase rfl s.phase.decode_encode)
    |>.default (Fields.read_optional hstarted (fun _ ↦ rfl)
      (fun _ _ ↦ Decoder.instant_encode _) h.started)
    |>.default (Fields.read_optional hfinished (fun _ ↦ rfl)
      (fun _ _ ↦ Decoder.instant_encode _) h.finished)
    |>.default held
    |>.default (Fields.read_optional herror (fun _ ↦ rfl) (fun _ _ ↦ rfl) h.error)

/-- A status with entries is read back as it was written. -/
theorem read_instances {s : Status} {j : Json} (ordered : j.Ordered) (h : s.Covers j)
    (hsome : s.instances.isEmpty = false) :
    Fields.read (Decoder.keyed InstanceStatus.decode) (.ok ∅)
      ((j.mergePatch s.encode).get? "instances") = .ok s.instances := by
  obtain ⟨-, -, -, hinstances, -⟩ := s.get?_encode
  rw [hsome] at hinstances
  exact Fields.read_written hinstances rfl
    (keyed_mergePatch (ordered.getD "instances") (h.names hsome) h.entries)

/-- A status without entries leaves those that are stored. -/
theorem get?_instances_of_isEmpty {s : Status} (j : Json) (hnone : s.instances.isEmpty) :
    (j.mergePatch s.encode).get? "instances" = j.get? "instances" := by
  obtain ⟨-, -, -, hinstances, -⟩ := s.get?_encode
  rw [if_pos hnone] at hinstances
  exact Json.get?_mergePatch_of_none hinstances

end Status

end EtcdBackup
