import EtcdBackup.Controller.Persist
import EtcdBackup.Proofs.Course
import EtcdBackup.Proofs.Kubernetes.StatusPatch

/-!
# The wire form is faithful

Every specification, status, entry and sub-status is read back from what is written of it, and what
is written of a value that was read is read as the same value again (`RoundTrips`). A pass that
compares the status that it started from with the stored one therefore finds no difference between a
status and its own wire form (`Record.status_of_stored`).

The times of a status are instants. A moment with a leap second in the middle of a minute has the
text of the second behind it, so it would be read back as that one, and a store that keeps entries
that a status does not have holds another status than the one that was written
(`not_roundTrips_of_irregular`).

Nothing is new about statuses: they are read back from where they were written over a stored value,
and to write over nothing is to write (`Json.null_mergePatch`).
-/

set_option autoImplicit false
set_option relaxedAutoImplicit false

namespace EtcdBackup

open Dialogue

/-- A value is read back from its wire form and from the text of that form, and a form from which a
value can be read says what the value's own form says. -/
structure RoundTrips {α : Type} (encode : α → Json) (decode : Decoder α) : Prop where
  back : ∀ a, decode (encode a) = .ok a
  text : ∀ a, Json.parse (encode a).compact = some (encode a)
  normal : ∀ j a, decode j = .ok a → decode (encode a) = decode j

theorem RoundTrips.of_plain {α : Type} {encode : α → Json} {decode : Decoder α}
    (back : ∀ a, decode (encode a) = .ok a) (plain : ∀ a, (encode a).Plain 127) :
    RoundTrips encode decode :=
  ⟨back, fun a ↦ Json.parse_compact (plain a), fun _ a h ↦ (back a).trans h.symm⟩

/-! ### Statuses -/

theorem SubStatus.decode_encode (s : SubStatus) : decode s.encode = .ok s := by
  rw [← Json.null_mergePatch (s.plain_encode 0)]
  exact decode_mergePatch .null s.covers_null

theorem InstanceStatus.decode_encode (s : InstanceStatus) : decode s.encode = .ok s := by
  rw [← Json.null_mergePatch (s.plain_encode 0)]
  exact decode_mergePatch .null s.covers_null

theorem Status.decode_encode (s : Status) : decode s.encode = .ok s := by
  have absent : Decoder.option decode .null = .ok none := rfl
  have retains : s.Retains {} := ⟨fun _ ↦ rfl, fun _ ↦ rfl, fun _ ↦ rfl, fun _ _ _ ↦ nofun⟩
  obtain ⟨instances, hread, hcases⟩ := exists_decode_mergePatch .null absent retains
  rw [← Json.null_mergePatch (s.plain_encode 0), hread]
  rcases hcases with rfl | ⟨hnone, rfl⟩
  · rfl
  · rw [show ((none : Option Status).getD {}).instances = s.instances from hnone.symm]

/-! ### Specifications -/

theorem Decoder.each_map {α : Type} (encode : α → Json) {decode : Decoder α}
    (h : ∀ a, decode (encode a) = .ok a) (items : List α) :
    each decode (items.map encode) = .ok items := by
  induction items with
  | nil => rfl
  | cons a items ih =>
    rw [List.map_cons, each, h, ih]
    rfl

namespace Spec

theorem get?_encode (s : Spec) :
    s.encode.get? "guestBackup" = some (.bool s.guestBackup) ∧
      s.encode.get? "clusterNames" =
        (if s.clusterNames.isEmpty then none else some (.array (s.clusterNames.map .string))) ∧
      s.encode.get? "clustersRegex" = s.clustersRegex.map .string ∧
      s.encode.get? "clustersToExcludeRegex" = s.clustersToExcludeRegex.map .string := by
  cases hnames : s.clusterNames.isEmpty <;>
    simp [encode, hnames, Json.get?_ofFields, Json.find?_optionalMember, Keyed.find?_append,
      Keyed.find?]

theorem plain_encode (s : Spec) (depth : Nat) : s.encode.Plain (depth + 2) := by
  have names : ∀ e ∈ (if s.clusterNames.isEmpty then []
      else [("clusterNames", Json.array (s.clusterNames.map .string))]),
      e.2.isNull = false ∧ e.2.Plain (depth + 1) := by
    split
    · exact List.forall_mem_nil _
    · refine List.forall_mem_singleton.2 ⟨rfl, .array fun j hj ↦ ?_⟩
      obtain ⟨name, -, rfl⟩ := List.mem_map.1 hj
      exact .string name
  have pattern (x : Option String) (key : String) :=
    Json.plain_optionalMember (depth + 1) key .string (fun _ ↦ ⟨rfl, .string _⟩) x
  refine Json.plain_ofFields ?_
  simp only [List.forall_mem_append, List.forall_mem_cons]
  exact ⟨⟨⟨⟨⟨rfl, .bool _⟩, nofun⟩, names⟩, pattern _ _⟩, pattern _ _⟩

theorem lawful_fields : fields.Lawful :=
  (Fields.lawful_start _).default.default.default.default

theorem decode_encode (s : Spec) : decode s.encode = .ok s := by
  obtain ⟨hguest, hnames, hregex, hexclude⟩ := s.get?_encode
  have read_guest : Fields.read Decoder.bool (.ok false) (s.encode.get? "guestBackup") =
      .ok s.guestBackup := by
    rw [hguest]
    rfl
  have read_pattern {x : Option String} {member : Option Json} (h : member = x.map .string) :
      Fields.read (Decoder.option Decoder.string) (.ok none) member = .ok x := by
    rw [h]
    cases x <;> rfl
  have read_names : Fields.read (Decoder.list Decoder.string) (.ok [])
      (s.encode.get? "clusterNames") = .ok s.clusterNames := by
    rw [hnames]
    split
    case isTrue hempty => rw [List.isEmpty_iff.1 hempty]; rfl
    case isFalse => exact Decoder.each_map .string (fun _ ↦ rfl) s.clusterNames
  refine (Fields.decode_object_iff lawful_fields (Keyed.ofList _).ascending _ s).2 ?_
  exact Fields.reads_start Spec.mk _
    |>.default read_guest
    |>.default read_names
    |>.default (read_pattern hregex)
    |>.default (read_pattern hexclude)

end Spec

/-! ### Stored statuses -/

/-- A record that is stored with the wire form of a status is read with that status. -/
theorem Record.status_of_stored {members : List (String × Json)} {r : Record}
    {status : Option Status} (h : decode (.object members) = .ok r)
    (stored : (Json.object members).getD "status" = Json.ofOption Status.encode status) :
    r.status = status := by
  obtain ⟨-, -, hread⟩ := Record.reads_iff.1 (Fields.reads_of_decode_object h)
  rw [Fields.read_option, ← Json.get?, ← Json.getD, stored] at hread
  cases status with
  | none => exact (Except.ok.inj hread).symm
  | some s =>
    have hsome := Decoder.option_of_ok s.decode_encode rfl
    rw [Json.ofOption, hsome] at hread
    exact (Except.ok.inj hread).symm

/-- Everything that a record holds beside its metadata round-trips, and writing a status for a
record never fails on the comparison with the stored one if that is the record's own status. -/
theorem roundTrips :
    RoundTrips Spec.encode Spec.decode ∧ RoundTrips Status.encode Status.decode ∧
      RoundTrips InstanceStatus.encode InstanceStatus.decode ∧
      RoundTrips SubStatus.encode SubStatus.decode ∧
      ∀ (known fresh : Record) (next : Status) (members : List (String × Json)),
        (Json.object members).getD "status" = Json.ofOption Status.encode known.status →
        Record.decode (.object members) = .ok fresh →
        fresh.status = known.status ∧
          (persistStatus known next).Leads [⟨.get known.name, .ok fresh⟩]
            (Job.call (.updateStatus { fresh with status := some next })) := by
  refine ⟨.of_plain Spec.decode_encode fun s ↦ s.plain_encode _,
    .of_plain Status.decode_encode fun s ↦ s.plain_encode _,
    .of_plain InstanceStatus.decode_encode fun s ↦ s.plain_encode _,
    .of_plain SubStatus.decode_encode fun s ↦ s.plain_encode _,
    fun known fresh next members stored hread ↦ ?_⟩
  have same := Record.status_of_stored hread stored
  refine ⟨same, ?_⟩
  have course : (persistStatus known next).Leads [⟨.get known.name, .ok fresh⟩]
      (if fresh.status = known.status then
        Job.call (.updateStatus { fresh with status := some next })
      else pure (.error (.conflict (.statusMoved known.name)))) := .ask (.rest _)
  rwa [if_pos same] at course

/-- A status whose cycle ended in a leap second. -/
def leapStatus : Status where
  phase := .completed
  finished := some ⟨⟨1483228799, 1500000000, by decide⟩, by decide⟩
  instances := (∅ : Keyed _).insert "a" { name := "a", v3 := some { state := .completed } }

/-- A record with this status is stored with it and can be given another one. -/
theorem roundTrips_leapStatus :
    let known : Record := { metadata := { name := some "b" }, status := some leapStatus }
    Status.decode leapStatus.encode = .ok leapStatus ∧
      Record.decode (.object [("metadata", .object [("name", .string "b")]), ("spec", .object []),
        ("status", leapStatus.encode)]) = .ok known ∧
      (persistStatus known {}).Leads [⟨.get "b", .ok known⟩]
        (Job.call (.updateStatus { known with status := some {} })) := by
  intro known
  obtain ⟨-, statuses, -, -, persists⟩ := roundTrips
  have hread : Record.decode (.object [("metadata", .object [("name", .string "b")]),
      ("spec", .object []), ("status", leapStatus.encode)]) = .ok known := rfl
  exact ⟨statuses.back leapStatus, hread, (persists known known {} _ rfl hread).2⟩

/-- The wire form of the status of a running cycle that was started at a moment. -/
def startedAt (m : Moment) : Json :=
  Json.ofFields
    [("status", .string Phase.v2Running.wireName), ("startedTimestamp", .string m.text)]

theorem encode_started (t : Instant) :
    ({ phase := .v2Running, started := some t } : Status).encode = startedAt t.toMoment := by
  have none_held : (∅ : Keyed InstanceStatus).isEmpty = true := rfl
  simp [Status.encode, startedAt, none_held, Json.optionalMember, Phase.encode, Instant.encode]

/-- A moment with a leap second in the middle of a minute is read back as the second behind it. And
where a record has entries, the server keeps them when it is given a status without: whoever wrote
that status finds another one stored. -/
theorem not_roundTrips_of_irregular :
    let leap : Moment := ⟨1483228564, 1333333333, by decide⟩
    let next : Instant := ⟨⟨1483228565, 333333333, by decide⟩, by decide⟩
    let written : Record :=
      { metadata := { name := some "b", resourceVersion := some "1" }, status := some {} }
    let stored : Json := .object [
      ("metadata", .object [("name", .string "b"), ("resourceVersion", .string "1")]),
      ("spec", .object []), ("status", leapStatus.encode)]
    (Status.decode (startedAt leap) = .ok { phase := .v2Running, started := some next } ∧
        next.toMoment ≠ leap) ∧
      ∃ fresh, Record.decode (stored.mergePatch (RecordStore.statusPatch written)) = .ok fresh ∧
        (persistStatus written {}).Leads [⟨.get "b", .ok fresh⟩]
          (.done (.error (.conflict (.statusMoved "b")))) := by
  intro leap next written stored
  have same : leap.text = next.text := by decide +kernel
  have form : startedAt leap = ({ phase := .v2Running, started := some next } : Status).encode := by
    rw [encode_started, startedAt, startedAt, same]
  refine ⟨⟨form ▸ Status.decode_encode _, by decide⟩, ?_⟩
  have kept : (Record.decode (stored.mergePatch (RecordStore.statusPatch written))).toOption.any
      (·.status ≠ some {}) := by decide +kernel
  cases hread : Record.decode (stored.mergePatch (RecordStore.statusPatch written)) with
  | error e =>
    rw [hread] at kept
    cases kept
  | ok fresh =>
    rw [hread] at kept
    have differs : fresh.status ≠ written.status := of_decide_eq_true kept
    refine ⟨fresh, rfl, ?_⟩
    have course : (persistStatus written {}).Leads [⟨.get "b", .ok fresh⟩]
        (if fresh.status = written.status then
          Job.call (.updateStatus { fresh with status := some {} })
        else pure (.error (.conflict (.statusMoved "b")))) := .ask (.rest _)
    rwa [if_neg differs] at course

end EtcdBackup
