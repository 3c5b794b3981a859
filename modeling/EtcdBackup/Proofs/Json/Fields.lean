import EtcdBackup.Json.Decode
import EtcdBackup.Proofs.Lookup

/-!
# Reading objects

A map holds under each key what is read off the member under that key (`keyed_object_iff`).

What a structure takes from an object is what each of its fields takes from the member under its
key: `Fields.Reads` is put together field by field and taken apart again. All members are looked at
for faults first, but in an object whose members ascend there is nothing else to find
(`decode_object_iff`).
-/

set_option autoImplicit false
set_option relaxedAutoImplicit false

namespace EtcdBackup

variable {α β : Type} {members : List (String × Json)} {key : String}

namespace Decoder

variable {decode : Decoder β} {j : Json}

@[simp] theorem option_eq_ok_none_iff : option decode j = .ok none ↔ j = .null := by
  cases j <;> simp [option] <;> cases decode _ <;> simp [Except.map]

theorem option_of_ok {b : β} (h : decode j = .ok b) (hnull : j.isNull = false) :
    option decode j = .ok (some b) := by
  cases j <;> first | exact congrArg (Except.map some) h | cases hnull

theorem of_option {b : β} (h : option decode j = .ok (some b)) : decode j = .ok b := by
  have hmap : (decode j).map some = .ok (some b) := by
    cases j with
    | null => cases h
    | bool | number | string | array | object => exact h
  cases hdecode : decode j with
  | error e =>
    rw [hdecode] at hmap
    cases hmap
  | ok c =>
    rw [hdecode] at hmap
    cases hmap
    rfl

/-! ### Maps -/

/-- Members that can be read give entries under the same keys. -/
theorem lookups_of_eachMember {entries : List (String × β)}
    (h : eachMember decode members = .ok entries) :
    entries.map (·.1) = members.map (·.1) ∧
      ∀ key, (Keyed.find? key members).map decode = (Keyed.find? key entries).map .ok := by
  induction members generalizing entries with
  | nil =>
    cases h
    exact ⟨rfl, fun _ ↦ rfl⟩
  | cons head rest ih =>
    obtain ⟨k, v⟩ := head
    rw [eachMember] at h
    cases hv : decode v with
    | error e =>
      rw [hv] at h
      cases h
    | ok a =>
      cases hrest : eachMember decode rest with
      | error e =>
        rw [hv, hrest] at h
        cases h
      | ok others =>
        rw [hv, hrest] at h
        cases h
        obtain ⟨hkeys, hlookups⟩ := ih hrest
        refine ⟨congrArg (k :: ·) hkeys, fun key ↦ ?_⟩
        by_cases hkey : k = key
        · simp [Keyed.find?, hkey, hv]
        · simp [Keyed.find?, hkey, hlookups]

theorem exists_of_forall_mem (h : ∀ e ∈ members, ∃ b, decode e.2 = .ok b) :
    ∃ entries, eachMember decode members = .ok entries := by
  induction members with
  | nil => exact ⟨[], rfl⟩
  | cons head rest ih =>
    obtain ⟨⟨b, hb⟩, hrest⟩ := List.forall_mem_cons.1 h
    obtain ⟨others, hothers⟩ := ih hrest
    refine ⟨(head.1, b) :: others, ?_⟩
    rw [eachMember, hb, hothers]
    rfl

theorem lookups_of_keyed (h : Keyed.Ascending members) {m : Keyed β}
    (hread : keyed decode (.object members) = .ok m) (key : String) :
    (Keyed.find? key members).map decode = (m.get? key).map .ok := by
  rw [keyed] at hread
  cases hentries : eachMember decode members with
  | error e =>
    rw [hentries] at hread
    cases hread
  | ok entries =>
    rw [hentries] at hread
    cases hread
    obtain ⟨hkeys, hlookups⟩ := lookups_of_eachMember hentries
    have hascending : Keyed.Ascending entries := by
      rw [Keyed.ascending_iff, hkeys]
      exact Keyed.ascending_iff.1 h
    rw [Keyed.ofList_of_ascending hascending]
    exact hlookups key

/-- A map is read off an object with ascending members exactly if it holds under each key what is
read off the member. -/
theorem keyed_object_iff (h : Keyed.Ascending members) (m : Keyed β) :
    keyed decode (.object members) = .ok m ↔
      ∀ key, (Keyed.find? key members).map decode = (m.get? key).map .ok := by
  refine ⟨lookups_of_keyed h, fun hlookups ↦ ?_⟩
  have hreadable : ∀ e ∈ members, ∃ b, decode e.2 = .ok b := by
    intro e he
    have hlookup := hlookups e.1
    rw [h.find?_of_mem he] at hlookup
    obtain ⟨b, -, hb⟩ := Option.map_eq_some_iff.1 hlookup.symm
    exact ⟨b, hb.symm⟩
  obtain ⟨entries, hentries⟩ := exists_of_forall_mem hreadable
  have hread : keyed decode (.object members) = .ok (Keyed.ofList entries) :=
    congrArg (Except.map Keyed.ofList) hentries
  rw [hread]
  refine congrArg Except.ok (Keyed.ext_get? fun key ↦ ?_)
  have hsame := (lookups_of_keyed h hread key).symm.trans (hlookups key)
  exact Option.map_injective (fun _ _ hok ↦ Except.ok.inj hok) hsame

end Decoder

namespace Fields

/-! ### Structures -/

/-- What a field takes from the member under its key, if there is one. -/
def read (decode : Decoder β) (absent : Except DecodeError β) : Option Json → Except DecodeError β
  | some j => decode j
  | none => absent

theorem read_option (decode : Decoder β) (j : Option Json) :
    read (Decoder.option decode) (.ok none) j = Decoder.option decode (j.getD .null) := by
  cases j <;> rfl

theorem decode_of_read {decode : Decoder β} {j : Option Json} {e : DecodeError} {b : β}
    (h : read decode (.error e) j = .ok b) : decode (j.getD .null) = .ok b := by
  cases j with
  | none => cases h
  | some value => exact h

/-- A field that may be absent takes nothing from null, and a value from everything else. -/
theorem read_option_cases {decode : Decoder β} {j : Option Json} {x : Option β}
    (h : read (Decoder.option decode) (.ok none) j = .ok x) :
    (x = none ∧ j.getD .null = .null) ∨ ∃ b, x = some b ∧ decode (j.getD .null) = .ok b := by
  rw [read_option] at h
  cases x with
  | none => exact Or.inl ⟨rfl, Decoder.option_eq_ok_none_iff.1 h⟩
  | some b => exact Or.inr ⟨b, rfl, Decoder.of_option h⟩

/-- The structure that the fields take from the members of an object. -/
structure Reads (fs : Fields α) (members : List (String × Json)) (a : α) : Prop where
  ofMembers : fs.ofMembers members = .ok a

/-- A structure that can be read has no fault in a member that its fields see. -/
structure Lawful (fs : Fields α) : Prop where
  faultless : ∀ {members a key j}, fs.Reads members a →
    Keyed.find? key members = some j → fs.fault? key j = none

theorem reads_start (a : α) (members : List (String × Json)) : (start a).Reads members a := ⟨rfl⟩

theorem lawful_start (a : α) : (start a).Lawful := ⟨fun _ _ ↦ rfl⟩

section

variable {fs : Fields (β → α)} {decode : Decoder β} {absent : Except DecodeError β}
  {short : Option β} {f : β → α} {a : α} {b : β}

theorem ofMembers_field : (fs.field key decode absent short).ofMembers members =
    fs.ofMembers members >>= fun f ↦ (read decode absent (Keyed.find? key members)).map f := by
  refine congrArg (fs.ofMembers members >>= ·) (funext fun f ↦ ?_)
  cases Keyed.find? key members <;> rfl

theorem Reads.field (h : fs.Reads members f)
    (hb : read decode absent (Keyed.find? key members) = .ok b) :
    (fs.field key decode absent short).Reads members (f b) := by
  refine ⟨?_⟩
  rw [ofMembers_field, h.ofMembers, hb]
  rfl

theorem Reads.exists_of_field (h : (fs.field key decode absent short).Reads members a) :
    ∃ f b, fs.Reads members f ∧ read decode absent (Keyed.find? key members) = .ok b ∧
      f b = a := by
  have hmembers := h.ofMembers
  rw [ofMembers_field] at hmembers
  cases hf : fs.ofMembers members with
  | error e =>
    rw [hf] at hmembers
    cases hmembers
  | ok f =>
    cases hb : read decode absent (Keyed.find? key members) with
    | error e =>
      rw [hf, hb] at hmembers
      cases hmembers
    | ok b =>
      rw [hf, hb] at hmembers
      exact ⟨f, b, ⟨hf⟩, rfl, Except.ok.inj hmembers⟩

theorem Lawful.field (h : fs.Lawful) : (fs.field key decode absent short).Lawful := by
  refine ⟨fun {members a other j} hread hfind ↦ ?_⟩
  obtain ⟨f, b, hf, hb, -⟩ := hread.exists_of_field
  unfold Fields.field
  dsimp only
  split
  case isTrue hkey =>
    rw [← hkey, hfind] at hb
    rw [show decode j = .ok b from hb]
  case isFalse => exact h.faultless hf hfind

theorem Reads.default {value : β} (h : fs.Reads members f)
    (hb : read decode (.ok value) (Keyed.find? key members) = .ok b) :
    (fs.default key decode value).Reads members (f b) :=
  h.field hb

theorem Reads.exists_of_default {value : β} (h : (fs.default key decode value).Reads members a) :
    ∃ f b, fs.Reads members f ∧ read decode (.ok value) (Keyed.find? key members) = .ok b ∧
      f b = a :=
  h.exists_of_field

theorem Reads.required (h : fs.Reads members f)
    (hb : read decode (.error (.missingField key)) (Keyed.find? key members) = .ok b) :
    (fs.required key decode).Reads members (f b) :=
  h.field hb

theorem Reads.exists_of_required (h : (fs.required key decode).Reads members a) :
    ∃ f b, fs.Reads members f ∧
      read decode (.error (.missingField key)) (Keyed.find? key members) = .ok b ∧ f b = a :=
  h.exists_of_field

theorem Lawful.default {value : β} (h : fs.Lawful) : (fs.default key decode value).Lawful :=
  h.field

theorem Lawful.required (h : fs.Lawful) : (fs.required key decode).Lawful := h.field

end

section

variable {fs : Fields (Option β → α)} {decode : Decoder β} {f : Option β → α} {a : α}
  {x : Option β}

theorem Reads.optional (h : fs.Reads members f)
    (hx : read (Decoder.option decode) (.ok none) (Keyed.find? key members) = .ok x) :
    (fs.optional key decode).Reads members (f x) :=
  h.field hx

theorem Reads.exists_of_optional (h : (fs.optional key decode).Reads members a) :
    ∃ f x, fs.Reads members f ∧
      read (Decoder.option decode) (.ok none) (Keyed.find? key members) = .ok x ∧ f x = a :=
  h.exists_of_field

theorem Lawful.optional (h : fs.Lawful) : (fs.optional key decode).Lawful := h.field

end

variable {fs : Fields α}

theorem firstFault_eq_none_iff :
    fs.firstFault members = none ↔ ∀ e ∈ members, fs.fault? e.1 e.2 = none := by
  induction members with
  | nil => simp [firstFault]
  | cons head rest ih =>
    rw [firstFault, List.forall_mem_cons, ← ih]
    cases fs.fault? head.1 head.2 <;> simp

theorem reads_of_decode_object {name : String} {a : α}
    (h : fs.decode name (.object members) = .ok a) : fs.Reads members a := by
  rw [decode, decodeMembers] at h
  split at h
  · cases h
  · exact ⟨h⟩

/-- A structure is read off an object with ascending members as its fields say. -/
theorem decode_object_iff (lawful : fs.Lawful) (h : Keyed.Ascending members) (name : String)
    (a : α) : fs.decode name (.object members) = .ok a ↔ fs.Reads members a := by
  refine ⟨reads_of_decode_object, fun hread ↦ ?_⟩
  rw [decode, decodeMembers,
    firstFault_eq_none_iff.2 fun e he ↦ lawful.faultless hread (h.find?_of_mem he)]
  exact hread.ofMembers

end Fields

end EtcdBackup
