import EtcdBackup.Archive
import EtcdBackup.Proofs.Text.Utf8

/-!
# Archives are unpacked as they were packed

A compressed file has its content in blocks, and an archive has each entry behind a header that
tells its kind and its length. Both are read from the front, so each piece is read with whatever
stands behind it (`Gzip.readBlocks?_blocks`, `Tar.readEntries?_header`).

An entry is found again under its path if the path has no zero byte, which would end it, and no
slash at its end (`Tar.Entry.Fits`); paths that do not fit their field are no exception.
-/

set_option autoImplicit false
set_option relaxedAutoImplicit false

namespace EtcdBackup

theorem Bytes.length_le_of_mem_pieces {α : Type} {size : Nat} (hsize : 0 < size) {xs piece : List α}
    (h : piece ∈ pieces size xs) : piece.length ≤ size := by
  fun_induction pieces size xs with
  | case1 => cases h
  | case2 x xs ih =>
    rcases List.mem_cons.1 h with rfl | h
    · rw [List.length_cons, List.length_take]
      omega
    · exact ih h

/-! ### Compression -/

namespace Gzip

theorem readBlocks?_block (isLast : Bool) {piece : Bytes} (h : piece.length ≤ blockLimit)
    (rest : Bytes) : readBlocks? (block isLast piece ++ rest) =
      if isLast then some (piece, rest)
      else (readBlocks? rest).map fun (content, rest') ↦ (piece ++ content, rest') := by
  have number {n : Nat} (hn : n ≤ blockLimit) :
      Bytes.toNumber [UInt8.ofNat n, UInt8.ofNat (n / 256)] = n :=
    (Bytes.toNumber_ofNumber 2 n).trans (Nat.mod_eq_of_lt (Nat.lt_succ_of_le hn))
  have hrest : ¬(piece ++ rest).length < piece.length := by
    rw [List.length_append]
    omega
  simp only [block, Bytes.ofNumber, List.cons_append, List.nil_append]
  rw [readBlocks?]
  simp only [number h, number (Nat.sub_le _ _), ne_eq, not_true_eq_false, hrest, or_self, if_false,
    List.take_left, List.drop_left]
  cases isLast <;> rfl

theorem readBlocks?_blocks (pieces : List Bytes) (h : ∀ piece ∈ pieces, piece.length ≤ blockLimit)
    (rest : Bytes) : readBlocks? (blocks pieces ++ rest) = some (pieces.flatten, rest) := by
  fun_induction blocks pieces with
  | case1 => exact readBlocks?_block true (Nat.zero_le _) rest
  | case2 piece =>
    rw [readBlocks?_block true (h piece List.mem_cons_self), List.flatten_singleton]
    rfl
  | case3 piece pieces _ ih =>
    obtain ⟨hpiece, hpieces⟩ := List.forall_mem_cons.1 h
    rw [List.append_assoc, readBlocks?_block false hpiece, ih hpieces]
    rfl

theorem read?_write (content : Bytes) : read? (write content) = some content := by
  have hblocks := readBlocks?_blocks (Bytes.pieces blockLimit content)
    (fun _ ↦ Bytes.length_le_of_mem_pieces (by decide))
    (Bytes.ofNumber 4 (Crc32.checksum content).toNat ++ Bytes.ofNumber 4 content.length)
  rw [Bytes.flatten_pieces] at hblocks
  unfold read? write
  simp only [List.append_assoc, List.take_left, List.drop_left, hblocks, if_true]

end Gzip

/-! ### Headers -/

namespace Tar

theorem length_octalDigits (count n : Nat) : (octalDigits count n).length = count := by
  induction count generalizing n with
  | zero => rfl
  | succ count ih => rw [octalDigits, List.length_append, ih, List.length_singleton]

theorem toNat_octalDigit (n : Nat) : (UInt8.ofNat (48 + n % 8)).toNat = 48 + n % 8 :=
  Utf8.toNat_ofNat (by omega)

theorem octalNumber_octalDigits (count n acc : Nat) (rest : Bytes) :
    octalNumber acc (octalDigits count n ++ rest) =
      octalNumber (8 ^ count * acc + n % 8 ^ count) rest := by
  induction count generalizing n rest with
  | zero => rw [Nat.pow_zero, Nat.one_mul, Nat.mod_one, Nat.add_zero]; rfl
  | succ count ih =>
    have isDigit : 0x30 ≤ UInt8.ofNat (48 + n % 8) ∧ UInt8.ofNat (48 + n % 8) ≤ 0x37 := by
      rw [UInt8.le_iff_toNat_le, UInt8.le_iff_toNat_le, toNat_octalDigit]
      have hlt : n % 8 < 8 := Nat.mod_lt n (by decide)
      exact ⟨Nat.le_add_right 48 _, Nat.add_le_add_left (Nat.le_of_lt_succ hlt) 48⟩
    rw [octalDigits, List.append_assoc, List.singleton_append, ih, octalNumber, if_pos isDigit,
      toNat_octalDigit, Nat.add_sub_cancel_left, Nat.pow_succ', Nat.mod_mul]
    congr 1
    rw [Nat.mul_add, ← Nat.mul_assoc]
    omega

/-- The first of some octal digits is no mark of a number in bytes. -/
theorem readNumber_octalDigits (count n : Nat) (rest : Bytes) :
    readNumber (octalDigits (count + 1) n ++ rest) =
      octalNumber (n % 8 ^ (count + 1)) rest := by
  have digits : ∀ count n, ∀ b ∈ octalDigits count n, b.toNat < 56 := by
    intro count
    induction count with
    | zero => exact fun _ ↦ List.forall_mem_nil _
    | succ count ih =>
      intro n b hb
      rw [octalDigits, List.mem_append, List.mem_singleton] at hb
      rcases hb with hb | rfl
      · exact ih (n / 8) b hb
      · rw [toNat_octalDigit]
        omega
  obtain ⟨b, others, hcons⟩ : ∃ b others, octalDigits (count + 1) n = b :: others :=
    List.exists_cons_of_length_eq_add_one (length_octalDigits (count + 1) n)
  have hb : b ≠ 0x80 := by
    rintro rfl
    exact absurd (digits (count + 1) n 0x80 (hcons ▸ List.mem_cons_self)) (by decide)
  have hread : readNumber (octalDigits (count + 1) n ++ rest) =
      octalNumber 0 (octalDigits (count + 1) n ++ rest) := by
    rw [hcons, List.cons_append, readNumber]
    rintro rest' heq
    exact hb (List.cons.inj heq).1
  rw [hread, octalNumber_octalDigits, Nat.mul_zero, Nat.zero_add]

theorem length_numberField {width : Nat} (h : 0 < width) (n : Nat) :
    (numberField width n).length = width := by
  unfold numberField
  split
  · rw [List.length_append, length_octalDigits, List.length_singleton]
    omega
  · rw [List.length_cons, List.length_reverse, Bytes.length_ofNumber]
    omega

/-- A number is read from its field, in digits or in bytes. -/
theorem readNumber_numberField {width n : Nat} (h : 1 < width) (hn : n < 256 ^ (width - 1)) :
    readNumber (numberField width n) = n := by
  obtain ⟨count, rfl⟩ : ∃ count, width = count + 2 := ⟨width - 2, by omega⟩
  unfold numberField
  split
  case isTrue small =>
    change n < 8 ^ (count + 1) at small
    change readNumber (octalDigits (count + 1) n ++ [0]) = n
    rw [readNumber_octalDigits, Nat.mod_eq_of_lt small]
    rfl
  case isFalse =>
    rw [readNumber, List.reverse_reverse, Bytes.toNumber_ofNumber]
    exact Nat.mod_eq_of_lt hn

theorem length_textField (width : Nat) (text : Bytes) : (textField width text).length = width := by
  rw [textField, Bytes.padTo, List.length_append, List.length_replicate, List.length_take]
  omega

/-- Text without a zero byte is read from its field, if it fits. -/
theorem readText_textField {width : Nat} {text : Bytes} (hzero : 0 ∉ text)
    (fits : text.length ≤ width) : readText (textField width text) = text := by
  have all : ∀ b ∈ text, decide (b ≠ 0) = true := fun b hb ↦
    decide_eq_true fun h ↦ hzero (h ▸ hb)
  rw [readText, textField, Bytes.padTo, List.take_of_length_le fits,
    List.takeWhile_append_of_pos all]
  cases width - text.length with
  | zero => exact List.append_nil text
  | succ n => exact List.append_nil text

theorem length_headerStart (kind : Kind) (path : Bytes) (length : Nat) :
    (headerStart kind path length).length = 148 := by
  simp only [headerStart, List.length_append, length_textField,
    length_numberField (Nat.succ_pos 7), length_numberField (Nat.succ_pos 11)]

theorem length_headerEnd (kind : Kind) : (headerEnd kind).length = 356 := by
  simp only [headerEnd, List.length_cons, List.length_append, List.length_replicate,
    List.length_nil]

theorem length_header (kind : Kind) (path : Bytes) (length : Nat) :
    (header kind path length).length = recordLength := by
  simp [header, length_headerStart, length_headerEnd, length_octalDigits, recordLength]

theorem checksum_lt {start rest : Bytes} (h : start.length + rest.length < 1000) :
    checksum start rest < 8 ^ 6 := by
  have bound (bs : Bytes) (sum : Nat) :
      bs.foldl (fun sum (b : UInt8) ↦ sum + b.toNat) sum ≤ sum + 255 * bs.length := by
    induction bs generalizing sum with
    | nil => exact Nat.le_refl _
    | cons b bs ih =>
      have := ih (sum + b.toNat)
      have hb := b.toNat_lt
      rw [List.foldl_cons, List.length_cons]
      omega
  have hbound := bound (start ++ List.replicate 8 0x20 ++ rest) 0
  rw [List.length_append, List.length_append, List.length_replicate] at hbound
  unfold checksum
  omega

theorem part_append (before : Bytes) {bs : Bytes} {start length : Nat}
    (hstart : before.length = start) (hlength : bs.length = length) (after : Bytes) :
    part (before ++ (bs ++ after)) start length = bs := by
  rw [part, List.drop_left' hstart, List.take_left' hlength]

theorem headD_header (kind : Kind) (path : Bytes) (length : Nat) :
    ((header kind path length).drop 156).headD 0 = kind.mark := by
  have hfront : (headerStart kind path length ++
      octalDigits 6 (checksum (headerStart kind path length) (headerEnd kind)) ++
        [0, 0x20]).length = 156 := by
    simp [length_headerStart, length_octalDigits]
  rw [header, List.drop_left' hfront]
  rfl

/-- A header tells the kind of the entry and its length. -/
theorem readHeader?_header (kind : Kind) (path : Bytes) {length : Nat} (h : length < 256 ^ 11) :
    readHeader? (header kind path length) = some (kind, length) := by
  have hlength := length_header kind path length
  have hkind : Kind.ofMark? kind.mark = some kind := by cases kind <;> rfl
  have hsum : readNumber (part (header kind path length) 148 8) =
      checksum (headerStart kind path length) (headerEnd kind) := by
    have hsplit : header kind path length = headerStart kind path length ++
        ((octalDigits 6 (checksum (headerStart kind path length) (headerEnd kind)) ++ [0, 0x20]) ++
          headerEnd kind) := by
      simp only [header, List.append_assoc]
    have hlt : checksum (headerStart kind path length) (headerEnd kind) < 8 ^ 6 :=
      checksum_lt (by rw [length_headerStart, length_headerEnd]; decide)
    rw [hsplit, part_append _ (length_headerStart _ _ _) (by simp [length_octalDigits]),
      readNumber_octalDigits, Nat.mod_eq_of_lt hlt]
    rfl
  have hstart : part (header kind path length) 0 148 = headerStart kind path length := by
    have hsplit : header kind path length = [] ++ (headerStart kind path length ++
        (octalDigits 6 (checksum (headerStart kind path length) (headerEnd kind)) ++ ([0, 0x20] ++
          headerEnd kind))) := by
      simp only [header, List.append_assoc, List.nil_append]
    rw [hsplit]
    exact part_append [] rfl (length_headerStart _ _ _) _
  have hend : part (header kind path length) 156 356 = headerEnd kind := by
    have hsplit : header kind path length = (headerStart kind path length ++
        octalDigits 6 (checksum (headerStart kind path length) (headerEnd kind)) ++ [0, 0x20]) ++
          (headerEnd kind ++ []) := by
      simp only [header, List.append_assoc, List.append_nil]
    rw [hsplit, part_append _ (by simp [length_headerStart, length_octalDigits])
      (length_headerEnd kind)]
  have hnumber : part (header kind path length) 124 12 = numberField 12 length := by
    have hsplit : header kind path length = (textField 100 path ++ numberField 8 kind.mode ++
        numberField 8 0 ++ numberField 8 0) ++ (numberField 12 length ++ (numberField 12 0 ++
          octalDigits 6 (checksum (headerStart kind path length) (headerEnd kind)) ++ [0, 0x20] ++
            headerEnd kind)) := by
      simp only [header, headerStart, List.append_assoc]
    rw [hsplit, part_append _ (by simp only [List.length_append, length_textField,
      length_numberField (Nat.succ_pos 7)]) (length_numberField (Nat.succ_pos 11) _)]
  unfold readHeader?
  rw [hlength, hsum, hstart, hend, headD_header, hkind, hnumber,
    readNumber_numberField (by decide) h, if_neg (by simp)]
  rfl

/-! ### Entries -/

theorem length_records (content : Bytes) : (records content).length =
    (content.length + recordLength - 1) / recordLength * recordLength := by
  rw [records, Bytes.padTo, List.length_append, List.length_replicate, recordLength]
  omega

/-- The front of an archive is an entry behind its header, and the rest is read as before. -/
theorem readEntries?_header (kind : Kind) (path : Bytes) {content : Bytes} (given : Option Bytes)
    (h : content.length < 256 ^ 11) (rest : Bytes) :
    readEntries? given (header kind path content.length ++ (records content ++ rest)) =
      let path := given.getD (readText (textField 100 path))
      match kind with
      | .longPath => readEntries? (some (readText content)) rest
      | .file => (readEntries? none rest).map (⟨readPath path, some content⟩ :: ·)
      | .directory => (readEntries? none rest).map (⟨readPath path, none⟩ :: ·) := by
  have hheader := length_header kind path content.length
  have hzero : header kind path content.length ≠ List.replicate recordLength 0 := by
    intro heq
    have hmark := headD_header kind path content.length
    rw [heq] at hmark
    cases kind <;> exact absurd hmark (by decide)
  have htext : (header kind path content.length ++ (records content ++ rest)).take 100 =
      textField 100 path := by
    simp only [header, headerStart, List.append_assoc]
    exact List.take_left' (length_textField 100 path)
  have hcontent : part (header kind path content.length ++ (records content ++ rest)) recordLength
      content.length = content := by
    rw [records, Bytes.padTo, List.append_assoc]
    exact part_append _ hheader rfl _
  have hrest : (header kind path content.length ++ (records content ++ rest)).drop
      (recordLength + (content.length + recordLength - 1) / recordLength * recordLength) =
        rest := by
    rw [← List.append_assoc]
    exact List.drop_left' (by rw [List.length_append, hheader, length_records])
  have hshorter : rest.length <
      (header kind path content.length ++ (records content ++ rest)).length := by
    rw [List.length_append, List.length_append, hheader, recordLength]
    omega
  rw [readEntries?, List.take_left' hheader, if_neg hzero, readHeader?_header kind path h]
  simp only [hcontent, hrest, htext]
  exact dif_pos hshorter

theorem readEntries?_end (given : Option Bytes) :
    readEntries? given (List.replicate (2 * recordLength) 0) = some [] := by
  rw [readEntries?, if_pos (by rw [List.take_replicate]; rfl)]

/-- An entry that is found again under its path. -/
structure Entry.Fits (e : Entry) : Prop where
  whole : 0 ∉ Utf8.encode e.path
  name : (Utf8.encode e.path).getLast? ≠ some 0x2F
  path : (Utf8.encode e.path).length + 2 < 256 ^ 11
  content : ∀ content, e.content = some content → content.length < 256 ^ 11

theorem readText_append_zero {text : Bytes} (hzero : 0 ∉ text) : readText (text ++ [0]) = text := by
  have all : ∀ b ∈ text, decide (b ≠ 0) = true := fun b hb ↦
    decide_eq_true fun h ↦ hzero (h ▸ hb)
  rw [readText, List.takeWhile_append_of_pos all]
  exact List.append_nil text

/-- An entry has its path in its header or in an entry of its own in front. -/
theorem readEntries?_pack {kind : Kind} (isEntry : kind ≠ .longPath) {path content : Bytes}
    (hzero : 0 ∉ path) (hpath : path.length + 1 < 256 ^ 11) (h : content.length < 256 ^ 11)
    (rest : Bytes) :
    readEntries? none (pack kind path content ++ rest) =
      (readEntries? none rest).map
        (⟨readPath path, if kind = .file then some content else none⟩ :: ·) := by
  unfold pack
  by_cases short : path.length ≤ 100
  · rw [if_pos short, List.append_assoc, readEntries?_header kind path none h,
      readText_textField hzero short]
    cases kind with
    | file | directory => rfl
    | longPath => exact (isEntry rfl).elim
  · have hlong : (path ++ [0]).length < 256 ^ 11 := by
      rw [List.length_append]
      exact hpath
    rw [if_neg short]
    simp only [List.append_assoc]
    rw [readEntries?_header .longPath _ none hlong]
    dsimp only
    rw [readText_append_zero hzero, readEntries?_header kind path _ h]
    cases kind with
    | file | directory => rfl
    | longPath => exact (isEntry rfl).elim

theorem readEntries?_packEntry {e : Entry} (fits : e.Fits) (rest : Bytes) :
    readEntries? none (packEntry e ++ rest) = (readEntries? none rest).map (e :: ·) := by
  obtain ⟨path, content⟩ := e
  cases content with
  | some content =>
    have hread : readPath (Utf8.encode path) = path := by
      rw [readPath, if_neg fits.name, Utf8.lossy_encode]
    rw [packEntry, readEntries?_pack (by decide) fits.whole (Nat.lt_of_succ_lt fits.path)
      (fits.content content rfl), hread]
    rfl
  | none =>
    have hread : readPath (Utf8.encode path ++ [0x2F]) = path := by
      rw [readPath, List.getLast?_concat, if_pos rfl, List.dropLast_concat, Utf8.lossy_encode]
    have hzero : 0 ∉ Utf8.encode path ++ [0x2F] := by
      rw [List.mem_append, not_or]
      exact ⟨fits.whole, by decide⟩
    have hpath : (Utf8.encode path ++ [0x2F]).length + 1 < 256 ^ 11 := by
      rw [List.length_append]
      exact fits.path
    rw [packEntry, readEntries?_pack (by decide) hzero hpath (by decide), hread]
    rfl

/-- The entries of an archive are those that it was made of. -/
theorem read?_write {entries : List Entry} (fits : ∀ e ∈ entries, e.Fits) :
    read? (write entries) = some entries := by
  unfold read? write
  induction entries with
  | nil => exact readEntries?_end none
  | cons e entries ih =>
    obtain ⟨he, hentries⟩ := List.forall_mem_cons.1 fits
    rw [List.flatMap_cons, List.append_assoc, readEntries?_packEntry he, ih hentries]
    rfl

end Tar

/-- A packed file or directory is unpacked. -/
theorem Archive.unpack?_pack {name : String} {tree : FileTree}
    (fits : ∀ e ∈ Tar.entriesOf name tree, e.Fits) :
    unpack? (pack name tree) = some (Tar.entriesOf name tree) := by
  rw [unpack?, pack, Gzip.read?_write]
  exact Tar.read?_write fits

end EtcdBackup
