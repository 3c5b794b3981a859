import Mathlib.Algebra.Group.Nat.Defs
import EtcdBackup.Proofs.Time.Calendar
import EtcdBackup.Time.Parser
import EtcdBackup.Time.Printer

/-!
# Times on the wire

A time is written with all the digits that it needs, so it is read back as it was
(`Instant.parse_text`): every number stands with a fixed width or in front of a sign that is no
digit, a leap second as second 60, and the year with a sign where four digits do not suffice. Of
moments in general that is not so: a leap second inside a minute is written as the second behind
it, and read back as that.
-/

set_option autoImplicit false
set_option relaxedAutoImplicit false

namespace EtcdBackup

/-! ### Numbers -/

section

variable {width n : Nat}

theorem toList_padded (width n : Nat) : (padded width n).toList =
    List.replicate (width - (Nat.toDigits 10 n).length) '0' ++ Nat.toDigits 10 n := by
  simp [padded, Nat.toString_eq_repr, Nat.repr_eq_ofList_toDigits]

theorem isDigit_padded (width n : Nat) : ∀ c ∈ (padded width n).toList, c.isDigit := by
  intro c hc
  rw [toList_padded] at hc
  rcases List.mem_append.1 hc with hc | hc
  · rw [(List.mem_replicate.1 hc).2]
    rfl
  · exact Nat.isDigit_of_mem_toDigits (by decide) (by decide) hc

theorem length_padded (hwidth : 0 < width) (h : n < 10 ^ width) :
    (padded width n).toList.length = width := by
  have := (Nat.length_toDigits_le_iff (b := 10) (by decide) hwidth).2 h
  rw [toList_padded, List.length_append, List.length_replicate]
  omega

theorem padded_ne_nil (width n : Nat) : (padded width n).toList ≠ [] := by
  rw [toList_padded]
  exact List.append_ne_nil_of_right_ne_nil _ (Nat.toDigits_ne_nil)

/-- The number that some digits stand for. -/
def digitsValue (cs : List Char) : Nat := cs.foldl (fun n c ↦ n * 10 + (c.toNat - 48)) 0

theorem digitsValue_padded (width n : Nat) : digitsValue (padded width n).toList = n := by
  have hzeros (k : Nat) : (List.replicate k '0').foldl (fun n c ↦ n * 10 + (c.toNat - 48)) 0 =
      0 := by
    induction k with
    | zero => rfl
    | succ k ih => exact ih
  have hstep : (fun (n : Nat) (c : Char) ↦ n * 10 + (c.toNat - 48)) =
      fun n c ↦ 10 * n + (c.toNat - '0'.toNat) := by
    funext n c
    rw [Nat.mul_comm]
    rfl
  rw [digitsValue, toList_padded, List.foldl_append, hzeros, hstep]
  exact Nat.ofDigitChars_toDigits (by decide) (by decide)

end

namespace Instant.Parser

open Text

/-! ### Reading numbers and separators -/

variable {ds rest : List Char} {width n : Nat}

theorem takeWhile_isDigit_append (hds : ∀ c ∈ ds, c.isDigit)
    (hrest : ∀ c ∈ rest.head?, c.isDigit = false) : (ds ++ rest).takeWhile Char.isDigit = ds := by
  rw [List.takeWhile_append_of_pos hds]
  cases rest with
  | nil => exact List.append_nil ds
  | cons c rest =>
    rw [List.takeWhile_cons_of_neg (Bool.eq_false_iff.1 (hrest c rfl)), List.append_nil]

/-- Digits are read up to what is no digit, if they are not more than the width admits. -/
theorem digits_append {width : Option Nat} (hds : ∀ c ∈ ds, c.isDigit) (hne : ds ≠ [])
    (hrest : ∀ c ∈ rest.head?, c.isDigit = false) (hwidth : ∀ w ∈ width, ds.length ≤ w)
    (hlt : digitsValue ds < 2 ^ 63) : digits width (ds ++ rest) = .ok (digitsValue ds, rest) := by
  obtain ⟨c, ds', rfl⟩ := List.exists_cons_of_ne_nil hne
  have hrun := takeWhile_isDigit_append hds hrest
  have hdigit := hds c List.mem_cons_self
  have hvalue : (c :: ds').foldl (fun n c ↦ n * 10 + (c.toNat - 48)) 0 < 1 <<< 63 := hlt
  simp only [List.cons_append] at hrun ⊢
  simp only [digits, hdigit, not_true_eq_false, if_false, hrun]
  cases width with
  | none =>
    dsimp only
    rw [if_pos hvalue, ← List.cons_append, List.drop_left]
    rfl
  | some w =>
    simp only [List.take_of_length_le (hwidth w rfl)]
    rw [if_pos hvalue, ← List.cons_append, List.drop_left]
    rfl

/-- A padded number is read back. -/
theorem digits_padded {limit : Option Nat} (hrest : ∀ c ∈ rest.head?, c.isDigit = false)
    (hlimit : ∀ w ∈ limit, (padded width n).toList.length ≤ w) (hlt : n < 2 ^ 63) :
    digits limit ((padded width n).toList ++ rest) = .ok (n, rest) := by
  have h := digits_append (isDigit_padded width n) (padded_ne_nil width n) hrest hlimit
  rw [digitsValue_padded] at h
  exact h hlt

theorem isWhite_eq_false_of_isDigit {c : Char} (h : c.isDigit) : isWhite c = false := by
  have hrange : 48 ≤ c.toNat ∧ c.toNat ≤ 57 := by
    simpa [Char.isDigit, UInt32.le_iff_toNat_le] using h
  simp only [isWhite, Bool.or_eq_false_iff, Bool.and_eq_false_iff, decide_eq_false_iff_not]
  omega

theorem trimStart_cons {c : Char} (h : isWhite c = false) (rest : List Char) :
    trimStart (c :: rest) = c :: rest :=
  List.dropWhile_cons_of_neg (Bool.eq_false_iff.1 h)

theorem trimStart_padded (width n : Nat) (rest : List Char) :
    trimStart ((padded width n).toList ++ rest) = (padded width n).toList ++ rest := by
  obtain ⟨c, ds, hds⟩ := List.exists_cons_of_ne_nil (padded_ne_nil width n)
  have hc : c.isDigit := isDigit_padded width n c (hds ▸ List.mem_cons_self)
  rw [hds]
  exact trimStart_cons (isWhite_eq_false_of_isDigit hc) _

theorem separator_cons {c : Char} (h : isWhite c = false) (rest : List Char) :
    separator c (c :: rest) = .ok rest := by
  rw [separator, trimStart_cons h]
  exact if_pos rfl

theorem bounded_padded {low high : Nat} (hrest : ∀ c ∈ rest.head?, c.isDigit = false)
    (hlow : low ≤ n) (hhigh : n ≤ high) (hlt : n < 100) :
    bounded low high ((padded 2 n).toList ++ rest) = .ok (n, rest) := by
  have hdigits : digits (some 2) ((padded 2 n).toList ++ rest) = .ok (n, rest) := by
    refine digits_padded hrest ?_ (by omega)
    rintro w ⟨⟩
    exact Nat.le_of_eq (length_padded (by decide) hlt)
  unfold bounded
  rw [trimStart_padded, hdigits]
  exact if_pos ⟨hlow, hhigh⟩

/-- A year that was read, if it is one of 32 bits. -/
def yearInRange (y : Int) (rest : List Char) : Except TimeError (Int × List Char) :=
  if Int32.minValue.toInt ≤ y ∧ y ≤ Int32.maxValue.toInt then .ok (y, rest) else .error .outOfRange

theorem year_minus (cs : List Char) :
    year ('-' :: cs) = digits none cs >>= fun p ↦ yearInRange (-(p.1 : Int)) p.2 := rfl

theorem year_plus (cs : List Char) :
    year ('+' :: cs) = digits none cs >>= fun p ↦ yearInRange (p.1 : Int) p.2 := rfl

theorem year_of_isDigit {c : Char} (h : c.isDigit) (cs : List Char) :
    year (c :: cs) = digits (some 4) (c :: cs) >>= fun p ↦ yearInRange (p.1 : Int) p.2 := by
  unfold year
  rw [trimStart_cons (isWhite_eq_false_of_isDigit h)]
  split
  case h_1 heq | h_2 heq =>
    cases heq
    cases h
  case h_3 => rfl

/-- A year is read back in front of a dash. -/
theorem year_yearText {y : Int} (hlow : -262143 ≤ y) (hhigh : y ≤ 262143) (rest : List Char) :
    year ((Date.yearText y).toList ++ '-' :: rest) = .ok (y, '-' :: rest) := by
  have hdash : ∀ c ∈ ('-' :: rest).head?, c.isDigit = false := by
    rintro c ⟨⟩
    rfl
  have hrange : Int32.minValue.toInt ≤ y ∧ y ≤ Int32.maxValue.toInt := by
    refine ⟨Int.le_trans (by decide) hlow, Int.le_trans hhigh (by decide)⟩
  unfold Date.yearText
  split
  case isTrue hshort =>
    have hlength : (padded 4 y.toNat).toList.length = 4 := length_padded (by decide) (by omega)
    have hdigits : digits (some 4) ((padded 4 y.toNat).toList ++ '-' :: rest) =
        .ok (y.toNat, '-' :: rest) := by
      refine digits_padded hdash ?_ (by omega)
      rintro w ⟨⟩
      exact Nat.le_of_eq hlength
    obtain ⟨c, ds, hds⟩ := List.exists_cons_of_ne_nil (padded_ne_nil 4 y.toNat)
    have hdigit : c.isDigit := isDigit_padded 4 y.toNat c (hds ▸ List.mem_cons_self)
    have hy : ((y.toNat : Nat) : Int) = y := by omega
    rw [hds, List.cons_append] at hdigits ⊢
    rw [year_of_isDigit hdigit, hdigits]
    change yearInRange ((y.toNat : Nat) : Int) _ = _
    rw [hy]
    exact if_pos hrange
  case isFalse hlong =>
    have hdigits : digits none ((padded 4 y.natAbs).toList ++ '-' :: rest) =
        .ok (y.natAbs, '-' :: rest) := digits_padded hdash (by rintro w ⟨⟩) (by omega)
    rw [String.toList_append]
    by_cases hneg : y < 0
    · have hy : -((y.natAbs : Nat) : Int) = y := by omega
      rw [if_pos hneg]
      refine (year_minus ((padded 4 y.natAbs).toList ++ '-' :: rest)).trans ?_
      rw [hdigits]
      change yearInRange (-((y.natAbs : Nat) : Int)) _ = _
      rw [hy]
      exact if_pos hrange
    · have hy : ((y.natAbs : Nat) : Int) = y := by omega
      rw [if_neg hneg]
      refine (year_plus ((padded 4 y.natAbs).toList ++ '-' :: rest)).trans ?_
      rw [hdigits]
      change yearInRange ((y.natAbs : Nat) : Int) _ = _
      rw [hy]
      exact if_pos hrange

/-- A fraction is read back in front of the sign of universal time. -/
theorem fraction_padded (hpos : 0 < width) (hwidth : width ≤ 9) (hlt : n < 10 ^ width)
    (rest : List Char) : fraction (("." ++ padded width n).toList ++ 'Z' :: rest) =
      .ok (n * 10 ^ (9 - width), 'Z' :: rest) := by
  have hlength := length_padded hpos hlt
  have hZ : ∀ c ∈ ('Z' :: rest).head?, c.isDigit = false := by
    rintro c ⟨⟩
    rfl
  have hbound : n < 2 ^ 63 :=
    Nat.lt_of_lt_of_le hlt (Nat.le_trans (Nat.pow_le_pow_right (by decide) hwidth) (by decide))
  have hdigits : digits (some 9) ((padded width n).toList ++ 'Z' :: rest) =
      .ok (n, 'Z' :: rest) := by
    refine digits_padded hZ ?_ hbound
    rintro w ⟨⟩
    rwa [hlength]
  have hcount : ((padded width n).toList ++ 'Z' :: rest).length - ('Z' :: rest).length = width := by
    rw [List.length_append, hlength, Nat.add_sub_cancel]
  rw [String.toList_append]
  change (digits (some 9) ((padded width n).toList ++ 'Z' :: rest) >>= fun p ↦ Except.ok
    (p.1 * 10 ^ (9 - (((padded width n).toList ++ 'Z' :: rest).length - p.2.length)),
      p.2.dropWhile Char.isDigit)) = _
  rw [hdigits]
  change Except.ok (n * 10 ^ (9 - (((padded width n).toList ++ 'Z' :: rest).length -
    ('Z' :: rest).length)), 'Z' :: rest) = _
  rw [hcount]

theorem fraction_fractionText (t : Moment) (rest : List Char) :
    fraction (t.fractionText.toList ++ 'Z' :: rest) =
      .ok (t.nanos % 1000000000, 'Z' :: rest) := by
  have hlt : t.nanos % 1000000000 < 1000000000 := Nat.mod_lt _ (by decide)
  unfold Moment.fractionText
  generalize t.nanos % 1000000000 = n at hlt
  dsimp only
  split
  case isTrue hzero =>
    rw [hzero]
    rfl
  case isFalse =>
    split
    case isTrue hmillis =>
      have hexact : n / 1000000 * 10 ^ (9 - 3) = n := by omega
      rw [fraction_padded (by decide) (by decide) (by omega), hexact]
    case isFalse =>
      split
      case isTrue hmicros =>
        have hexact : n / 1000 * 10 ^ (9 - 6) = n := by omega
        rw [fraction_padded (by decide) (by decide) (by omega), hexact]
      case isFalse =>
        rw [fraction_padded (by decide) (by decide) hlt]
        simp

end Instant.Parser

namespace Moment

/-- The second of a minute as it is written, which is 60 within a leap second. -/
def writtenSecond (t : Moment) : Nat := t.secondOfDay % 60 + if t.isLeap then 1 else 0

theorem writtenSecond_le (t : Moment) : t.writtenSecond ≤ 60 := by
  unfold writtenSecond
  split <;> omega

theorem toList_text (t : Moment) : t.text.toList = (Date.yearText t.date.year).toList ++ '-' ::
    ((padded 2 t.date.month).toList ++ '-' :: ((padded 2 t.date.day).toList ++ 'T' ::
      ((padded 2 (t.secondOfDay / 3600)).toList ++ ':' ::
        ((padded 2 (t.secondOfDay / 60 % 60)).toList ++ ':' ::
          ((padded 2 t.writtenSecond).toList ++ (t.fractionText.toList ++ ['Z'])))))) := by
  simp [text, Date.text, clockText, writtenSecond]

theorem head?_fractionText (t : Moment) (rest : List Char) :
    ∀ c ∈ (t.fractionText.toList ++ 'Z' :: rest).head?, c.isDigit = false := by
  unfold fractionText
  dsimp only
  split
  · rintro c ⟨⟩
    rfl
  · split
    · rw [String.toList_append]
      rintro c ⟨⟩
      rfl
    · split <;>
      · rw [String.toList_append]
        rintro c ⟨⟩
        rfl

theorem secondOfDay_lt (t : Moment) : t.secondOfDay < 86400 := by
  unfold secondOfDay
  omega

theorem fdiv_seconds (t : Moment) : Int.fdiv t.seconds 86400 = t.seconds / 86400 :=
  Int.fdiv_eq_ediv_of_nonneg _ (by decide)

theorem year_date (t : Moment) : -262143 ≤ t.date.year ∧ t.date.year ≤ 262142 := by
  obtain ⟨hmin, hmax, -⟩ := t.valid
  unfold minSeconds at hmin
  unfold maxSeconds at hmax
  refine Date.year_ofDayNumber ?_ ?_ <;> rw [fdiv_seconds] <;> omega

end Moment

namespace Instant

open Moment Parser

/-- The written second, and the nanoseconds that belong to it. -/
theorem second_and_nanos (t : Instant) :
    (if t.writtenSecond = 60 then (59, t.nanos % 1000000000 + 1000000000)
      else (t.writtenSecond, t.nanos % 1000000000)) = (t.secondOfDay % 60, t.nanos) := by
  have hnanos := t.valid.2.2
  unfold writtenSecond
  by_cases h : 1000000000 ≤ t.nanos
  · have hisLeap : t.isLeap := decide_eq_true h
    have hlast : t.secondOfDay % 60 = 59 := by
      have := t.regular hisLeap
      unfold secondOfDay
      omega
    have hwhole : t.nanos % 1000000000 + 1000000000 = t.nanos := by omega
    rw [hisLeap, hlast, hwhole]
    rfl
  · have hisLeap : t.isLeap = false := decide_eq_false h
    have hshort : t.secondOfDay % 60 ≠ 60 := by omega
    rw [hisLeap, Nat.mod_eq_of_lt (Nat.lt_of_not_le h)]
    exact if_neg hshort

/-- A time is put together again from what is written. -/
theorem assemble_written (t : Instant) :
    assemble t.date (t.secondOfDay / 3600) (t.secondOfDay / 60 % 60) t.writtenSecond
      (t.nanos % 1000000000) 0 = .ok t := by
  have hdate : -262143 ≤ t.date.year ∧ t.date.year ≤ 262142 ∧ t.date.Valid :=
    ⟨t.year_date.1, t.year_date.2, Date.valid_ofDayNumber _⟩
  have hseconds : t.date.dayNumber * 86400 + ((t.secondOfDay / 3600 * 3600 +
      t.secondOfDay / 60 % 60 * 60 + t.secondOfDay % 60 : Nat) : Int) - 0 = t.seconds := by
    rw [date, Date.dayNumber_ofDayNumber, fdiv_seconds]
    unfold secondOfDay
    omega
  unfold assemble
  rw [if_neg (not_not_intro hdate), if_neg (by decide), second_and_nanos]
  dsimp only
  rw [hseconds, ofUnix?_eq_some]

/-- A time is read back as it was written. -/
theorem parse_text (t : Instant) : parse t.text = .ok t := by
  obtain ⟨hmonth, hmonth', hday, hday'⟩ : t.date.Valid := Date.valid_ofDayNumber _
  obtain ⟨hyear, hyear'⟩ := t.year_date
  have hsecond := t.secondOfDay_lt
  have hlength := Date.monthLength_le t.date.year t.date.month
  have hwritten := t.writtenSecond_le
  have hsign {c : Char} (h : c.isDigit = false) (rest : List Char) :
      ∀ d ∈ (c :: rest).head?, d.isDigit = false := by
    rintro d ⟨⟩
    exact h
  have hdivider (rest : List Char) : divider ('T' :: rest) = .ok rest := rfl
  have hoffset : offset (Text.trimStart ['Z']) = .ok (0, []) := rfl
  have hend : (Text.trimStart []).isEmpty := rfl
  unfold parse
  simp only [toList_text, year_yearText hyear (by omega : t.date.year ≤ 262143),
    separator_cons (show Text.isWhite '-' = false by rfl),
    separator_cons (show Text.isWhite ':' = false by rfl),
    bounded_padded (hsign (c := '-') rfl _) hmonth hmonth' (by omega),
    bounded_padded (hsign (c := 'T') rfl _) hday (by omega : t.date.day ≤ 31) (by omega),
    hdivider,
    bounded_padded (hsign (c := ':') rfl _) (Nat.zero_le _)
      (by omega : t.secondOfDay / 3600 ≤ 23) (by omega),
    bounded_padded (hsign (c := ':') rfl _) (Nat.zero_le _)
      (by omega : t.secondOfDay / 60 % 60 ≤ 59) (by omega),
    bounded_padded (t.head?_fractionText []) (Nat.zero_le _) hwritten (by omega),
    fraction_fractionText, hoffset, hend, bind, Except.bind]
  exact t.assemble_written

end Instant

end EtcdBackup
