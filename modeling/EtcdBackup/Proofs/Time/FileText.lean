import Mathlib.Data.List.Basic
import EtcdBackup.Proofs.Time.Text

/-!
# Times at the end of names

A time is written into a name behind text of any kind, which may look like a time itself, and its
year has no fixed width. It is read from its end: all behind the year has a fixed length, and in
front of that digits and other characters take turns, so where each run begins is no matter of
choice (`Text.eq_of_run`). What stands between the last digit in front of the year and the year is
the dash and the sign, if there is one.

So a name that ends in a time determines the second that it lies in, where a leap second is one of
its own, and the text in front of it, as long as leap seconds end minutes
(`Moment.append_fileText_inj`).
-/

set_option autoImplicit false
set_option relaxedAutoImplicit false

namespace EtcdBackup

/-- A run at the end of a text is found again, if what is in front of it ends in another kind of
character. -/
theorem Text.eq_of_run {kind : Char → Bool} {before behind : Bool} (apart : before ≠ behind)
    {front front' run run' : List Char}
    (hfront : ∀ c ∈ front.getLast?, kind c = before) (hrun : ∀ c ∈ run, kind c = behind)
    (hfront' : ∀ c ∈ front'.getLast?, kind c = before) (hrun' : ∀ c ∈ run', kind c = behind)
    (h : front ++ run = front' ++ run') : front = front' ∧ run = run' := by
  have hnil {cs ds : List Char} (hlast : ∀ c ∈ (cs ++ ds).getLast?, kind c = before)
      (hds : ∀ c ∈ ds, kind c = behind) : ds = [] := by
    by_contra hne
    rw [List.getLast?_append_of_ne_nil cs hne, List.getLast?_eq_some_getLast hne] at hlast
    exact apart ((hlast _ rfl).symm.trans (hds _ (List.getLast_mem hne)))
  rcases List.append_eq_append_iff.1 h with ⟨between, rfl, rfl⟩ | ⟨between, rfl, rfl⟩
  · obtain rfl := hnil hfront' fun c hc ↦ hrun c (List.mem_append_left _ hc)
    exact ⟨(List.append_nil _).symm, rfl⟩
  · obtain rfl := hnil hfront fun c hc ↦ hrun' c (List.mem_append_left _ hc)
    exact ⟨List.append_nil _, rfl⟩

/-- A padded number of two digits and what is behind it are found again. -/
theorem padded_append_inj {m n : Nat} (hm : m < 100) (hn : n < 100) {rest rest' : List Char}
    (h : (padded 2 m).toList ++ rest = (padded 2 n).toList ++ rest') : m = n ∧ rest = rest' := by
  have hlength : (padded 2 m).toList.length = (padded 2 n).toList.length :=
    (length_padded (by decide) hm).trans (length_padded (by decide) hn).symm
  obtain ⟨hdigits, hrest⟩ := List.append_inj h hlength
  have hvalue := congrArg digitsValue hdigits
  rw [digitsValue_padded, digitsValue_padded] at hvalue
  exact ⟨hvalue, hrest⟩

/-! ### Years -/

namespace Date

/-- The sign in front of a year. -/
def yearSign (y : Int) : List Char :=
  if 0 ≤ y ∧ y ≤ 9999 then [] else if y < 0 then ['-'] else ['+']

theorem toList_yearText (y : Int) :
    (yearText y).toList = yearSign y ++ (padded 4 y.natAbs).toList := by
  unfold yearText yearSign
  split
  case isTrue h =>
    have hnat : y.toNat = y.natAbs := by omega
    rw [hnat, List.nil_append]
  case isFalse =>
    rw [String.toList_append]
    congr 1
    split <;> rfl

theorem isDigit_yearSign (y : Int) : ∀ c ∈ yearSign y, c.isDigit = false := by
  unfold yearSign
  split
  · exact List.forall_mem_nil _
  · split <;> exact List.forall_mem_singleton.2 rfl

theorem dash_mem_yearSign_iff (y : Int) : '-' ∈ yearSign y ↔ y < 0 := by
  unfold yearSign
  split
  case isTrue h => exact iff_of_false List.not_mem_nil (by omega)
  case isFalse =>
    split
    case isTrue h => exact iff_of_true (List.mem_singleton_self _) h
    case isFalse h => exact iff_of_false (by decide) h

/-- A year is its sign and its size. -/
theorem eq_of_yearSign {y y' : Int} (hsign : yearSign y = yearSign y')
    (hsize : y.natAbs = y'.natAbs) : y = y' := by
  have hneg := dash_mem_yearSign_iff y
  rw [hsign, dash_mem_yearSign_iff] at hneg
  omega

/-- A year at the end of a text is found again behind a dash, if a digit is in front of that. -/
theorem append_yearText_inj {front front' : List Char} {y y' : Int}
    (hfront : ∀ c ∈ front.getLast?, c.isDigit = true)
    (hfront' : ∀ c ∈ front'.getLast?, c.isDigit = true)
    (h : front ++ '-' :: (yearText y).toList = front' ++ '-' :: (yearText y').toList) :
    front = front' ∧ y = y' := by
  have hsign (y : Int) : ∀ c ∈ '-' :: yearSign y, c.isDigit = false :=
    List.forall_mem_cons.2 ⟨by decide, isDigit_yearSign y⟩
  have hlast (front : List Char) (y : Int) :
      ∀ c ∈ (front ++ '-' :: yearSign y).getLast?, c.isDigit = false := by
    rw [List.getLast?_append_of_ne_nil _ (List.cons_ne_nil _ _)]
    exact fun c hc ↦ hsign y c (List.mem_of_getLast? hc)
  rw [toList_yearText, toList_yearText, ← List.cons_append, ← List.cons_append,
    ← List.append_assoc, ← List.append_assoc] at h
  -- The digits of the year are the last run, and the dash and the sign are the run before it.
  obtain ⟨hbefore, hdigits⟩ := Text.eq_of_run Bool.false_ne_true (hlast front y)
    (isDigit_padded 4 _) (hlast front' y') (isDigit_padded 4 _) h
  obtain ⟨rfl, hdash⟩ := Text.eq_of_run Bool.false_ne_true.symm hfront (hsign y) hfront'
    (hsign y') hbefore
  have hsize := congrArg digitsValue hdigits
  rw [digitsValue_padded, digitsValue_padded] at hsize
  exact ⟨rfl, eq_of_yearSign (List.cons.inj hdash).2 hsize⟩

end Date

/-! ### Seconds -/

namespace Moment

variable {t t' : Moment}

/-- The second that a time lies in; a leap second is one of its own. -/
def wholeSecond (t : Moment) : Int × Bool := (t.seconds, t.isLeap)

/-- What is written behind the year. -/
def tailText (t : Moment) : List Char :=
  '-' :: ((padded 2 t.date.month).toList ++ '-' :: ((padded 2 t.date.day).toList ++ 'T' ::
    ((padded 2 (t.secondOfDay / 3600)).toList ++ '-' ::
      ((padded 2 (t.secondOfDay / 60 % 60)).toList ++ '-' :: (padded 2 t.writtenSecond).toList))))

theorem toList_fileText (t : Moment) :
    t.fileText.toList = (Date.yearText t.date.year).toList ++ t.tailText := by
  simp [fileText, Date.text, clockText, writtenSecond, tailText]

/-- All that is written behind the year has two digits. -/
theorem lt_hundred (t : Moment) : t.date.month < 100 ∧ t.date.day < 100 ∧
    t.secondOfDay / 3600 < 100 ∧ t.secondOfDay / 60 % 60 < 100 ∧ t.writtenSecond < 100 := by
  obtain ⟨-, hmonth, -, hday⟩ : t.date.Valid := Date.valid_ofDayNumber _
  have hlength := Date.monthLength_le t.date.year t.date.month
  have hsecond := t.secondOfDay_lt
  have hwritten := t.writtenSecond_le
  omega

theorem length_tailText (t : Moment) : t.tailText.length = 15 := by
  obtain ⟨hmonth, hday, hhour, hminute, hsecond⟩ := t.lt_hundred
  simp only [tailText, List.length_cons, List.length_append,
    length_padded (Nat.zero_lt_two) (show _ < 10 ^ 2 from hmonth),
    length_padded (Nat.zero_lt_two) (show _ < 10 ^ 2 from hday),
    length_padded (Nat.zero_lt_two) (show _ < 10 ^ 2 from hhour),
    length_padded (Nat.zero_lt_two) (show _ < 10 ^ 2 from hminute),
    length_padded (Nat.zero_lt_two) (show _ < 10 ^ 2 from hsecond)]

/-- What is written behind the year is the rest of the date and the time of day. -/
theorem tailText_inj (h : t.tailText = t'.tailText) :
    t.date.month = t'.date.month ∧ t.date.day = t'.date.day ∧
      t.secondOfDay / 3600 = t'.secondOfDay / 3600 ∧
      t.secondOfDay / 60 % 60 = t'.secondOfDay / 60 % 60 ∧ t.writtenSecond = t'.writtenSecond := by
  obtain ⟨hmonth, hday, hhour, hminute, hsecond⟩ := t.lt_hundred
  obtain ⟨hmonth', hday', hhour', hminute', hsecond'⟩ := t'.lt_hundred
  obtain ⟨month, h⟩ := padded_append_inj hmonth hmonth' (List.cons.inj h).2
  obtain ⟨day, h⟩ := padded_append_inj hday hday' (List.cons.inj h).2
  obtain ⟨hour, h⟩ := padded_append_inj hhour hhour' (List.cons.inj h).2
  obtain ⟨minute, h⟩ := padded_append_inj hminute hminute' (List.cons.inj h).2
  have second := congrArg digitsValue (List.cons.inj h).2
  rw [digitsValue_padded, digitsValue_padded] at second
  exact ⟨month, day, hour, minute, second⟩

/-- A date and a time of day as they are written are those of one second. -/
theorem wholeSecond_eq (regular : t.IsRegular) (regular' : t'.IsRegular) (date : t.date = t'.date)
    (hour : t.secondOfDay / 3600 = t'.secondOfDay / 3600)
    (minute : t.secondOfDay / 60 % 60 = t'.secondOfDay / 60 % 60)
    (second : t.writtenSecond = t'.writtenSecond) : t.wholeSecond = t'.wholeSecond := by
  have hday : t.seconds / 86400 = t'.seconds / 86400 := by
    have := congrArg Date.dayNumber date
    rwa [Moment.date, Moment.date, Date.dayNumber_ofDayNumber, Date.dayNumber_ofDayNumber,
      fdiv_seconds, fdiv_seconds] at this
  have hlast {t : Moment} (regular : t.IsRegular) (leap : t.isLeap = true) :
      t.secondOfDay % 60 = 59 := by
    have := regular leap
    unfold secondOfDay
    omega
  have hleap : t.isLeap = t'.isLeap := by
    unfold writtenSecond at second
    cases h : t.isLeap <;> cases h' : t'.isLeap <;>
      simp only [h, h', Bool.false_eq_true, if_true, if_false] at second
    · rfl
    · have := hlast regular' h'
      omega
    · have := hlast regular h
      omega
    · rfl
  have hseconds : t.seconds = t'.seconds := by
    unfold writtenSecond at second
    rw [hleap] at second
    unfold secondOfDay at hour minute second
    omega
  exact Prod.ext hseconds hleap

/-- A time at the end of a text is found again to the second behind a dash, if a digit is in front
of that. -/
theorem append_fileText_inj (regular : t.IsRegular) (regular' : t'.IsRegular)
    {front front' : List Char}
    (hfront : ∀ c ∈ front.getLast?, c.isDigit = true)
    (hfront' : ∀ c ∈ front'.getLast?, c.isDigit = true)
    (h : front ++ '-' :: t.fileText.toList = front' ++ '-' :: t'.fileText.toList) :
    front = front' ∧ t.wholeSecond = t'.wholeSecond := by
  rw [toList_fileText, toList_fileText, ← List.cons_append, ← List.cons_append,
    ← List.append_assoc, ← List.append_assoc] at h
  obtain ⟨hhead, htail⟩ :=
    List.append_inj' h (t.length_tailText.trans t'.length_tailText.symm)
  obtain ⟨rfl, year⟩ := Date.append_yearText_inj hfront hfront' hhead
  obtain ⟨month, day, hour, minute, second⟩ := tailText_inj htail
  have hdate : t.date = t'.date := by
    cases hd : t.date
    cases hd' : t'.date
    rw [hd, hd'] at year month day
    cases year
    cases month
    cases day
    rfl
  exact ⟨rfl, wholeSecond_eq regular regular' hdate hour minute second⟩

/-- Times in the same second are written alike. -/
theorem fileText_congr (h : t.wholeSecond = t'.wholeSecond) : t.fileText = t'.fileText := by
  obtain ⟨hseconds, hleap⟩ := Prod.mk.inj h
  unfold fileText clockText date secondOfDay
  rw [hseconds, hleap]

/-- The last character of a time is a digit. -/
theorem isDigit_getLast?_fileText (t : Moment) (front : List Char) :
    ∀ c ∈ (front ++ t.fileText.toList).getLast?, c.isDigit = true := by
  have hsecond : t.fileText.toList = (t.date.text ++ "T" ++ (padded 2 (t.secondOfDay / 3600) ++
      "-" ++ padded 2 (t.secondOfDay / 60 % 60) ++ "-")).toList ++
        (padded 2 t.writtenSecond).toList := by
    simp [fileText, clockText, writtenSecond]
  rw [hsecond, ← List.append_assoc, List.getLast?_append_of_ne_nil _ (padded_ne_nil 2 _)]
  exact fun c hc ↦ isDigit_padded 2 _ c (List.mem_of_getLast? hc)

end Moment

end EtcdBackup
