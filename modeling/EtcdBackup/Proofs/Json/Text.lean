import EtcdBackup.Json.Printer
import EtcdBackup.Proofs.Json.MergePatch
import EtcdBackup.Proofs.Time.Text

/-!
# Values in their text

A value is `Plain` if it is made of texts, truth values, natural numbers of 64 bits and objects in
ascending order without null members, and not nested too deep. Requests and statuses are written so.
A plain value is read back from its text (`parse_compact`), and as a merge patch it says all there
is to say (`null_mergePatch`).

Reading takes a text apart from its front, so each piece is read with whatever stands behind it. A
number needs to know that what stands behind it is no part of it: only a comma, a closing bracket
or brace, or nothing (`IsBehind`).
-/

set_option autoImplicit false
set_option relaxedAutoImplicit false

namespace EtcdBackup.Json

/-- Values that are written with nothing left out, nested at most so deep. -/
inductive Plain : Nat → Json → Prop
  | null {depth : Nat} : Plain depth .null
  | bool {depth : Nat} (value : Bool) : Plain depth (.bool value)
  | natural {depth n : Nat} (fits : n < UInt64.size) : Plain depth (ofNat n)
  | string {depth : Nat} (value : String) : Plain depth (.string value)
  | array {depth : Nat} {items : List Json} (inside : ∀ j ∈ items, Plain depth j) :
      Plain (depth + 1) (.array items)
  | object {depth : Nat} {members : List (String × Json)} (ascending : Keyed.Ascending members)
      (full : ∀ e ∈ members, e.2.isNull = false) (inside : ∀ e ∈ members, Plain depth e.2) :
      Plain (depth + 1) (.object members)

variable {depth bound : Nat} {j : Json} {rest : List Char}

theorem Plain.ordered (h : j.Plain depth) : j.Ordered := by
  induction h with
  | null => exact .null
  | bool value => exact .bool value
  | natural fits => exact .number _
  | string value => exact .string value
  | array inside ih => exact .array ih
  | object ascending full inside ih => exact .object ascending ih

theorem plain_ofFields {fields : List (String × Json)}
    (h : ∀ e ∈ fields, e.2.isNull = false ∧ e.2.Plain depth) :
    (ofFields fields).Plain (depth + 1) :=
  .object (Keyed.ofList fields).ascending (fun e he ↦ (h e (Keyed.mem_of_mem_ofList he)).1)
    fun e he ↦ (h e (Keyed.mem_of_mem_ofList he)).2

/-- A patch without null is what it makes of nothing. -/
theorem null_mergePatch (h : j.Plain depth) : null.mergePatch j = j := by
  induction h with
  | null | bool | natural | string | array => rfl
  | @object depth members ascending full inside ih =>
    have merged : Keyed.Ascending (mergeMembers [] members) :=
      ascending_mergeMembers List.Pairwise.nil members
    refine congrArg Json.object (merged.ext ascending fun key ↦ ?_)
    rw [find?_mergeMembers [] ascending]
    cases hfind : Keyed.find? key members with
    | none => rfl
    | some value =>
      have hmem := Keyed.mem_of_find? hfind
      dsimp only
      rw [full _ hmem]
      exact congrArg some (ih _ hmem)

/-! ### Strings -/

theorem hexValue?_hexDigit {n : Nat} (h : n < 16) : hexValue? (hexDigit n) = some n := by
  have all : ∀ n < 16, hexValue? (hexDigit n) = some n := by decide
  exact all n h

theorem readEscape_control {c : Char} (h : c.toNat < 32) (rest : List Char) :
    readEscape ('u' :: '0' :: '0' :: hexDigit (c.toNat / 16) :: hexDigit (c.toNat % 16) :: rest) =
      some (c, rest) := by
  have hzero : hexValue? '0' = some 0 := by decide
  have hvalue : ((0 * 16 + 0) * 16 + c.toNat / 16) * 16 + c.toNat % 16 = c.toNat := by omega
  simp only [readEscape, readUnit, hzero, hexValue?_hexDigit (n := c.toNat / 16) (by omega),
    hexValue?_hexDigit (n := c.toNat % 16) (by omega), bind, Option.bind, hvalue]
  rw [if_neg (by omega), if_neg (by omega), Char.ofNat_toNat]

/-- One character is read back, escaped or not. -/
theorem readString_escapeChar (bound : Nat) (acc : List Char) (c : Char) (rest : List Char) :
    readString (bound + 1) acc (escapeChar c ++ rest) = readString bound (c :: acc) rest := by
  unfold escapeChar
  split
  case h_1 | h_2 | h_3 | h_4 | h_5 => rfl
  case h_6 hquote hslash _ _ _ =>
    split
    case isTrue h =>
      obtain rfl : c = Char.ofNat 8 := by rw [← h, Char.ofNat_toNat]
      rfl
    case isFalse =>
      split
      case isTrue h =>
        obtain rfl : c = Char.ofNat 12 := by rw [← h, Char.ofNat_toNat]
        rfl
      case isFalse =>
        split
        case isTrue h =>
          simp only [List.cons_append, List.nil_append, readString, readEscape_control h]
        case isFalse h =>
          simp only [List.cons_append, List.nil_append]
          rw [readString.eq_def]
          split <;> simp_all

theorem readString_flatMap {cs : List Char} (h : cs.length < bound) (acc rest : List Char) :
    readString bound acc (cs.flatMap escapeChar ++ '"' :: rest) =
      some (String.ofList (acc.reverse ++ cs), rest) := by
  induction cs generalizing bound acc with
  | nil =>
    obtain ⟨bound, rfl⟩ := Nat.exists_eq_add_of_lt h
    rw [List.append_nil]
    simp only [List.flatMap_nil, List.nil_append, readString]
  | cons c cs ih =>
    obtain ⟨bound, rfl⟩ : ∃ b, bound = b + 1 := ⟨bound - 1, by rw [List.length_cons] at h; omega⟩
    rw [List.flatMap_cons, List.append_assoc, readString_escapeChar,
      ih (Nat.lt_of_succ_lt_succ h), List.reverse_cons, List.append_assoc, List.singleton_append]

theorem length_le_flatMap_escapeChar (cs : List Char) :
    cs.length ≤ (cs.flatMap escapeChar).length := by
  induction cs with
  | nil => exact Nat.le_refl 0
  | cons c cs ih =>
    have hpos : 0 < (escapeChar c).length := by
      unfold escapeChar
      repeat' split
      all_goals exact Nat.succ_pos _
    rw [List.flatMap_cons, List.length_append, List.length_cons]
    omega

/-- A string is read back from behind its opening quote. -/
theorem readString_quote (s : String) (rest : List Char) :
    readString ((s.toList.flatMap escapeChar ++ '"' :: rest).length + 1) []
      (s.toList.flatMap escapeChar ++ '"' :: rest) = some (s, rest) := by
  have hlength := length_le_flatMap_escapeChar s.toList
  rw [readString_flatMap (by rw [List.length_append]; omega), List.reverse_nil, List.nil_append,
    String.ofList_toList]

theorem toList_quote (s : String) :
    (quote s).toList = '"' :: (s.toList.flatMap escapeChar ++ ['"']) := by
  simp [quote]

/-! ### Numbers -/

/-- What may stand behind a value. -/
def IsBehind (rest : List Char) : Prop := ∀ c ∈ rest.head?, c = ',' ∨ c = ']' ∨ c = '\x7d'

theorem isBehind_nil : IsBehind [] := nofun

theorem isBehind_cons {c : Char} (h : c = ',' ∨ c = ']' ∨ c = '\x7d') (rest : List Char) :
    IsBehind (c :: rest) := by
  rintro d ⟨⟩
  exact h

theorem IsBehind.isDigit_eq_false (h : IsBehind rest) : ∀ c ∈ rest.head?, c.isDigit = false := by
  intro c hc
  rcases h c hc with rfl | rfl | rfl <;> rfl

/-- A number does not begin with a zero, unless it is zero. -/
theorem head?_toDigits {n : Nat} (h : 0 < n) : (Nat.toDigits 10 n).head? ≠ some '0' := by
  induction n using Nat.strongRecOn with
  | ind n ih =>
    by_cases hsmall : n < 10
    · rw [Nat.toDigits_of_lt_base hsmall]
      have digit : ∀ n < 10, 0 < n → [n.digitChar].head? ≠ some '0' := by decide
      exact digit n hsmall h
    · rw [Nat.toDigits_of_base_le (by decide) (Nat.le_of_not_lt hsmall),
        List.head?_append_of_ne_nil _ Nat.toDigits_ne_nil]
      exact ih (n / 10) (by omega) (by omega)

theorem digitsValue_toDigits (n : Nat) : digitsValue (Nat.toDigits 10 n) = n := by
  have h := digitsValue_padded 0 n
  rwa [toList_padded, Nat.zero_sub, List.replicate_zero, List.nil_append] at h

theorem dropWhile_isDigit_append {ds : List Char} (hds : ∀ c ∈ ds, c.isDigit)
    (hrest : ∀ c ∈ rest.head?, c.isDigit = false) : (ds ++ rest).dropWhile Char.isDigit = rest := by
  rw [List.dropWhile_append_of_pos hds]
  cases rest with
  | nil => rfl
  | cons c rest => exact List.dropWhile_cons_of_neg (Bool.eq_false_iff.1 (hrest c rfl))

/-- A natural number is read back. -/
theorem readNumber_toDigits {n : Nat} (fits : n < UInt64.size) (behind : IsBehind rest) :
    readNumber (Nat.toDigits 10 n ++ rest) = some (.int n, rest) := by
  have digits : ∀ c ∈ Nat.toDigits 10 n, c.isDigit := fun c hc ↦
    Nat.isDigit_of_mem_toDigits (by decide) (by decide) hc
  have whole := Instant.Parser.takeWhile_isDigit_append digits behind.isDigit_eq_false
  have others := dropWhile_isDigit_append digits behind.isDigit_eq_false
  have leading : ¬((Nat.toDigits 10 n).isEmpty ∨ ((Nat.toDigits 10 n).head? = some '0' ∧
      (Nat.toDigits 10 n).length > 1)) := by
    rintro (hempty | ⟨hzero, hlong⟩)
    · exact Nat.toDigits_ne_nil (List.isEmpty_iff.1 hempty)
    · rcases Nat.eq_zero_or_pos n with rfl | hpos
      · rw [Nat.toDigits_zero] at hlong
        exact absurd hlong (by decide)
      · exact head?_toDigits hpos hzero
  have made : makeNumber false (Nat.toDigits 10 n) [] none = some (.int n) := by
    unfold makeNumber
    rw [digitsValue_toDigits]
    exact if_pos ⟨rfl, Bool.false_ne_true, fits⟩
  obtain ⟨c, cs, hcs⟩ := List.exists_cons_of_ne_nil (Nat.toDigits_ne_nil (n := n) (b := 10))
  have hc : c.isDigit := digits c (hcs ▸ List.mem_cons_self)
  have hsign : c ≠ '-' := by
    rintro rfl
    cases hc
  unfold readNumber
  rw [hcs] at whole others leading made ⊢
  rw [List.cons_append] at whole others ⊢
  split
  next negative rest' hread =>
  split at hread
  case h_1 heq =>
    cases heq
    exact (hsign rfl).elim
  case h_2 =>
    cases hread
    rw [whole, others, if_neg leading]
    -- What stands behind is neither a fraction nor an exponent.
    cases rest with
    | nil => simp [made]
    | cons d rest =>
      rcases behind d rfl with rfl | rfl | rfl <;> simp [made]

/-! ### Values -/

theorem skipBlanks_cons {c : Char} (h : isBlank c = false) (cs : List Char) :
    skipBlanks (c :: cs) = c :: cs :=
  List.dropWhile_cons_of_neg (Bool.eq_false_iff.1 h)

/-- The characters of a value. -/
def chars (j : Json) : List Char := j.compact.toList

/-- The characters of a member. -/
def memberChars (e : String × Json) : List Char := (quote e.1).toList ++ ':' :: e.2.chars

/-- The characters of some things, a comma in front of each. -/
def behindCommas {α : Type} (text : α → List Char) (items : List α) : List Char :=
  items.flatMap fun item ↦ ',' :: text item

theorem isBehind_behindCommas {α : Type} (text : α → List Char) (items : List α) {c : Char}
    (h : c = ',' ∨ c = ']' ∨ c = '\x7d') (rest : List Char) :
    IsBehind (behindCommas text items ++ c :: rest) := by
  cases items with
  | nil => exact isBehind_cons h rest
  | cons item items => exact isBehind_cons (Or.inl rfl) _

theorem toList_intercalate_cons (s : String) (others : List String) :
    (",".intercalate (s :: others)).toList = s.toList ++ behindCommas String.toList others := by
  induction others generalizing s with
  | nil => simp [behindCommas]
  | cons t others ih =>
    rw [String.intercalate_cons_cons, String.toList_append, String.toList_append, ih]
    simp [behindCommas]

theorem chars_array (item : Json) (items : List Json) :
    (array (item :: items)).chars = '[' :: (item.chars ++ (behindCommas chars items ++ [']'])) := by
  have hitems : ∀ items, compactItems items = items.map compact := by
    intro items
    induction items with
    | nil => rfl
    | cons item items ih => rw [compactItems, ih, List.map_cons]
  rw [chars, compact, hitems, List.map_cons, String.toList_append, String.toList_append,
    toList_intercalate_cons, behindCommas, List.flatMap_map, List.append_assoc, List.append_assoc]
  rfl

theorem chars_object (e : String × Json) (members : List (String × Json)) :
    (object (e :: members)).chars =
      '\x7b' :: (memberChars e ++ (behindCommas memberChars members ++ ['\x7d'])) := by
  have hmembers : ∀ members, compactMembers members =
      members.map fun e ↦ quote e.1 ++ ":" ++ compact e.2 := by
    intro members
    induction members with
    | nil => rfl
    | cons e members ih => rw [compactMembers, ih, List.map_cons]
  have htext (e : String × Json) : (quote e.1 ++ ":" ++ compact e.2).toList = memberChars e := by
    simp [memberChars, chars]
  rw [chars, compact, hmembers, List.map_cons, String.toList_append, String.toList_append,
    toList_intercalate_cons, behindCommas, List.flatMap_map, htext, List.append_assoc,
    List.append_assoc]
  simp only [htext]
  rfl

/-- A value begins with no blank, and is read up to what stands behind it. -/
structure IsReadBack (depth : Nat) (j : Json) : Prop where
  front : ∃ c cs, j.chars = c :: cs ∧ isBlank c = false ∧ c ≠ ']'
  reads : ∀ (bound : Nat) {rest : List Char}, j.chars.length < bound → IsBehind rest →
    readValue bound depth (j.chars ++ rest) = some (j, rest)

theorem IsReadBack.skipBlanks_eq (h : j.IsReadBack depth) (rest : List Char) :
    skipBlanks (j.chars ++ rest) = j.chars ++ rest := by
  obtain ⟨c, cs, hcs, hblank, -⟩ := h.front
  rw [hcs]
  exact skipBlanks_cons hblank _

/-- The items of an array are read one after the other. -/
theorem readItems_behindCommas {item : Json} {items : List Json}
    (h : ∀ j ∈ item :: items, j.IsReadBack depth) (acc : List Json) (bound : Nat)
    (hbound : item.chars.length + (behindCommas chars items).length + 1 < bound)
    (rest : List Char) :
    readItems bound depth acc (item.chars ++ (behindCommas chars items ++ ']' :: rest)) =
      some (.array (acc.reverse ++ item :: items), rest) := by
  induction items generalizing item acc bound with
  | nil =>
    obtain ⟨hitem, -⟩ := List.forall_mem_cons.1 h
    obtain ⟨bound, rfl⟩ : ∃ b, bound = b + 1 := ⟨bound - 1, by omega⟩
    have hread := hitem.reads bound (by omega)
      (isBehind_behindCommas chars [] (Or.inr (Or.inl rfl)) rest)
    simp only [readItems, hread]
    exact congrArg (fun items ↦ some (array items, rest)) List.reverse_cons
  | cons next items ih =>
    obtain ⟨hitem, hitems⟩ := List.forall_mem_cons.1 h
    have hnext : next.IsReadBack depth := hitems next List.mem_cons_self
    obtain ⟨bound, rfl⟩ : ∃ b, bound = b + 1 := ⟨bound - 1, by omega⟩
    have hsplit : behindCommas chars (next :: items) ++ ']' :: rest =
        ',' :: (next.chars ++ (behindCommas chars items ++ ']' :: rest)) := by
      simp [behindCommas]
    have hlength : (behindCommas chars (next :: items)).length =
        next.chars.length + (behindCommas chars items).length + 1 := by
      simp [behindCommas]
    have hread := hitem.reads bound (by omega)
      (isBehind_behindCommas chars (next :: items) (Or.inr (Or.inl rfl)) rest)
    have hcomma : isBlank ',' = false := by decide
    rw [hsplit] at hread ⊢
    simp only [readItems, hread, skipBlanks_cons hcomma, hnext.skipBlanks_eq]
    rw [ih hitems (item :: acc) bound (by omega), List.reverse_cons, List.append_assoc]
    rfl

/-- A member is read up to what stands behind it. -/
theorem readMembers_memberChars {e : String × Json} (h : e.2.IsReadBack depth)
    (acc : List (String × Json)) (hbound : (memberChars e).length < bound)
    (behind : IsBehind rest) :
    readMembers (bound + 1) depth acc (memberChars e ++ rest) =
      match skipBlanks rest with
      | ',' :: rest => readMembers bound depth (e :: acc) (skipBlanks rest)
      | '\x7d' :: rest => some (ofFields (e :: acc).reverse, rest)
      | _ => none := by
  obtain ⟨key, value⟩ := e
  have hsplit : memberChars (key, value) ++ rest = '"' ::
      (key.toList.flatMap escapeChar ++ '"' :: ':' :: (value.chars ++ rest)) := by
    simp [memberChars, toList_quote]
  have hvalue : value.chars.length < bound := by
    simp only [memberChars, List.length_append, List.length_cons] at hbound
    omega
  have hcolon : isBlank ':' = false := by decide
  simp only [hsplit, readMembers, readString_quote, skipBlanks_cons hcolon, h.skipBlanks_eq]
  rewrite [h.reads bound hvalue behind]
  rfl

/-- The members of an object are read one after the other. -/
theorem readMembers_behindCommas {e : String × Json} {members : List (String × Json)}
    (h : ∀ e' ∈ e :: members, e'.2.IsReadBack depth) (acc : List (String × Json)) (bound : Nat)
    (hbound : (memberChars e).length + (behindCommas memberChars members).length + 1 < bound)
    (rest : List Char) :
    readMembers bound depth acc
        (memberChars e ++ (behindCommas memberChars members ++ '\x7d' :: rest)) =
      some (ofFields (acc.reverse ++ e :: members), rest) := by
  induction members generalizing e acc bound with
  | nil =>
    obtain ⟨he, -⟩ := List.forall_mem_cons.1 h
    obtain ⟨bound, rfl⟩ : ∃ b, bound = b + 1 := ⟨bound - 1, by omega⟩
    rw [readMembers_memberChars he acc (by omega)
      (isBehind_behindCommas memberChars [] (Or.inr (Or.inr rfl)) rest)]
    exact congrArg (fun members ↦ some (ofFields members, rest)) List.reverse_cons
  | cons next members ih =>
    obtain ⟨he, hmembers⟩ := List.forall_mem_cons.1 h
    obtain ⟨bound, rfl⟩ : ∃ b, bound = b + 1 := ⟨bound - 1, by omega⟩
    have hsplit : behindCommas memberChars (next :: members) ++ '\x7d' :: rest =
        ',' :: (memberChars next ++ (behindCommas memberChars members ++ '\x7d' :: rest)) := by
      simp [behindCommas]
    have hlength : (behindCommas memberChars (next :: members)).length =
        (memberChars next).length + (behindCommas memberChars members).length + 1 := by
      simp [behindCommas]
    have hcomma : isBlank ',' = false := by decide
    have hquote (rest : List Char) :
        skipBlanks (memberChars next ++ rest) = memberChars next ++ rest := by
      rw [memberChars, toList_quote]
      exact skipBlanks_cons (by decide) _
    rw [readMembers_memberChars he acc (by omega)
      (isBehind_behindCommas memberChars (next :: members) (Or.inr (Or.inr rfl)) rest), hsplit,
      skipBlanks_cons hcomma]
    simp only [hquote]
    rw [ih hmembers (e :: acc) bound (by omega), List.reverse_cons, List.append_assoc]
    rfl

theorem isReadBack_natural {n : Nat} (fits : n < UInt64.size) : (ofNat n).IsReadBack depth := by
  have htext : (ofNat n).chars = Nat.toDigits 10 n := Nat.toList_repr
  obtain ⟨c, cs, hcs⟩ := List.exists_cons_of_ne_nil (Nat.toDigits_ne_nil (n := n) (b := 10))
  have hc : c.isDigit :=
    Nat.isDigit_of_mem_toDigits (by decide) (by decide) (hcs ▸ List.mem_cons_self)
  have hother {d : Char} (h : d.isDigit = false) : c ≠ d := by
    rintro rfl
    rw [h] at hc
    cases hc
  refine ⟨⟨c, cs, htext.trans hcs, ?_, hother rfl⟩, fun bound rest hbound behind ↦ ?_⟩
  · have hblank : ¬(c = ' ' ∨ c = '\n' ∨ c = '\r' ∨ c = '\t') := by
      rintro (h | h | h | h) <;> exact hother rfl h
    simpa [isBlank, not_or, and_assoc] using hblank
  · obtain ⟨bound, rfl⟩ : ∃ b, bound = b + 1 := ⟨bound - 1, by omega⟩
    have hread := readNumber_toDigits fits behind
    rw [htext]
    rw [hcs, List.cons_append] at hread ⊢
    rw [readValue.eq_def]
    dsimp only
    split
    case h_7 => rw [hread]; rfl
    all_goals
      next heq => exact absurd (List.cons.inj heq).1 (hother rfl)

theorem isReadBack_string (s : String) : (string s).IsReadBack depth := by
  have htext : (string s).chars = '"' :: (s.toList.flatMap escapeChar ++ ['"']) := by
    rw [chars, compact, toList_quote]
  refine ⟨⟨_, _, htext, by decide, by decide⟩, fun bound rest hbound _ ↦ ?_⟩
  obtain ⟨bound, rfl⟩ : ∃ b, bound = b + 1 := ⟨bound - 1, by omega⟩
  rw [htext, List.cons_append, List.append_assoc, List.singleton_append]
  simp only [readValue, readString_quote, Option.map_some]

theorem isReadBack_array {items : List Json} (h : ∀ j ∈ items, j.IsReadBack depth) :
    (array items).IsReadBack (depth + 1) := by
  cases items with
  | nil =>
    refine ⟨⟨_, _, rfl, by decide, by decide⟩, fun bound rest hbound _ ↦ ?_⟩
    obtain ⟨bound, rfl⟩ : ∃ b, bound = b + 1 := ⟨bound - 1, by omega⟩
    rfl
  | cons item items =>
    refine ⟨⟨_, _, chars_array item items, by decide, by decide⟩, fun bound rest hbound _ ↦ ?_⟩
    obtain ⟨bound, rfl⟩ : ∃ b, bound = b + 1 := ⟨bound - 1, by omega⟩
    rw [chars_array] at hbound ⊢
    simp only [List.length_cons, List.length_append, List.length_nil] at hbound
    have hread := readItems_behindCommas h [] bound (by omega) rest
    have hitem : item.IsReadBack depth := h item List.mem_cons_self
    obtain ⟨c, cs, hcs, -, hclosing⟩ := hitem.front
    simp only [List.cons_append, List.append_assoc, List.nil_append, readValue,
      if_neg (Nat.succ_ne_zero depth), hitem.skipBlanks_eq]
    split
    next heq =>
      rw [hcs, List.cons_append] at heq
      exact absurd (List.cons.inj heq).1 hclosing
    next => exact hread

theorem isReadBack_object {members : List (String × Json)} (ascending : Keyed.Ascending members)
    (h : ∀ e ∈ members, e.2.IsReadBack depth) : (object members).IsReadBack (depth + 1) := by
  cases members with
  | nil =>
    refine ⟨⟨_, _, rfl, by decide, by decide⟩, fun bound rest hbound _ ↦ ?_⟩
    obtain ⟨bound, rfl⟩ : ∃ b, bound = b + 1 := ⟨bound - 1, by omega⟩
    rfl
  | cons e members =>
    refine ⟨⟨_, _, chars_object e members, by decide, by decide⟩, fun bound rest hbound _ ↦ ?_⟩
    obtain ⟨bound, rfl⟩ : ∃ b, bound = b + 1 := ⟨bound - 1, by omega⟩
    have hmembers : ofFields (e :: members) = object (e :: members) :=
      congrArg (fun m : Keyed Json ↦ object m.entries) (Keyed.ofList_of_ascending ascending)
    rw [chars_object] at hbound ⊢
    simp only [List.length_cons, List.length_append, List.length_nil] at hbound
    have hread := readMembers_behindCommas h [] bound (by omega) rest
    rw [List.reverse_nil, List.nil_append, hmembers] at hread
    have hquote : memberChars e = '"' :: (memberChars e).tail := by
      rw [memberChars, toList_quote]
      rfl
    have hblank : isBlank '"' = false := by decide
    simp only [List.cons_append, List.append_assoc, List.nil_append]
    rw [hquote] at hread ⊢
    rw [List.cons_append] at hread ⊢
    simp only [readValue, if_neg (Nat.succ_ne_zero depth), skipBlanks_cons hblank]
    exact hread

theorem Plain.isReadBack (h : j.Plain depth) : j.IsReadBack depth := by
  induction h with
  | null =>
    refine ⟨⟨_, _, rfl, by decide, by decide⟩, fun bound rest hbound _ ↦ ?_⟩
    obtain ⟨bound, rfl⟩ : ∃ b, bound = b + 1 := ⟨bound - 1, by omega⟩
    rfl
  | bool value =>
    cases value
    all_goals
      refine ⟨⟨_, _, rfl, by decide, by decide⟩, fun bound rest hbound _ ↦ ?_⟩
      obtain ⟨bound, rfl⟩ : ∃ b, bound = b + 1 := ⟨bound - 1, by omega⟩
      rfl
  | natural fits => exact isReadBack_natural fits
  | string value => exact isReadBack_string value
  | array inside ih => exact isReadBack_array ih
  | object ascending full inside ih => exact isReadBack_object ascending ih

/-- A value is read back from its text. -/
theorem parse_compact (h : j.Plain 127) : parse j.compact = some j := by
  have hread := h.isReadBack.reads _ (Nat.lt_succ_self j.chars.length) isBehind_nil
  rw [List.append_nil] at hread
  have hskip := h.isReadBack.skipBlanks_eq []
  rw [List.append_nil] at hskip
  unfold parse
  rw [← chars, hskip]
  simp only [hread]
  rfl

end EtcdBackup.Json
