import EtcdBackup.Text.Blank

/-!
# Sets of characters

A `CharSet` is a list of ranges of code points in ascending order, no two of which touch. Sets
are closed under union, intersection, difference and complement; the complement leaves out the
surrogates, which are no characters. `CharSet.contains` searches by halving.
-/

set_option autoImplicit false
set_option relaxedAutoImplicit false

namespace EtcdBackup

/-- A set of code points: ascending ranges, first and last included. -/
structure CharSet where
  ranges : Array (Nat × Nat)
  deriving DecidableEq, Inhabited

namespace CharSet

/-- The greatest code point. -/
def top : Nat := 0x10FFFF

/-- The set without characters. -/
def empty : CharSet := ⟨#[]⟩

/-- Joins ranges that overlap or touch; the ranges must ascend by their first code points. -/
def joinSorted : List (Nat × Nat) → List (Nat × Nat)
  | [] => []
  | (a, b) :: rest => go a b rest
where
  go (a b : Nat) : List (Nat × Nat) → List (Nat × Nat)
    | [] => [(a, b)]
    | (c, d) :: rest =>
      if c ≤ b + 1 then go a (max b d) rest else (a, b) :: go c d rest

/-- The set of a list of ranges in any order. -/
def ofRanges (ranges : List (Nat × Nat)) : CharSet :=
  ⟨(joinSorted (ranges.mergeSort fun x y ↦ x.1 ≤ y.1)).toArray⟩

/-- The set of one range. -/
def ofRange (first last : Nat) : CharSet := ⟨#[(first, last)]⟩

/-- The set of one code point. -/
def singleton (n : Nat) : CharSet := ofRange n n

/-- Whether a code point lies in one of the ranges from index `low` to before index `high`. -/
def search (ranges : Array (Nat × Nat)) (n : Nat) (low high : Nat) : Nat → Bool
  | 0 => false
  | fuel + 1 =>
    if low < high then
      let middle := (low + high) / 2
      let (first, last) := ranges.getD middle (0, 0)
      if n < first then search ranges n low middle fuel
      else if last < n then search ranges n (middle + 1) high fuel
      else true
    else false

/-- Whether a code point belongs to the set. -/
def contains (s : CharSet) (n : Nat) : Bool :=
  search s.ranges n 0 s.ranges.size (Nat.log2 (s.ranges.size + 1) + 2)

/-- The characters of either set. -/
def union (s t : CharSet) : CharSet := ofRanges (s.ranges.toList ++ t.ranges.toList)

/-- The gaps between ascending ranges, from `next` up to the greatest code point. -/
def gaps (next : Nat) : List (Nat × Nat) → List (Nat × Nat)
  | [] => if next ≤ top then [(next, top)] else []
  | (a, b) :: rest =>
    if next < a then (next, a - 1) :: gaps (b + 1) rest else gaps (b + 1) rest

/-- Cuts the surrogates out of a range. -/
def withoutSurrogates : Nat × Nat → List (Nat × Nat)
  | (a, b) =>
    (if a < 0xD800 then [(a, min b 0xD7FF)] else []) ++
      (if 0xDFFF < b then [(max a 0xE000, b)] else [])

/-- The characters outside the set. -/
def complement (s : CharSet) : CharSet :=
  ⟨((gaps 0 s.ranges.toList).flatMap withoutSurrogates).toArray⟩

/-- The characters of both sets. -/
def inter (s t : CharSet) : CharSet := (s.complement.union t.complement).complement

/-- The characters of the first set that are not in the second. -/
def diff (s t : CharSet) : CharSet := s.inter t.complement

/-- The characters of exactly one of the sets. -/
def symmDiff (s t : CharSet) : CharSet := (s.union t).diff (s.inter t)

/-- Whether the set has no characters. -/
def isEmpty (s : CharSet) : Bool := s.ranges.isEmpty

/-- The value of a hexadecimal number in capital letters. -/
def hexNumber (cs : List Char) : Nat :=
  cs.foldl (fun n c ↦ n * 16 + (if c.isDigit then c.toNat - 48 else c.toNat - 55)) 0

/-- The range of a word `A` or `A-B`. -/
def rangeOfWord (word : String) : Nat × Nat :=
  let cs := word.toList
  let first := hexNumber (cs.takeWhile (· ≠ '-'))
  match cs.dropWhile (· ≠ '-') with
  | _ :: last => (first, hexNumber last)
  | [] => (first, first)

/-- The set of ranges written in hexadecimal, ascending, with blanks or line ends between them. -/
def ofText (text : String) : CharSet :=
  ⟨((Text.words text).map rangeOfWord).toArray⟩

end CharSet

end EtcdBackup
