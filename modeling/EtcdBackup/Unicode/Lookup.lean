import EtcdBackup.Unicode.Category
import EtcdBackup.Unicode.Folding
import EtcdBackup.Unicode.Printable
import EtcdBackup.Unicode.Property
import EtcdBackup.Unicode.Script

/-!
# Character sets by name

The sets of characters that patterns name: general categories and groups of them, scripts, binary
properties, and the classes of words, digits and white space. Names are compared without regard to
case, blanks, dashes, underscores and a leading `is`.
-/

set_option autoImplicit false
set_option relaxedAutoImplicit false

namespace EtcdBackup.Unicode

/-- A name reduced to what counts in a comparison. -/
def looseName (name : String) : String :=
  let cs := name.toList.filterMap fun c ↦
    if c = ' ' ∨ c = '_' ∨ c = '-' ∨ c.toNat > 127 then none else some c.toLower
  match cs with
  | 'i' :: 's' :: rest => if rest = ['c'] then "isc" else String.ofList rest
  | _ => String.ofList cs

/-- The short names of general categories and of groups of them, with their long names. -/
def categoryAliases : List (String × List String) := [
  ("C", ["other"]), ("Cc", ["control", "cntrl"]), ("Cf", ["format"]), ("Cn", ["unassigned"]),
  ("Co", ["privateuse"]), ("L", ["letter"]), ("LC", ["casedletter"]),
  ("Ll", ["lowercaseletter"]), ("Lm", ["modifierletter"]), ("Lo", ["otherletter"]),
  ("Lt", ["titlecaseletter"]), ("Lu", ["uppercaseletter"]),
  ("M", ["mark", "combiningmark"]), ("Mc", ["spacingmark"]), ("Me", ["enclosingmark"]),
  ("Mn", ["nonspacingmark"]), ("N", ["number"]), ("Nd", ["decimalnumber", "digit"]),
  ("Nl", ["letternumber"]), ("No", ["othernumber"]), ("P", ["punctuation", "punct"]),
  ("Pc", ["connectorpunctuation"]), ("Pd", ["dashpunctuation"]), ("Pe", ["closepunctuation"]),
  ("Pf", ["finalpunctuation"]), ("Pi", ["initialpunctuation"]), ("Po", ["otherpunctuation"]),
  ("Ps", ["openpunctuation"]), ("S", ["symbol"]), ("Sc", ["currencysymbol"]),
  ("Sk", ["modifiersymbol"]), ("Sm", ["mathsymbol"]), ("So", ["othersymbol"]),
  ("Z", ["separator"]), ("Zl", ["lineseparator"]), ("Zp", ["paragraphseparator"]),
  ("Zs", ["spaceseparator"])]

/-- The union of the ranges of some rows of a table. -/
def unionOf (rows : List (String × String)) : CharSet :=
  CharSet.ofRanges (rows.flatMap fun (_, text) ↦ (CharSet.ofText text).ranges.toList)

/-- The characters of a general category, or of a group of them, by its short name. -/
def ofShortCategory (short : String) : CharSet :=
  if short = "Cn" then (unionOf categoryRanges).complement
  else if short = "LC" then
    unionOf (categoryRanges.filter fun row ↦ ["Lu", "Ll", "Lt"].contains row.1)
  else if short = "C" then
    (unionOf (categoryRanges.filter fun row ↦ !(["Cc", "Cf", "Co"].contains row.1))).complement
  else unionOf (categoryRanges.filter fun row ↦ row.1.startsWith short)

/-- The characters of a general category by any of its names. -/
def category? (name : String) : Option CharSet :=
  if name = "any" then some CharSet.empty.complement
  else if name = "assigned" then some (unionOf categoryRanges)
  else if name = "ascii" then some (CharSet.ofRange 0 127)
  else
    (categoryAliases.find? fun (short, longs) ↦
      short.toList.map Char.toLower = name.toList || longs.contains name).map fun (short, _) ↦
        ofShortCategory short

/-- The row of a table under a name or another name for it. -/
def row? (aliases table : List (String × String)) (name : String) : Option CharSet :=
  let name := ((aliases.find? (·.1 = name)).map (·.2)).getD name
  (table.find? (·.1 = name)).map fun (_, text) ↦ CharSet.ofText text

/-- The characters of a script. -/
def script? (name : String) : Option CharSet := row? scriptAliases scriptRanges name

/-- The characters that a script uses. -/
def scriptExtension? (name : String) : Option CharSet :=
  row? scriptAliases scriptExtensionRanges name <|> script? name

/-- The characters with a binary property. -/
def property? (name : String) : Option CharSet := row? propertyAliases propertyRanges name

/-- The characters that a name alone denotes: a property, a category or a script. -/
def named? (name : String) : Option CharSet :=
  let name := looseName name
  let property := if ["cf", "sc", "lc"].contains name then none else property? name
  property <|> category? name <|> script? name

/-- The characters with a value of a property. -/
def valued? (property value : String) : Option CharSet :=
  let property := looseName property
  let value := looseName value
  if ["gc", "generalcategory"].contains property then category? value
  else if ["sc", "script"].contains property then script? value
  else if ["scx", "scriptextensions"].contains property then scriptExtension? value
  else none

/-- Decimal digits. -/
def digits (_ : Unit) : CharSet := ofShortCategory "Nd"

/-- White space. -/
def spaces (_ : Unit) : CharSet := (property? "whitespace").getD CharSet.empty

/-- The characters of words: letters, marks, decimal digits, connectors and joiners. -/
def wordChars (_ : Unit) : CharSet :=
  let property (name : String) := (property? name).getD CharSet.empty
  ((property "alphabetic").union (ofShortCategory "M")).union <|
    ((ofShortCategory "Nd").union (ofShortCategory "Pc")).union (property "joincontrol")

/-- Letters and numbers. -/
def isAlphanumeric (c : Char) : Bool :=
  if c.toNat < 128 then c.isAlphanum
  else
    ((property? "alphabetic").getD CharSet.empty).contains c.toNat ||
      (ofShortCategory "N").contains c.toNat

/-- The classes that a word of the folding table lists. -/
def foldingWord (word : String) : List (List Nat) :=
  match Text.splitOn '+' word with
  | [span, distance] =>
    let (span, step) := match Text.splitOn '/' span with
      | [span, _] => (span, 2)
      | _ => (span, 1)
    let (first, last) := CharSet.rangeOfWord span
    let distance := CharSet.hexNumber distance.toList
    (List.range ((last - first) / step + 1)).map fun i ↦
      [first + i * step, first + i * step + distance]
  | _ => [(Text.splitOn '=' word).map fun n ↦ CharSet.hexNumber n.toList]

/-- The set with every character that differs from one of its members in case only. -/
def foldCase (s : CharSet) : CharSet :=
  let classes := (Text.words foldingClasses).flatMap foldingWord
  let added := classes.flatMap fun members ↦
    if members.any s.contains then members.map fun n ↦ (n, n) else []
  CharSet.ofRanges (s.ranges.toList ++ added)

end EtcdBackup.Unicode
