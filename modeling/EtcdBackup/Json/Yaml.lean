import EtcdBackup.Json.Printer

/-!
# JSON values as YAML

A value in block style: members and items on lines of their own, indented by what they belong to.
Texts stand in quotes unless they are plain words.
-/

set_option autoImplicit false
set_option relaxedAutoImplicit false

namespace EtcdBackup.Yaml

/-- Whether a text can stand without quotes. -/
def isPlain (s : String) : Bool :=
  match s.toList with
  | [] => false
  | c :: rest =>
    c.isAlpha && (rest.all fun c ↦ c.isAlphanum || " .,;/()-_".contains c) &&
      rest.getLast? ≠ some ' ' && !(["true", "false", "null", "yes", "no", "on", "off"].contains s)

/-- A text, in quotes if it needs them. -/
def scalar (s : String) : String := if isPlain s then s else (Json.string s).compact

/-- The spaces in front of a line. -/
def indent (depth : Nat) : String := String.ofList (List.replicate depth ' ')

mutual

/-- What stands behind a key or a dash: a scalar on the same line, or the lines below. -/
def behind (depth : Nat) : Json → List String
  | .string s => [" " ++ scalar s]
  | .object [] => [" \x7b\x7d"]
  | .array [] => [" []"]
  | .object members => "" :: memberLines depth members
  | .array items => "" :: itemLines depth items
  | j => [" " ++ j.compact]

/-- The lines of members. -/
def memberLines (depth : Nat) : List (String × Json) → List String
  | [] => []
  | (key, j) :: rest => attach (indent depth ++ scalar key ++ ":") (behind (depth + 2) j) ++
    memberLines depth rest

/-- The lines of items. -/
def itemLines (depth : Nat) : List Json → List String
  | [] => []
  | j :: rest => attach (indent depth ++ "-") (behind (depth + 2) j) ++ itemLines depth rest

/-- Puts the first line behind a text. -/
def attach (front : String) : List String → List String
  | [] => [front]
  | line :: rest => (front ++ line) :: rest

end

/-- The text of a value. -/
def text (j : Json) : String :=
  let lines := match j with
    | .object (m :: rest) => memberLines 0 (m :: rest)
    | .array (i :: rest) => itemLines 0 (i :: rest)
    | j => behind 0 j
  String.join (lines.map (· ++ "\n"))

end EtcdBackup.Yaml
