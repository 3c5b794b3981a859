import EtcdBackup.Text.Base64
import EtcdBackup.Text.Blank

/-!
# Sections of PEM files

A PEM file holds sections of base64 between a first line and a last line with the same label.
What stands between the sections is ignored.
-/

set_option autoImplicit false
set_option relaxedAutoImplicit false

namespace EtcdBackup.Pem

/-- A section of a file. -/
structure Section where
  label : String
  content : List UInt8

/-- The label in the line that begins or ends a section. -/
def label? (word line : String) : Option String :=
  (Text.dropHead? ("-----" ++ word ++ " ").toList line.toList).bind fun rest ↦
    (Text.dropTail? "-----".toList (Text.trim (String.ofList rest)).toList).map String.ofList

/-- The sections in lines; `inside` is the label and the base64 of the section that began. Nothing
if a section does not end or is no base64. -/
def sectionsOfLines? (inside : Option (String × String)) :
    List String → Option (List Section)
  | [] => if inside.isNone then some [] else none
  | line :: rest =>
    match inside with
    | none => sectionsOfLines? ((label? "BEGIN" line).map fun label ↦ (label, "")) rest
    | some (label, text) =>
      if label? "END" line = some label then do
        let content ← Base64.decode? text
        let others ← sectionsOfLines? none rest
        some (⟨label, content⟩ :: others)
      else sectionsOfLines? (some (label, text ++ Text.trim line)) rest

/-- The sections of a file. -/
def sections? (file : List UInt8) : Option (List Section) :=
  sectionsOfLines? none (Text.splitOn '\n' (Utf8.lossy file))

/-- Whether a file holds a certificate. -/
def hasCertificate (file : List UInt8) : Bool :=
  ((sections? file).getD []).any fun s ↦ s.label = "CERTIFICATE"

/-- Whether a file holds a private key. -/
def hasPrivateKey (file : List UInt8) : Bool :=
  ((sections? file).getD []).any fun s ↦
    ["PRIVATE KEY", "RSA PRIVATE KEY", "EC PRIVATE KEY"].contains s.label

end EtcdBackup.Pem
