import LintServer.Text.Escaped
import LintServer.Unicode.Case
import LintServer.Uri.Percent
import LintServer.Uri.Punycode

/-!
# Domain names

A domain name is compared without regard to case, so it is kept in lower case. Its labels are kept in
ASCII: a label with other characters is written in Punycode behind `xn--`, and a label that starts so
has to be what such a label is written as.
-/

namespace LintServer.Uri

open LintServer.Unicode

/-- The pieces of a text between separators. -/
def splitAtChar (sep : Char) : List Char → List (List Char)
  | [] => [[]]
  | c :: cs =>
    if c = sep then [] :: splitAtChar sep cs
    else
      match splitAtChar sep cs with
      | [] => [[c]]
      | s :: ss => (c :: s) :: ss

/-- The characters that no host contains. -/
def forbiddenInHost : List Char :=
  ['\x00', '\t', '\n', '\r', ' ', '#', '/', ':', '<', '>', '?', '@', '[', '\\', ']', '^', '|']

/-- Whether an ASCII character may not stand in a domain name. -/
def forbiddenInDomain (c : Char) : Bool := isControl c || c == '%' || forbiddenInHost.contains c

/-- Characters that are not seen and do not count in a domain name. -/
def unseenSet : CharSet :=
  CharSet.ofRanges [⟨0xAD, 0xAD⟩, ⟨0x34F, 0x34F⟩, ⟨0x180B, 0x180F⟩, ⟨0x200B, 0x200B⟩, ⟨0x2060, 0x2060⟩,
    ⟨0x2064, 0x2064⟩, ⟨0xFE00, 0xFE0F⟩, ⟨0xFEFF, 0xFEFF⟩, ⟨0xE0100, 0xE01EF⟩]

/-- The full stops of other scripts. -/
def fullStops : List Char := ['。', '．', '｡']

/-- The form of a character in which domain names are compared: in lower case, of ordinary width. -/
def foldDomainChar (c : Char) : List Char :=
  if unseenSet.contains c then []
  else if fullStops.contains c then ['.']
  else if 0xFF01 ≤ c.toNat ∧ c.toNat ≤ 0xFF5E then [(Char.ofNat (c.toNat - 0xFEE0)).toLower]
  else lowerChar c

/-- The marks, which modify the character before them. -/
def markSet : CharSet := Property.leaves ["mn", "mc", "me"]

/-- Whether a folded label may stand in a domain name. -/
def isLabel (label : List Char) : Bool :=
  (label.head?.map fun c => !markSet.contains c).getD true &&
    label.all fun c => if c.toNat < 0x80 then !forbiddenInDomain c else !hiddenSet.contains c

/-- The ASCII form of a folded label. -/
def asciiLabel? (label : List Char) : Option (List Char) :=
  match label with
  | 'x' :: 'n' :: '-' :: '-' :: coded =>
    match Punycode.decode? coded with
    | some inner =>
      if isLabel inner && inner.any (0x80 ≤ ·.toNat) && inner.flatMap foldDomainChar == inner then some label
      else none
    | none => none
  | _ =>
    if !isLabel label then none
    else if label.all (·.toNat < 0x80) then some label
    else some (['x', 'n', '-', '-'] ++ Punycode.encode label)

/-- The ASCII form of a domain name. -/
def asciiDomain? (name : List Char) : Option (List Char) :=
  ((splitAtChar '.' (name.flatMap foldDomainChar)).mapM asciiLabel?).map (['.'].intercalate ·)

end LintServer.Uri
