import ApiProxy.DomainName.Direction
import ApiProxy.DomainName.Folding
import ApiProxy.DomainName.Joiner
import ApiProxy.DomainName.Punycode

/-!
# Domain names

The name of a host on the web: labels with dots between them. A name may be spelled in any
script; it is folded and composed, and a label that is encoded in ASCII is decoded, so that all
spellings of a name are read as the same labels.

A label has only characters that stay as they are when they are folded and composed, does not
begin with a mark, has joiners only where they may stand, and goes in one direction if any label
of the name has characters from right to left. Some ASCII characters would be taken for something
else in an address and stand in no name. The length of a name is not limited.
-/

namespace ApiProxy

/-- The name of a host, as its labels. -/
structure DomainName where
  labels : List (List Char)
deriving DecidableEq, Repr

namespace DomainName

/-- The printable ASCII characters that no name has. -/
def forbidden : List Char := "\"#%/:<>?@[\\]^\x60\x7b|\x7d".toList

/-- Whether a character stands in no name. -/
def isForbidden (c : Char) : Bool := c.toNat ≤ 0x20 || c.toNat == 0x7F || forbidden.contains c

/-- What a label that is encoded begins with. -/
def encodedStart : List Char := ['x', 'n', '-', '-']

/-- Whether a text is as a name has it. -/
def isPlain (cs : List Char) : Bool :=
  cs.all plainCharacters.contains && composed cs == cs

/-- Read the code of an encoded label. It has to stand for more than ASCII. -/
def decodeLabel? (code : List Char) : Option (List Char) :=
  if code.isEmpty || code.getLast? == some '-' then none
  else (Punycode.decode? code).filter isPlain

/-- The label that a folded and composed one stands for. -/
def plainLabel? (cs : List Char) : Option (List Char) :=
  if encodedStart.isPrefixOf cs then decodeLabel? (cs.drop encodedStart.length) else some cs

/-- Whether a label may stand in a name. -/
def isLabel (cs : List Char) : Bool :=
  !(cs.head?.map Text.isMark).getD false && joinersFit [] cs

/-- Whether labels can stand in one name: all go in one direction if it matters for any. -/
def areOneWay (labels : List (List Char)) : Bool :=
  !labels.any (·.any goesRight) || labels.all isOneWay

/-- Read a domain name, if a text is one. -/
def ofChars? (cs : List Char) : Option DomainName := do
  let folded ← cs.mapM fold?
  let text := composed folded.flatten
  if text.isEmpty || text.any isForbidden then none
  else
    let labels ← (text.splitOn '.').mapM plainLabel?
    if labels.all isLabel && areOneWay labels then some ⟨labels⟩ else none

end DomainName

end ApiProxy
