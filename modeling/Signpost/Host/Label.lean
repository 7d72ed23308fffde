import Signpost.Host.Composition
import Signpost.Host.Direction
import Signpost.Host.Joining
import Signpost.Host.Marks
import Signpost.Host.Punycode
import Signpost.Host.Repertoire
import Signpost.Text.Pieces

/-!
# Labels

A host name is made of labels between dots. A label that begins with `xn--` stands for one with other
than ASCII characters, in Punycode; any other label stands for itself.

* `characters?` gives what a label stands for, and refuses what no label may stand for.
* `isSoundName` says that a name in lower case has none but sound labels, which fit together.
-/

namespace Signpost.Host

/-- The length up to which the Punycode of a label is read. -/
def maxWritten : Nat := 2000

/-- The length up to which a label is accepted. -/
def maxCharacters : Nat := 1000

/-- A text that an `xn--` label may stand for: not in ASCII alone and not an `xn--` label again, from
the repertoire, without a mark in front, composed, and with none but joiners that have an effect. -/
def isUnicodeLabel (cs : List Char) : Bool :=
  cs.any (0x80 ≤ ·.toNat) && cs.length ≤ maxCharacters && cs.all isAllowed &&
    !cs.head?.any isMark && isComposed cs && joinersFit [] cs && !"xn--".toList.isPrefixOf cs

/-- The characters of a label. -/
def characters? (label : List Char) : Option (List Char) :=
  match label with
  | 'x' :: 'n' :: '-' :: '-' :: written =>
    if written.length ≤ maxWritten then (Punycode.decode? written).filter isUnicodeLabel else none
  | _ => some label

/-- The labels of a name can be read and fit together. Empty ones do not count. -/
def isSoundName (name : List Char) : Bool :=
  match ((pieces (· = '.') name).filter (!·.isEmpty)).mapM characters? with
  | some labels => directionsFit labels
  | none => false

end Signpost.Host
