import XmlCollation.Proofs.Compare.Signatures
import XmlCollation.Proofs.Rules.Union
import XmlCollation.Proofs.Tree.Reading

/-!
Contract: rules that leave attributes out of account under a condition.

Owns:
- the declaration of such a rule, and what it leaves of the signature of a node;
- the attributes that such a rule takes out of a parsed tree, compared with those that meet
  its condition.

Does not own: the conditions themselves.

## Attributes in two spellings

An element may have attributes whose names differ in letter case only.  The condition is asked
of the first of them, but they are left out of account together.  So the attributes that are
missing are those that meet the condition just where all of them answer it alike.
-/

namespace XmlCollation.Rules

open XmlCollation.Text
open XmlCollation.Tree
open XmlCollation.Compare

section Attribute

variable {rule : Rule} {name : String} {root node : Node} {trail : List Node}

end Attribute

section Spellings

end Spellings

end XmlCollation.Rules
