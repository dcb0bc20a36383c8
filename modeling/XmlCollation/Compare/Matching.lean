import XmlCollation.Compare.Comparison

/-!
Contract: matching of two trees.

Owns:
- the descent: siblings are paired level by level; a pair of equal content is
  matched deeply, and below any other pair the descent goes on;
- the record of a difference between the texts of a pair, on its first node.

Does not own: which siblings are paired, and what is reported of the unpaired ones.
-/

namespace XmlCollation.Compare

open XmlCollation.Tree

/-- The difference between the texts of a pair, under the signature of its place. -/
def textDifference (signature : String) (first second : Node) : Difference :=
  ⟨"Text of XML node " ++ signature, first.text, second.text⟩

def Comparison.compareTexts (comparison : Comparison) (signature : String)
    (first second : Node) : Comparison :=
  if textKey comparison.config first = textKey comparison.config second then comparison
  else
    (comparison.say .debug ("Text differs at " ++ signature)).updateVisits .first
      (·.record first (textDifference signature first second))

/-- Settles a pair.  `descend` goes on with the children, and `above` is the
signature of the place above the pair. -/
def Comparison.settle
    (descend : List Place → List Place → String → Comparison → Comparison)
    (above : String)
    (first second : Place)
    (comparison : Comparison) :
    Comparison :=
  let marked := comparison.markBoth .shallow first.node second.node
  let (equal, read) := marked.sameContent first second
  if equal then
    read.markBoth .deep first.node second.node
  else
    let signature := above ++ read.first.visits.signature first.node
    descend first.children second.children signature
      (read.compareTexts signature first.node second.node)

/-- Pairs the given siblings and settles the pairs in the order of the policy.
`depth` is the number of levels that the first siblings span at most. -/
def Comparison.matchSiblings (policy : Policy) :
    Nat → List Place → List Place → String → Comparison → Comparison
  | 0, _, _, _, comparison => comparison
  | depth + 1, first, second, above, comparison =>
      let (pairs, caches) := policy.pair comparison.outlook first second comparison.caches
      pairs.foldl
        (fun state pair =>
          match first[pair.1]?, second[pair.2]? with
          | some left, some right =>
              state.settle (Comparison.matchSiblings policy depth) above left right
          | _, _ => state)
        { comparison with caches := caches }

/-- Matches both trees.  Their roots are siblings above which there is nothing. -/
def Comparison.matchTrees (policy : Policy) (comparison : Comparison) : Comparison :=
  comparison.matchSiblings policy (comparison.first.root.height + 1)
    [Place.root comparison.first.root] [Place.root comparison.second.root] ""

/-- Matches what is below two places that are taken for a pair. -/
def Comparison.matchBelow (policy : Policy) (first second : Place) (comparison : Comparison) :
    Comparison :=
  let marked := comparison.markBoth .shallow first.node second.node
  marked.matchSiblings policy first.node.height first.children second.children
    (marked.first.visits.signature first.node)

end XmlCollation.Compare
