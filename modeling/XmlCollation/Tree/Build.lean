import XmlCollation.Markup.Document
import XmlCollation.Tree.Node

/-!
Contract: from the content of an element to a node.

Owns:
- the text of a node: the pieces of character data between its other items,
  trimmed, the empty ones dropped, joined by single spaces;
- the children: the elements among the items, each at the next index below the
  position of its parent.

Does not own: comments and instructions, which leave no trace but the break that
they make between pieces.
-/

namespace XmlCollation.Tree

open XmlCollation.Text
open XmlCollation.Markup

/-- The pieces of character data: the one before the first other item, and one
after each other item.  `current` is the beginning of the first piece. -/
def piecesFrom : List Char → List Item → List (List Char)
  | current, [] => [current]
  | current, .text chars :: rest => piecesFrom (current ++ chars.toList) rest
  | current, .aside _ :: rest => current :: piecesFrom [] rest
  | current, .element _ _ :: rest => current :: piecesFrom [] rest

def pieces (items : List Item) : List (List Char) :=
  piecesFrom [] items

/-- Pieces trimmed, without the empty ones, with a space between them. -/
def joinPieces (parts : List (List Char)) : List Char :=
  (((parts.map trim).filter (!·.isEmpty)).intersperse [' ']).flatten

def textOf (items : List Item) : String :=
  String.ofList (joinPieces (pieces items))

mutual

def nodeOf? (position : Position) : Item → Option Node
  | .text _ => none
  | .aside _ => none
  | .element head items =>
      some
        ⟨head.tag, head.attributes, nodesFrom position 0 items, textOf items, position,
          some (Int.ofNat head.line)⟩

/-- The nodes of the elements among items, numbered from `index` below `position`. -/
def nodesFrom (position : Position) (index : Nat) : List Item → List Node
  | [] => []
  | item :: rest =>
      match nodeOf? (position ++ [Int.ofNat index]) item with
      | some node => node :: nodesFrom position (index + 1) rest
      | none => nodesFrom position index rest

end

def Node.ofElement (element : Element) (position : Position) : Node :=
  ⟨element.head.tag, element.head.attributes, nodesFrom position 0 element.items,
    textOf element.items, position, some (Int.ofNat element.head.line)⟩

end XmlCollation.Tree
