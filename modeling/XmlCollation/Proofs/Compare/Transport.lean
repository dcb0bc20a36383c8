import XmlCollation.Proofs.Compare.LeastCost
import XmlCollation.Proofs.Compare.Partners

/-!
Contract: walks carried over to other trees.

Owns:
- maps of the nodes of both sides under which kept children, signatures, equality of
  contents and partners stay what they are;
- walks over the images find the images of what walks find;
- images with the keys of their originals, to which an offered policy gives the partners that
  the originals have.

Does not own: which maps there are.
-/

namespace XmlCollation.Compare

open XmlCollation.Tree
open XmlCollation.Rules (otherSide)

/-- The nodes of a side of an outlook, and those of the other side, are mapped to nodes
of another outlook that look the same.  `below` and `otherBelow` map siblings. -/
structure Carries (policy : Policy) (outlook outlook' : Outlook) (side side' : Side)
    (image otherImage : Node → Node) (below otherBelow : List Node → List Node) : Prop where
  children : ∀ node, (image node).children = below node.children
  otherChildren : ∀ other, (otherImage other).children = otherBelow other.children
  signature : ∀ node, outlook'.signature side' (image node) = outlook.signature side node
  sameContent : ∀ node other,
    outlook'.sameContent side' (image node) (otherImage other) =
      outlook.sameContent side node other
  kept : ∀ nodes, outlook'.kept side' (below nodes) = (outlook.kept side nodes).map image
  partner : ∀ (nodes others : List Node) (index : Nat) (node : Node),
    (outlook.kept side nodes)[index]? = some node →
      policy.partner? outlook' side' (below nodes) (otherBelow others) index =
        (policy.partner? outlook side nodes others index).map otherImage

section Carried

variable {policy : Policy} {outlook outlook' : Outlook} {side side' : Side}
  {image otherImage : Node → Node} {below otherBelow : List Node → List Node}
  {β γ : Type} {report : Report β} {report' : Report γ} {entry : β → γ}

/-- Walks over siblings are carried over if those over their pairs are. -/
theorem walkSiblings_carried_of
    (carries : Carries policy outlook outlook' side side' image otherImage below otherBelow)
    (lone : ∀ signature, report'.lone signature = (report.lone signature).map entry)
    (above : String) (nodes others : List Node)
    (walks : ∀ node ∈ nodes, ∀ other,
      walk policy outlook' side' report' above (image node) (otherImage other) =
        (walk policy outlook side report above node other).map entry) :
    walkSiblings policy outlook' side' report' above (below nodes) (otherBelow others) =
      (walkSiblings policy outlook side report above nodes others).map entry := by
  rw [walkSiblings_eq, walkSiblings_eq, carries.kept, List.zipIdx_map, List.flatMap_map,
    List.map_flatMap]
  refine List.flatMap_congr ?_
  rintro ⟨node, index⟩ member
  have atIndex := List.mem_zipIdx_iff_getElem?.1 member
  have inNodes : node ∈ nodes := (Visits.mem_kept.1 (List.mem_of_getElem? atIndex)).1
  simp only [Prod.map_apply, id_eq]
  rw [carries.partner nodes others index node atIndex]
  cases policy.partner? outlook side nodes others index with
  | some other => exact walks node inNodes other
  | none => rw [Option.map_none, walkSibling, walkSibling, carries.signature, lone]

/-- A walk over images finds the images of what the walk finds. -/
theorem walk_carried
    (carries : Carries policy outlook outlook' side side' image otherImage below otherBelow)
    (pair : ∀ signature node other, report'.pair signature (image node) (otherImage other) =
      (report.pair signature node other).map (List.map entry))
    (lone : ∀ signature, report'.lone signature = (report.lone signature).map entry)
    (above : String) (node other : Node) :
    walk policy outlook' side' report' above (image node) (otherImage other) =
      (walk policy outlook side report above node other).map entry := by
  induction node using Node.childInduction generalizing other above with
  | step node inductionHypothesis =>
      have children := walkSiblings_carried_of carries lone
        (above ++ outlook.signature side node) node.children other.children
        fun child member partner => inductionHypothesis child member _ partner
      rw [walk_eq, walk_eq, carries.sameContent, carries.signature, pair, carries.children,
        carries.otherChildren, children]
      split
      · rfl
      · cases report.pair (above ++ outlook.signature side node) node other <;> rfl

theorem walkSiblings_carried
    (carries : Carries policy outlook outlook' side side' image otherImage below otherBelow)
    (pair : ∀ signature node other, report'.pair signature (image node) (otherImage other) =
      (report.pair signature node other).map (List.map entry))
    (lone : ∀ signature, report'.lone signature = (report.lone signature).map entry)
    (above : String) (nodes others : List Node) :
    walkSiblings policy outlook' side' report' above (below nodes) (otherBelow others) =
      (walkSiblings policy outlook side report above nodes others).map entry :=
  walkSiblings_carried_of carries lone above nodes others
    fun node _ other => walk_carried carries pair lone above node other

/-- Reports that say the same of nodes and of their images are carried over as they are. -/
theorem walkSiblings_carried_same {report report' : Report β}
    (carries : Carries policy outlook outlook' side side' image otherImage below otherBelow)
    (pair : ∀ signature node other, report'.pair signature (image node) (otherImage other) =
      report.pair signature node other)
    (lone : ∀ signature, report'.lone signature = report.lone signature)
    (above : String) (nodes others : List Node) :
    walkSiblings policy outlook' side' report' above (below nodes) (otherBelow others) =
      walkSiblings policy outlook side report above nodes others := by
  have same : walkSiblings policy outlook' side' report' above (below nodes) (otherBelow others) =
      (walkSiblings policy outlook side report above nodes others).map id := by
    refine walkSiblings_carried carries ?_ ?_ above nodes others
    · intro signature node other
      rw [pair, List.map_id_fun, Option.map_id]
      rfl
    · intro signature
      rw [lone, List.map_id]
  rwa [List.map_id] at same

end Carried

/-! ## Images of equal keys -/

/-- The nodes of an outlook have images in another one, with their keys and signatures. -/
structure Outlook.Images (outlook outlook' : Outlook) (image : Side → Node → Node)
    (below : Side → List Node → List Node) : Prop where
  children : ∀ side node, (image side node).children = below side node.children
  kept : ∀ side nodes, outlook'.kept side (below side nodes) =
    (outlook.kept side nodes).map (image side)
  keys : ∀ side node, outlook'.keys side (image side node) = outlook.keys side node
  signature : ∀ side node, outlook'.signature side (image side node) = outlook.signature side node

section Images

variable {policy : Policy} {outlook outlook' : Outlook} {image : Side → Node → Node}
  {below : Side → List Node → List Node}

theorem Outlook.Images.keptPairing_eq (images : outlook.Images outlook' image below)
    (offered : policy.Offered) (prepared : outlook.Prepared) (prepared' : outlook'.Prepared)
    (nodes : Side → List Node) :
    policy.keptPairing outlook' (fun side => below side (nodes side)) =
      policy.keptPairing outlook nodes := by
  obtain ⟨choice, _, follows⟩ := offered.choice
  have keys (side : Side) :
      (outlook'.kept side (below side (nodes side))).map (outlook'.keys side) =
        (outlook.kept side (nodes side)).map (outlook.keys side) := by
    rw [images.kept, List.map_map]
    exact List.map_congr_left fun node _ => images.keys side node
  rw [Compare.keptPairing_eq follows prepared', Compare.keptPairing_eq follows prepared, keys, keys]

theorem Outlook.Images.partner?_eq (images : outlook.Images outlook' image below)
    (offered : policy.Offered) (prepared : outlook.Prepared) (prepared' : outlook'.Prepared)
    (nodes : Side → List Node) (side : Side) (index : Nat) :
    policy.partner? outlook' side (below side (nodes side))
        (below (otherSide side) (nodes (otherSide side))) index =
      (policy.partner? outlook side (nodes side) (nodes (otherSide side)) index).map
        (image (otherSide side)) := by
  have partner := @Compare.partner?_eq policy outlook' (fun walked => below walked (nodes walked))
    side index
  rw [images.keptPairing_eq offered prepared prepared', images.kept] at partner
  rw [partner, Compare.partner?_eq, Option.map_bind]
  refine congrArg _ (funext fun other => ?_)
  rw [List.getElem?_map]
  rfl

/-- Nothing of what comparisons look at is lost. -/
theorem Outlook.Images.carries (images : outlook.Images outlook' image below)
    (offered : policy.Offered) (prepared : outlook.Prepared) (prepared' : outlook'.Prepared)
    (side : Side) :
    Carries policy outlook outlook' side side (image side) (image (otherSide side)) (below side)
      (below (otherSide side)) where
  children := images.children side
  otherChildren := images.children (otherSide side)
  signature := images.signature side
  sameContent node other := by
    rw [Outlook.sameContent, Outlook.sameContent, images.keys, images.keys]
  kept := images.kept side
  partner nodes others index _ _ := by
    cases side with
    | first => exact images.partner?_eq offered prepared prepared' (bySide nodes others) .first index
    | second =>
        exact images.partner?_eq offered prepared prepared' (bySide others nodes) .second index

end Images

end XmlCollation.Compare
