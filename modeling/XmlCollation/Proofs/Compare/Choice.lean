import Mathlib.Data.List.Nodup
import XmlCollation.Compare.Comparison
import XmlCollation.Proofs.Compare.Content
import XmlCollation.Proofs.Rules.Records

/-!
Contract: what the pairing of siblings depends on.

Owns:
- the keys of a sibling, and choices, which pair siblings knowing nothing but
  their keys;
- policies that follow a choice through any sound cache, and the laws of a choice
  that make it a pairing;
- the pairing of siblings that were kept;
- the choice that the greedy policy follows.

Does not own: which pairing is a good one.
-/

namespace XmlCollation.Compare

open XmlCollation.Text
open XmlCollation.Tree
open XmlCollation.Rules (otherSide)

/-! ## Keys -/

/-- The records of a side. -/
def Outlook.visits (outlook : Outlook) : Side → Visits
  | .first => outlook.first
  | .second => outlook.second

/-- What a policy learns about a sibling. -/
structure SiblingKeys where
  signature : String
  content : String
deriving DecidableEq, Repr

/-- The keys of a node of a side. -/
def Outlook.keys (outlook : Outlook) (side : Side) (node : Node) : SiblingKeys :=
  ⟨(outlook.visits side).signatureKey outlook.config node,
    outlook.config.normalize ((outlook.visits side).plainContent node)⟩

/-- Pairs of indexes into two lists of siblings of which the keys are known. -/
abbrev Choice := List SiblingKeys → List SiblingKeys → List (Nat × Nat)

/-- A choice pairs siblings of equal signatures, and none of them twice. -/
structure Choice.IsPairing (choice : Choice) : Prop where
  sameSignature : ∀ rows columns, ∀ pair ∈ choice rows columns,
    ∃ row column, rows[pair.1]? = some row ∧ columns[pair.2]? = some column ∧
      row.signature = column.signature
  rows_nodup : ∀ rows columns, ((choice rows columns).map Prod.fst).Nodup
  columns_nodup : ∀ rows columns, ((choice rows columns).map Prod.snd).Nodup

/-! ## Unvisited siblings -/

theorem unvisitedFrom_map_node (visits : Visits) (index : Nat) (places : List Place) :
    (unvisitedFrom visits index places).map (fun entry => entry.2.node) =
      (places.map Place.node).filter visits.isUnvisited := by
  induction places generalizing index with
  | nil => rfl
  | cons place rest inductionHypothesis =>
      rw [unvisitedFrom, List.map_cons, List.filter_cons]
      split <;> simp [inductionHypothesis]

theorem unvisited_map_node (visits : Visits) (places : List Place) :
    (unvisited visits places).map (fun entry => entry.2.node) =
      (places.map Place.node).filter visits.isUnvisited :=
  unvisitedFrom_map_node visits 0 places

theorem getElem?_of_mem_unvisitedFrom {visits : Visits} {index : Nat} {places : List Place}
    {entry : Nat × Place} (member : entry ∈ unvisitedFrom visits index places) :
    index ≤ entry.1 ∧ places[entry.1 - index]? = some entry.2 := by
  induction places generalizing index with
  | nil => simp [unvisitedFrom] at member
  | cons place rest inductionHypothesis =>
      have later (inRest : entry ∈ unvisitedFrom visits (index + 1) rest) :
          index ≤ entry.1 ∧ (place :: rest)[entry.1 - index]? = some entry.2 := by
        obtain ⟨bound, atIndex⟩ := inductionHypothesis inRest
        refine ⟨by omega, ?_⟩
        rw [show entry.1 - index = entry.1 - (index + 1) + 1 by omega, List.getElem?_cons_succ]
        exact atIndex
      rw [unvisitedFrom] at member
      split at member
      · rcases List.mem_cons.1 member with rfl | inRest
        · simp
        · exact later inRest
      · exact later member

theorem getElem?_of_mem_unvisited {visits : Visits} {places : List Place}
    {entry : Nat × Place} (member : entry ∈ unvisited visits places) :
    places[entry.1]? = some entry.2 :=
  (getElem?_of_mem_unvisitedFrom member).2

theorem siblingIndex_eq {entries : List (Nat × Place)} {index : Nat} {entry : Nat × Place}
    (atIndex : entries[index]? = some entry) :
    siblingIndex entries index = entry.1 := by
  simp [siblingIndex, atIndex]

/-! ## Policies that follow a choice -/

/-- Both caches are sound. -/
structure Caches.Sound (caches : Caches) (outlook : Outlook) (firstRoot secondRoot : Node) :
    Prop where
  first : caches.first.Sound outlook.first firstRoot
  second : caches.second.Sound outlook.second secondRoot

/-- Places that lie in the tree. -/
def Place.AreIn (places : List Place) (root : Node) : Prop :=
  ∀ place ∈ places, root.at? place.address.reverse = some place.node

/-- The keys of the unvisited ones among places. -/
def Outlook.unvisitedKeys (outlook : Outlook) (side : Side) (places : List Place) :
    List SiblingKeys :=
  (unvisited (outlook.visits side) places).map fun entry => outlook.keys side entry.2.node

/-- The policy pairs what the choice pairs, and leaves sound caches sound. -/
structure Policy.Follows (policy : Policy) (choice : Choice) : Prop where
  pair_eq : ∀ (outlook : Outlook) (firstRoot secondRoot : Node) (left right : List Place)
    (caches : Caches),
    Place.AreIn left firstRoot → Place.AreIn right secondRoot →
      caches.Sound outlook firstRoot secondRoot →
        (policy.pair outlook left right caches).1 =
            (choice (outlook.unvisitedKeys .first left) (outlook.unvisitedKeys .second right)).map
              (fun pair => (siblingIndex (unvisited outlook.first left) pair.1,
                siblingIndex (unvisited outlook.second right) pair.2)) ∧
          (policy.pair outlook left right caches).2.Sound outlook firstRoot secondRoot

theorem contentKey_sound {visits : Visits} {root : Node} {cache : ContentCache}
    (sound : cache.Sound visits root) (config : Config) {place : Place}
    (reached : root.at? place.address.reverse = some place.node) :
    (visits.contentKey config place cache).1 =
        config.normalize (visits.plainContent place.node) ∧
      (visits.contentKey config place cache).2.Sound visits root := by
  have read := Visits.content_sound sound place.address place.node reached
  exact ⟨congrArg config.normalize read.1, read.2⟩

/-! ## Siblings that were kept -/

/-- Pairs of indexes into two lists of siblings, none of them visited, with nothing
read before. -/
def Policy.pairing (policy : Policy) (outlook : Outlook) (first second : List Node) :
    List (Nat × Nat) :=
  (policy.pair outlook (placesFrom [] 0 first) (placesFrom [] 0 second)
    ⟨.empty outlook.config.cacheSize, .empty outlook.config.cacheSize⟩).1

theorem placesFrom_areIn {nodes : List Node} {root : Node} (address : Address) (index : Nat)
    (reached : ∀ offset node, nodes[offset]? = some node →
      root.at? ((index + offset) :: address).reverse = some node) :
    Place.AreIn (placesFrom address index nodes) root := by
  induction nodes generalizing index with
  | nil => simp [Place.AreIn, placesFrom]
  | cons node rest inductionHypothesis =>
      intro place member
      rw [placesFrom] at member
      rcases List.mem_cons.1 member with rfl | inRest
      · exact reached 0 node rfl
      · refine inductionHypothesis (index + 1) ?_ place inRest
        intro offset other atOffset
        have shifted := reached (offset + 1) other (by simpa using atOffset)
        rwa [show index + (offset + 1) = index + 1 + offset by omega] at shifted

theorem Place.children_map_node (place : Place) :
    place.children.map Place.node = place.node.children :=
  placesFrom_map_node place.address 0 place.node.children

theorem Place.children_areIn {place : Place} {root : Node}
    (reached : root.at? place.address.reverse = some place.node) :
    Place.AreIn place.children root := by
  refine placesFrom_areIn place.address 0 fun offset child atOffset => ?_
  rw [List.reverse_cons, Node.at?_append_singleton, reached, Nat.zero_add]
  exact atOffset

theorem unvisitedFrom_of_all {visits : Visits} {places : List Place} (index : Nat)
    (all : ∀ place ∈ places, visits.isUnvisited place.node = true) :
    (unvisitedFrom visits index places).map (·.1) = List.range' index places.length := by
  induction places generalizing index with
  | nil => rfl
  | cons place rest inductionHypothesis =>
      rw [unvisitedFrom, all place (by simp), if_pos rfl, List.map_cons,
        inductionHypothesis (index + 1) fun other member => all other (by simp [member])]
      rfl

theorem siblingIndex_of_all {visits : Visits} {places : List Place}
    (all : ∀ place ∈ places, visits.isUnvisited place.node = true) (index : Nat) :
    siblingIndex (unvisited visits places) index = index := by
  rw [siblingIndex, unvisited, ← List.getElem?_map, unvisitedFrom_of_all 0 all,
    ← List.range_eq_range']
  by_cases inRange : index < places.length
  · rw [List.getElem?_range inRange, Option.getD_some]
  · rw [List.getElem?_eq_none (by simpa using inRange), Option.getD_none]

theorem unvisitedKeys_of_all (outlook : Outlook) (side : Side) {places : List Place}
    (all : ∀ place ∈ places, (outlook.visits side).isUnvisited place.node = true) :
    outlook.unvisitedKeys side places =
      places.map fun place => outlook.keys side place.node := by
  have nodes := unvisited_map_node (outlook.visits side) places
  rw [List.filter_eq_self.2 (by simpa using all)] at nodes
  have keys := congrArg (List.map (outlook.keys side)) nodes
  rwa [List.map_map, List.map_map] at keys

/-- A policy that follows a choice pairs kept siblings as the choice pairs their keys. -/
theorem Policy.Follows.pairing_eq {policy : Policy} {choice : Choice}
    (follows : policy.Follows choice) {outlook : Outlook}
    (firstPrepared : outlook.first.Prepared) (secondPrepared : outlook.second.Prepared)
    {first second : List Node}
    (firstKept : ∀ node ∈ first, outlook.first.isSkipped node = false)
    (secondKept : ∀ node ∈ second, outlook.second.isSkipped node = false) :
    policy.pairing outlook first second =
      choice (first.map (outlook.keys .first)) (second.map (outlook.keys .second)) := by
  have inTree (nodes : List Node) :
      Place.AreIn (placesFrom [] 0 nodes) ⟨"", [], nodes, "", [], none⟩ := by
    refine placesFrom_areIn [] 0 fun offset node atOffset => ?_
    simp [Node.at?, atOffset]
  have unvisitedOf {visits : Visits} (prepared : visits.Prepared) {nodes : List Node}
      (kept : ∀ node ∈ nodes, visits.isSkipped node = false) :
      ∀ place ∈ placesFrom [] 0 nodes, visits.isUnvisited place.node = true := by
    intro place member
    have inNodes : place.node ∈ nodes := by
      rw [← placesFrom_map_node [] 0 nodes]
      exact List.mem_map_of_mem member
    rw [prepared.isUnvisited_eq, kept _ inNodes]
    rfl
  have firstAll := unvisitedOf firstPrepared firstKept
  have secondAll := unvisitedOf secondPrepared secondKept
  have keysOf (side : Side) (nodes : List Node) :
      (placesFrom [] 0 nodes).map (fun place => outlook.keys side place.node) =
        nodes.map (outlook.keys side) := by
    conv => rhs; rw [← placesFrom_map_node [] 0 nodes]
    rw [List.map_map]
    rfl
  rw [Policy.pairing, (follows.pair_eq outlook _ _ _ _ _ (inTree first) (inTree second)
    ⟨ContentCache.sound_empty _, ContentCache.sound_empty _⟩).1,
    unvisitedKeys_of_all outlook .first firstAll,
    unvisitedKeys_of_all outlook .second secondAll, keysOf, keysOf]
  simp only [siblingIndex_of_all firstAll, siblingIndex_of_all secondAll, List.map_id']

/-! ## First come, first served -/

/-- Indexes with the keys of signatures. -/
def indexedSignatures (siblings : List SiblingKeys) : List (Nat × String) :=
  siblings.zipIdx.map fun entry => (entry.2, entry.1.signature)

/-- Each sibling takes the first one of equal signature that nobody took. -/
def greedyChoice : Choice := fun rows columns =>
  takeFirst (indexedSignatures rows) (indexedSignatures columns)

theorem find?_map_index (f : Nat → Nat) (key : String) (columns : List (Nat × String)) :
    (columns.map (Prod.map f id)).find? (fun candidate => candidate.2 == key) =
      (columns.find? fun candidate => candidate.2 == key).map (Prod.map f id) := by
  induction columns with
  | nil => rfl
  | cons column rest inductionHypothesis =>
      simp only [List.map_cons, List.find?_cons, Prod.map_snd, id_eq, inductionHypothesis]
      cases column.2 == key <;> rfl

theorem eraseP_map_index (f : Nat → Nat) (key : String) (columns : List (Nat × String)) :
    (columns.map (Prod.map f id)).eraseP (fun other => other.2 == key) =
      (columns.eraseP fun other => other.2 == key).map (Prod.map f id) := by
  rw [List.eraseP_map]
  rfl

/-- Taking the first free candidate does not look at the indexes. -/
theorem takeFirst_map_index (f g : Nat → Nat) (rows columns : List (Nat × String)) :
    takeFirst (rows.map (Prod.map f id)) (columns.map (Prod.map g id)) =
      (takeFirst rows columns).map (Prod.map f g) := by
  induction rows generalizing columns with
  | nil => rfl
  | cons row rest inductionHypothesis =>
      obtain ⟨index, key⟩ := row
      simp only [List.map_cons, Prod.map_apply, id_eq, takeFirst, find?_map_index,
        eraseP_map_index]
      cases columns.find? (fun candidate => candidate.2 == key) with
      | none => exact inductionHypothesis columns
      | some candidate =>
          simp only [Option.map_some, List.map_cons, inductionHypothesis]
          rfl

/-- Whoever is paired was there, on either side, with one and the same key. -/
theorem mem_takeFirst {rows columns : List (Nat × String)} {pair : Nat × Nat}
    (member : pair ∈ takeFirst rows columns) :
    ∃ key, (pair.1, key) ∈ rows ∧ (pair.2, key) ∈ columns := by
  induction rows generalizing columns with
  | nil => simp [takeFirst] at member
  | cons row rest inductionHypothesis =>
      obtain ⟨index, key⟩ := row
      rw [takeFirst] at member
      split at member
      · rename_i candidate found
        rcases List.mem_cons.1 member with rfl | inRest
        · have sameKey : candidate.2 = key := by simpa using List.find?_some found
          exact ⟨key, by simp, sameKey ▸ List.mem_of_find?_eq_some found⟩
        · obtain ⟨other, inRows, inColumns⟩ := inductionHypothesis inRest
          exact ⟨other, by simp [inRows], List.mem_of_mem_eraseP inColumns⟩
      · obtain ⟨other, inRows, inColumns⟩ := inductionHypothesis member
        exact ⟨other, by simp [inRows], inColumns⟩

theorem takeFirst_rows_sublist (rows columns : List (Nat × String)) :
    ((takeFirst rows columns).map Prod.fst).Sublist (rows.map Prod.fst) := by
  induction rows generalizing columns with
  | nil => exact .slnil
  | cons row rest inductionHypothesis =>
      obtain ⟨index, key⟩ := row
      rw [takeFirst]
      split
      · exact (inductionHypothesis _).cons_cons index
      · exact (inductionHypothesis _).cons index

/-- Taking the first candidate with a key leaves what stands before and after it. -/
theorem eraseP_of_find?_eq_some {key : String} {columns : List (Nat × String)}
    {candidate : Nat × String}
    (found : columns.find? (fun other => other.2 == key) = some candidate) :
    candidate.2 = key ∧
      ∃ before after, columns = before ++ candidate :: after ∧
        columns.eraseP (fun other => other.2 == key) = before ++ after ∧
        ∀ other ∈ before, other.2 ≠ key := by
  obtain ⟨sameKey, before, after, split, noneBefore⟩ := List.find?_eq_some_iff_append.1 found
  have different : ∀ other ∈ before, ¬((other.2 == key) = true) := by
    intro other member equal
    have unequal := noneBefore other member
    rw [equal] at unequal
    contradiction
  refine ⟨by simpa using sameKey, before, after, split, ?_, ?_⟩
  · rw [split, List.eraseP_append_right _ different,
      List.eraseP_cons_of_pos (p := fun other : Nat × String => other.2 == key) sameKey]
  · intro other member
    simpa using different other member

theorem nodup_takeFirst_columns (rows : List (Nat × String)) {columns : List (Nat × String)}
    (distinct : (columns.map Prod.fst).Nodup) :
    ((takeFirst rows columns).map Prod.snd).Nodup := by
  induction rows generalizing columns with
  | nil => exact .nil
  | cons row rest inductionHypothesis =>
      obtain ⟨index, key⟩ := row
      rw [takeFirst]
      split
      · rename_i candidate found
        obtain ⟨_, before, after, split, erased, _⟩ := eraseP_of_find?_eq_some found
        rw [split, List.map_append, List.map_cons, List.nodup_middle, List.nodup_cons,
          ← List.map_append, ← erased] at distinct
        refine List.nodup_cons.2 ⟨?_, inductionHypothesis distinct.2⟩
        intro again
        obtain ⟨pair, inRest, sameColumn⟩ := List.mem_map.1 again
        obtain ⟨other, _, stillThere⟩ := mem_takeFirst inRest
        rw [sameColumn] at stillThere
        exact distinct.1 (List.mem_map.2 ⟨_, stillThere, rfl⟩)
      · exact inductionHypothesis distinct

theorem mem_indexedSignatures {siblings : List SiblingKeys} {index : Nat} {key : String} :
    (index, key) ∈ indexedSignatures siblings ↔
      ∃ sibling, siblings[index]? = some sibling ∧ sibling.signature = key := by
  simp only [indexedSignatures, List.mem_map, List.mem_zipIdx_iff_getElem?, Prod.mk.injEq]
  constructor
  · rintro ⟨⟨sibling, _⟩, atIndex, rfl, rfl⟩
    exact ⟨sibling, atIndex, rfl⟩
  · rintro ⟨sibling, atIndex, rfl⟩
    exact ⟨(sibling, index), atIndex, rfl, rfl⟩

theorem indexedSignatures_fst (siblings : List SiblingKeys) :
    (indexedSignatures siblings).map Prod.fst = List.range siblings.length := by
  have indexes : (indexedSignatures siblings).map Prod.fst = siblings.zipIdx.map Prod.snd := by
    rw [indexedSignatures, List.map_map]
    rfl
  rw [indexes, List.zipIdx_map_snd, List.range_eq_range']

theorem indexedSignatures_indexes (siblings : List SiblingKeys) :
    ((indexedSignatures siblings).map Prod.fst).Nodup := by
  rw [indexedSignatures_fst]
  exact List.nodup_range

theorem greedyChoice_isPairing : greedyChoice.IsPairing where
  sameSignature := by
    intro rows columns pair member
    obtain ⟨key, inRows, inColumns⟩ := mem_takeFirst member
    obtain ⟨row, atRow, rowKey⟩ := mem_indexedSignatures.1 inRows
    obtain ⟨column, atColumn, columnKey⟩ := mem_indexedSignatures.1 inColumns
    exact ⟨row, column, atRow, atColumn, rowKey.trans columnKey.symm⟩
  rows_nodup := fun rows columns =>
    (takeFirst_rows_sublist _ _).nodup (indexedSignatures_indexes rows)
  columns_nodup := fun _ columns => nodup_takeFirst_columns _ (indexedSignatures_indexes columns)

/-- The keys that the greedy policy compares are the indexed signatures of the
unvisited siblings, with their indexes among all siblings. -/
theorem signatureKeys_unvisited (outlook : Outlook) (side : Side) (places : List Place) :
    signatureKeys (outlook.visits side) outlook.config (unvisited (outlook.visits side) places) =
      (indexedSignatures (outlook.unvisitedKeys side places)).map
        (Prod.map (siblingIndex (unvisited (outlook.visits side) places)) id) := by
  apply List.ext_getElem?
  intro index
  simp only [signatureKeys, indexedSignatures, Outlook.unvisitedKeys, List.map_map,
    List.getElem?_map, List.getElem?_zipIdx, Option.map_map, Nat.zero_add]
  cases atIndex : (unvisited (outlook.visits side) places)[index]? with
  | none => rfl
  | some entry => simp [siblingIndex_eq atIndex, Outlook.keys]

theorem greedy_follows : Policy.greedy.Follows greedyChoice where
  pair_eq := by
    intro outlook firstRoot secondRoot left right caches _ _ sound
    refine ⟨?_, sound⟩
    change takeFirst
        (signatureKeys (outlook.visits .first) outlook.config
          (unvisited (outlook.visits .first) left))
        (signatureKeys (outlook.visits .second) outlook.config
          (unvisited (outlook.visits .second) right)) = _
    rw [signatureKeys_unvisited, signatureKeys_unvisited, takeFirst_map_index]
    rfl

end XmlCollation.Compare
