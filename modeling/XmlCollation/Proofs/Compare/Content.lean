import Mathlib.Data.List.Basic
import XmlCollation.Compare.Fingerprint
import XmlCollation.Proofs.Tree.Structure

/-!
Contract: contents without the cache.

Owns:
- the children that count, and the content of a node by plain recursion;
- records that take the same things out of account, under which signatures and
  contents are the same;
- sound caches, which hold nothing but plain contents, and the proof that
  contents read through a sound cache are plain and leave it sound.

Does not own: the keys made of contents.
-/

namespace XmlCollation.Compare

open XmlCollation.Text
open XmlCollation.Tree
open XmlCollation.Markup

namespace Visits

/-! ## Plain contents -/

/-- The nodes that no rule took out. -/
def kept (visits : Visits) (nodes : List Node) : List Node :=
  nodes.filter fun node => !visits.isSkipped node

theorem mem_kept {visits : Visits} {nodes : List Node} {node : Node} :
    node ∈ visits.kept nodes ↔ node ∈ nodes ∧ visits.isSkipped node = false := by
  simp [kept]

mutual

/-- The content of a node, computed from the children that count. -/
def plainContent (visits : Visits) : Node → String
  | ⟨tag, attributes, children, text, position, line⟩ =>
      visits.wrap ⟨tag, attributes, children, text, position, line⟩
        (visits.plainContentAll children)

/-- The contents of the nodes that count, one after the other. -/
def plainContentAll (visits : Visits) : List Node → String
  | [] => ""
  | node :: rest =>
      if visits.isSkipped node then visits.plainContentAll rest
      else visits.plainContent node ++ visits.plainContentAll rest

end

theorem plainContent_eq (visits : Visits) (node : Node) :
    visits.plainContent node = visits.wrap node (visits.plainContentAll node.children) := by
  cases node
  rw [plainContent]

theorem plainContentAll_toList (visits : Visits) (nodes : List Node) :
    (visits.plainContentAll nodes).toList =
      (visits.kept nodes).flatMap fun node => (visits.plainContent node).toList := by
  induction nodes with
  | nil => rfl
  | cons node rest inductionHypothesis =>
      rw [plainContentAll]
      cases skipped : visits.isSkipped node <;>
        simp [kept, skipped, inductionHypothesis]

/-! ## Records that leave the same things out -/

/-- The same nodes are skipped, and the same attribute names excluded. -/
structure Alike (visits other : Visits) : Prop where
  skipped : ∀ position,
    (visits.recorded position).skipped = (other.recorded position).skipped
  excluded : ∀ position name,
    name ∈ (visits.recorded position).excluded ↔ name ∈ (other.recorded position).excluded

theorem Alike.refl (visits : Visits) : Alike visits visits :=
  ⟨fun _ => rfl, fun _ _ => Iff.rfl⟩

theorem Alike.symm {visits other : Visits} (alike : Alike visits other) : Alike other visits :=
  ⟨fun position => (alike.skipped position).symm,
    fun position name => (alike.excluded position name).symm⟩

theorem Alike.trans {first second third : Visits}
    (left : Alike first second) (right : Alike second third) : Alike first third :=
  ⟨fun position => (left.skipped position).trans (right.skipped position),
    fun position name => (left.excluded position name).trans (right.excluded position name)⟩

variable {visits other : Visits}

theorem Alike.isSkipped_eq (alike : Alike visits other) (node : Node) :
    visits.isSkipped node = other.isSkipped node :=
  alike.skipped node.position

theorem Alike.kept_eq (alike : Alike visits other) (nodes : List Node) :
    visits.kept nodes = other.kept nodes := by
  simp only [kept, alike.isSkipped_eq]

theorem countedAttributes_congr {excluded excluded' : List String}
    (same : ∀ name, name ∈ excluded ↔ name ∈ excluded') (node : Node) :
    countedAttributes excluded node = countedAttributes excluded' node := by
  have contains (name : String) : excluded.contains name = excluded'.contains name := by
    rw [Bool.eq_iff_iff, List.contains_iff_mem, List.contains_iff_mem]
    exact same name
  simp only [countedAttributes, contains]

theorem signatureWith_congr {excluded excluded' : List String}
    (same : ∀ name, name ∈ excluded ↔ name ∈ excluded') (node : Node) :
    signatureWith excluded node = signatureWith excluded' node := by
  rw [signatureWith, signatureWith, countedAttributes_congr same]

theorem Alike.signature_eq (alike : Alike visits other) (node : Node) :
    visits.signature node = other.signature node :=
  signatureWith_congr (alike.excluded node.position) node

theorem Alike.plainContent_eq (alike : Alike visits other) (node : Node) :
    visits.plainContent node = other.plainContent node := by
  induction node using Node.childInduction with
  | step node inductionHypothesis =>
      have children :
          visits.plainContentAll node.children = other.plainContentAll node.children := by
        rw [← String.toList_inj, plainContentAll_toList, plainContentAll_toList,
          alike.kept_eq]
        refine List.flatMap_congr fun child member => ?_
        rw [inductionHypothesis child (mem_kept.1 member).1]
      rw [Visits.plainContent_eq, Visits.plainContent_eq, wrap, wrap, alike.signature_eq, children]

end Visits

/-! ## Sound caches -/

/-- Every stored content is the plain content of the node at its address. -/
def ContentCache.Sound (cache : ContentCache) (visits : Visits) (root : Node) : Prop :=
  ∀ address content node, cache.find? address = some content →
    root.at? address.reverse = some node → content = visits.plainContent node

namespace ContentCache

variable {visits : Visits} {root : Node} {cache : ContentCache}

theorem sound_empty (limit : Nat) : (empty limit).Sound visits root := by
  intro address content node found
  simp [empty, find?] at found

theorem Sound.of_alike {other : Visits} (alike : visits.Alike other)
    (sound : cache.Sound visits root) : cache.Sound other root := by
  intro address content node found reached
  rw [← alike.plainContent_eq]
  exact sound address content node found reached

theorem Sound.store (sound : cache.Sound visits root) {address : Address} {node : Node}
    (reached : root.at? address.reverse = some node) :
    (cache.store address (visits.plainContent node)).Sound visits root := by
  intro other content found present reachedOther
  rcases find?_store cache address other _ content present with ⟨same, stored⟩ | before
  · rw [same, reached, Option.some.injEq] at reachedOther
    rw [stored, reachedOther]
  · exact sound other content found before reachedOther

theorem find?_touch {address : Address} {content : String}
    (present : cache.find? address = some content) (other : Address) :
    (cache.touch address content).find? other = cache.find? other := by
  have elsewhere (entries : List (Address × String)) (different : other ≠ address) :
      (entries.filter fun entry => entry.1 != address).lookup other = entries.lookup other := by
    induction entries with
    | nil => rfl
    | cons entry rest inductionHypothesis =>
        obtain ⟨key, value⟩ := entry
        by_cases isAddress : key = address
        · subst isAddress
          have unequal : (other == key) = false := by simpa using different
          simp [List.lookup_cons, unequal, inductionHypothesis]
        · by_cases isOther : other = key
          · subst isOther
            simp [isAddress]
          · have unequal : (other == key) = false := by simpa using isOther
            simp [List.lookup_cons, isAddress, unequal, inductionHypothesis]
  by_cases same : other = address
  · subst same
    rw [present]
    simp [touch, find?]
  · have unequal : (other == address) = false := by simpa using same
    simp only [touch, find?, others, List.lookup_cons, unequal]
    exact elsewhere cache.entries same

theorem Sound.touch (sound : cache.Sound visits root) {address : Address} {content : String}
    (present : cache.find? address = some content) :
    (cache.touch address content).Sound visits root := by
  intro other found node presentOther reached
  rw [find?_touch present] at presentOther
  exact sound other found node presentOther reached

end ContentCache

/-! ## Reading through a sound cache -/

namespace Visits

variable {visits : Visits} {root : Node}

mutual

/-- A content read through a sound cache is the plain one, and the cache stays sound. -/
theorem content_sound {cache : ContentCache} (sound : cache.Sound visits root)
    (address : Address) :
    (node : Node) → root.at? address.reverse = some node →
      (visits.content address cache node).1 = visits.plainContent node ∧
        (visits.content address cache node).2.Sound visits root
  | ⟨tag, attributes, children, text, position, line⟩, reached => by
      rw [content]
      split
      · rename_i content present
        exact ⟨sound address content _ present reached, sound.touch present⟩
      · have below := contentAll_sound sound address 0 children fun offset child atOffset => by
          rw [List.reverse_cons, Node.at?_append_singleton, reached, Nat.zero_add]
          exact atOffset
        have wrapped :
            visits.wrap ⟨tag, attributes, children, text, position, line⟩
                (visits.contentAll address 0 cache children).1 =
              visits.plainContent ⟨tag, attributes, children, text, position, line⟩ := by
          rw [below.1, Visits.plainContent_eq]
        refine ⟨wrapped, ?_⟩
        change ((visits.contentAll address 0 cache children).2.store address (visits.wrap _ _)).Sound
          visits root
        rw [wrapped]
        exact below.2.store reached

theorem contentAll_sound {cache : ContentCache} (sound : cache.Sound visits root)
    (address : Address) (index : Nat) :
    (nodes : List Node) →
      (∀ offset node, nodes[offset]? = some node →
        root.at? ((index + offset) :: address).reverse = some node) →
      (visits.contentAll address index cache nodes).1 = visits.plainContentAll nodes ∧
        (visits.contentAll address index cache nodes).2.Sound visits root
  | [], _ => ⟨rfl, sound⟩
  | node :: rest, reached => by
      have restReached : ∀ offset other, rest[offset]? = some other →
          root.at? ((index + 1 + offset) :: address).reverse = some other := by
        intro offset other atOffset
        have shifted := reached (offset + 1) other (by simpa using atOffset)
        rwa [show index + (offset + 1) = index + 1 + offset by omega] at shifted
      rw [contentAll, plainContentAll]
      split
      · exact contentAll_sound sound address (index + 1) rest restReached
      · have first := content_sound sound (index :: address) node (reached 0 node rfl)
        have others := contentAll_sound first.2 address (index + 1) rest restReached
        exact ⟨by rw [← first.1, ← others.1], others.2⟩

end

end Visits

end XmlCollation.Compare
