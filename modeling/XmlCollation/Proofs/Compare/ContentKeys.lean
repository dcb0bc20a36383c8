import XmlCollation.Proofs.Compare.StartTags

/-!
Contract: what the key of a content says about a subtree.

Owns:
- contents are equal if and only if their parts are: start tags, texts, and the contents of the
  children that count, one after the other;
- the same for the keys of contents that are read through caches.

Does not own: which nodes are asked for their contents, and when.
-/

namespace XmlCollation.Compare

open XmlCollation.Text
open XmlCollation.Tree
open XmlCollation.Markup

/-! ## Contents and their parts -/

section Parts

variable {config : Config} {visits visits' : Visits} {node other : Node}

/-- Functions agree along two lists if and only if their values make up one list. -/
theorem forall₂_values_iff {α β γ : Type} {f : α → γ} {g : β → γ} {xs : List α} {ys : List β} :
    List.Forall₂ (fun x y => f x = g y) xs ys ↔ xs.map f = ys.map g := by
  rw [← List.forall₂_eq_eq_eq, List.forall₂_map_left_iff, List.forall₂_map_right_iff]

/-- Equal parts make equal contents. The tag in the end tag is that of the start tag, which ends
before the first space or bracket. -/
theorem SameParts.foldedContent_eq (parts : SameParts config visits visits' node other)
    (parsed : HasParsedNames node) (otherParsed : HasParsedNames other) :
    foldedContent config visits node = foldedContent config visits' other := by
  have tag : config.fold node.tag.toList = config.fold other.tag.toList :=
    ((fold_tagInside_eq_iff config (parsed_at_node parsed) (parsed_at_node otherParsed)).1
      parts.signature).1
  have children : (visits.kept node.children).flatMap (foldedContent config visits) =
      (visits'.kept other.children).flatMap (foldedContent config visits') := by
    rw [List.flatMap_def, List.flatMap_def]
    exact congrArg List.flatten (forall₂_values_iff.1 parts.children)
  rw [Compare.foldedContent_eq, Compare.foldedContent_eq, parts.signature, parts.text, tag,
    children]

theorem foldedContent_eq_iff (parsed : HasParsedNames node) (otherParsed : HasParsedNames other) :
    foldedContent config visits node = foldedContent config visits' other ↔
      SameParts config visits visits' node other :=
  ⟨sameParts_of_foldedContent_eq config parsed otherParsed,
    fun parts => parts.foldedContent_eq parsed otherParsed⟩

end Parts

/-! ## Keys that are read through caches -/

namespace Visits

/-- The key of the content of a place, as it is read through one of several caches. -/
def readKey (visits : Visits) (config : Config) (caches : Place → ContentCache) (place : Place) :
    String :=
  (visits.contentKey config place (caches place)).1

/-- The places that no rule took out. -/
def keptPlaces (visits : Visits) (places : List Place) : List Place :=
  places.filter fun place => !visits.isSkipped place.node

/-- The place is one of the tree, and each cache holds nothing but plain contents of the tree. -/
structure ReadsFrom (visits : Visits) (root : Node) (caches : Place → ContentCache)
    (place : Place) : Prop where
  reached : root.at? place.address.reverse = some place.node
  sound : ∀ other, (caches other).Sound visits root

variable {config : Config} {visits : Visits} {root : Node} {caches : Place → ContentCache}
  {place : Place}

theorem ReadsFrom.readKey_toList (reads : visits.ReadsFrom root caches place) (config : Config) :
    (visits.readKey config caches place).toList = foldedContent config visits place.node := by
  rw [readKey, (contentKey_sound (reads.sound place) config reads.reached).1,
    normalize_plainContent_toList]

theorem ReadsFrom.child (reads : visits.ReadsFrom root caches place) {child : Place}
    (member : child ∈ visits.keptPlaces place.children) : visits.ReadsFrom root caches child :=
  ⟨Place.children_areIn reads.reached child (List.mem_filter.1 member).1, reads.sound⟩

theorem keptPlaces_map_node (visits : Visits) (place : Place) :
    (visits.keptPlaces place.children).map Place.node = visits.kept place.node.children := by
  rw [keptPlaces, kept, ← place.children_map_node, List.filter_map]
  rfl

/-- The keys of the children that count spell out their contents. -/
theorem ReadsFrom.children_toList (reads : visits.ReadsFrom root caches place) (config : Config) :
    ((visits.keptPlaces place.children).map (visits.readKey config caches)).map String.toList =
      (visits.kept place.node.children).map (foldedContent config visits) := by
  rw [← keptPlaces_map_node, List.map_map, List.map_map]
  exact List.map_congr_left fun child member => (reads.child member).readKey_toList config

end Visits

section Keys

variable {config config' : Config} {visits visits' : Visits} {root root' : Node}
  {caches caches' : Place → ContentCache} {place place' : Place}

/-- Of nodes with parsed names, the keys of contents are equal if and only if the signature keys
are, the texts are, in the letter case that counts, and so are the keys of the contents of the
children that no rule took out, one after the other. -/
theorem readKey_eq_iff (sameCase : config.ignoreCase = config'.ignoreCase)
    (reads : visits.ReadsFrom root caches place) (reads' : visits'.ReadsFrom root' caches' place')
    (parsed : HasParsedNames place.node) (parsed' : HasParsedNames place'.node) :
    visits.readKey config caches place = visits'.readKey config' caches' place' ↔
      visits.signatureKey config place.node = visits'.signatureKey config' place'.node ∧
        config.fold place.node.text.toList = config'.fold place'.node.text.toList ∧
        (visits.keptPlaces place.children).map (visits.readKey config caches) =
          (visits'.keptPlaces place'.children).map (visits'.readKey config' caches') := by
  -- Only letter case matters of the settings, so that one config may stand for both.
  have sameFold : config'.fold = config.fold := Config.fold_congr sameCase.symm
  have sameNormalize : config'.normalize = config.normalize := Config.normalize_congr sameCase.symm
  have content' : (visits'.readKey config' caches' place').toList =
      foldedContent config visits' place'.node := by
    rw [reads'.readKey_toList, foldedContent, sameFold]
    rfl
  have signature' : visits'.signatureKey config' place'.node =
      visits'.signatureKey config place'.node := by
    rw [Visits.signatureKey, sameNormalize]
    rfl
  have children' : ((visits'.keptPlaces place'.children).map
        (visits'.readKey config' caches')).map String.toList =
      (visits'.kept place'.node.children).map (foldedContent config visits') := by
    rw [reads'.children_toList]
    exact List.map_congr_left fun child _ => congrFun sameFold (visits'.plainContent child).toList
  have childrenIff : (visits.keptPlaces place.children).map (visits.readKey config caches) =
        (visits'.keptPlaces place'.children).map (visits'.readKey config' caches') ↔
      List.Forall₂
        (fun child child' => foldedContent config visits child = foldedContent config visits' child')
        (visits.kept place.node.children) (visits'.kept place'.node.children) := by
    rw [forall₂_values_iff, ← reads.children_toList config, ← children']
    exact (List.map_injective_iff.2 fun _ _ => String.toList_inj.1).eq_iff.symm
  rw [← String.toList_inj, reads.readKey_toList, content', foldedContent_eq_iff parsed parsed',
    signature', signatureKey_eq_iff, sameFold, childrenIff]
  exact ⟨fun parts => ⟨parts.signature, parts.text, parts.children⟩,
    fun parts => ⟨parts.1, parts.2.1, parts.2.2⟩⟩

end Keys

/-- `<Sign At='"A"&amp;B'>ΟΔΟΣ &lt;1&gt;<X/></Sign>`. -/
def capitalSign : Node :=
  ⟨"Sign", [("At", "\"A\"&B")], [⟨"X", [], [], "", [0], none⟩], "ΟΔΟΣ <1>", [], none⟩

/-- `<sign at='"a"&amp;b'>οδος &lt;1&gt;<time/><x/></sign>`. -/
def smallSign : Node :=
  ⟨"sign", [("at", "\"a\"&b")], [⟨"time", [], [], "", [0], none⟩, ⟨"x", [], [], "", [1], none⟩],
    "οδος <1>", [], none⟩

/-- The first child was taken out. -/
def withoutTime : Visits :=
  [([0], { mark := .deep, skipped := true })]

/-- The last letter of a word has a small form of its own. -/
theorem readKey_capital_small :
    Visits.readKey [] .standard (fun _ => .empty 1) (.root capitalSign) =
      withoutTime.readKey { Config.standard with mode := .optimal } (fun _ => .empty 2)
        (.root smallSign) :=
  (readKey_eq_iff rfl ⟨rfl, fun _ => ContentCache.sound_empty 1⟩
    ⟨rfl, fun _ => ContentCache.sound_empty 2⟩ (by decide +kernel) (by decide +kernel)).2
      ⟨by decide +kernel, by decide +kernel, by decide +kernel⟩

end XmlCollation.Compare
