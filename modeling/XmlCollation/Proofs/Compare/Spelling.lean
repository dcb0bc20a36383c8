import XmlCollation.Proofs.Compare.Signatures
import XmlCollation.Proofs.Compare.Steps

/-!
Contract: nodes written out in another spelling.

Owns:
- signatures and contents of which every tag, every name and value of an attribute and every
  text is spelled anew before it is quoted or escaped;
- the letter case of a whole signature or content, which is that of its pieces, each on its
  own;
- caches after earlier contents were read through them.

Does not own: which pieces are written, and in which order.
-/

namespace XmlCollation.Compare

open XmlCollation.Text
open XmlCollation.Tree
open XmlCollation.Markup

/-! ## Pieces spelled anew -/

namespace Visits

/-- A start tag with every piece spelled anew.  The attributes are those that count, in the
order of their names as the document spells them. -/
def spelledTag (visits : Visits) (spell : String → String) (node : Node) : String :=
  "<" ++ spell node.tag ++
    String.join ((countedAttributes (visits.excludedOf node) node).map fun entry =>
      writtenAttribute (spell entry.1, spell entry.2)) ++ ">"

mutual

/-- The content of a node with every piece spelled anew. -/
def spelledContent (visits : Visits) (spell : String → String) : Node → String
  | ⟨tag, attributes, children, text, position, line⟩ =>
      visits.spelledTag spell ⟨tag, attributes, children, text, position, line⟩ ++
        String.ofList (escapeText (spell text).toList) ++
        visits.spelledContents spell children ++ "</" ++ spell tag ++ ">"

/-- The same for the nodes that count, one after the other. -/
def spelledContents (visits : Visits) (spell : String → String) : List Node → String
  | [] => ""
  | node :: rest =>
      if visits.isSkipped node then visits.spelledContents spell rest
      else visits.spelledContent spell node ++ visits.spelledContents spell rest

end

variable (visits : Visits) (spell : String → String)

theorem spelledTag_toList (node : Node) :
    (visits.spelledTag spell node).toList =
      '<' :: ((spell node.tag).toList ++
        (countedAttributes (visits.excludedOf node) node).flatMap
          (fun entry => spelledAttribute
            ((spell entry.1).toList, quoteValue (spell entry.2).toList)) ++ ['>']) := by
  simp [spelledTag, spelledAttribute, List.flatMap_map, writtenAttribute_toList]

theorem spelledContents_toList (nodes : List Node) :
    (visits.spelledContents spell nodes).toList =
      (visits.kept nodes).flatMap fun node => (visits.spelledContent spell node).toList := by
  induction nodes with
  | nil => rfl
  | cons node rest inductionHypothesis =>
      rw [spelledContents]
      cases skipped : visits.isSkipped node <;>
        simp [kept, skipped, inductionHypothesis]

theorem spelledContent_toList (node : Node) :
    (visits.spelledContent spell node).toList =
      (visits.spelledTag spell node).toList ++
        (escapeText (spell node.text).toList ++
          ((visits.kept node.children).flatMap
              (fun child => (visits.spelledContent spell child).toList) ++
            '<' :: '/' :: ((spell node.tag).toList ++ ['>']))) := by
  cases node
  rw [spelledContent]
  simp [spelledContents_toList]

end Visits

/-! ## Letter case, piece by piece -/

/-- A text in the letter case that a comparison sees. -/
def Config.recast (config : Config) (text : String) : String :=
  String.ofList (config.fold text.toList)

theorem Config.recast_toList (config : Config) (text : String) :
    (config.recast text).toList = config.fold text.toList := by
  simp [Config.recast]

theorem recast_standard : Config.standard.recast = lowered :=
  rfl

theorem recast_exact : Config.exact.recast = id :=
  funext fun _ => String.ofList_toList

section Recast

variable (config : Config) (visits : Visits)

theorem spelledTag_recast_toList (node : Node) :
    (visits.spelledTag config.recast node).toList =
      '<' :: (config.fold (tagInside (visits.excludedOf node) node) ++ ['>']) := by
  rw [Visits.spelledTag_toList, fold_tagInside, List.flatMap_map]
  simp only [Config.recast_toList, shownAttribute]

/-- A signature is seen in a letter case in which each of its pieces is seen on its own. -/
theorem recast_signature (node : Node) :
    config.recast (visits.signature node) = visits.spelledTag config.recast node := by
  rw [← String.toList_inj, Config.recast_toList, fold_signature, spelledTag_recast_toList]

/-- So is a content: the marks between its pieces part them, and a reference keeps letters
apart as the character does that it stands for. -/
theorem recast_plainContent (node : Node) :
    config.recast (visits.plainContent node) = visits.spelledContent config.recast node := by
  induction node using Node.childInduction with
  | step node inductionHypothesis =>
      have children : (visits.kept node.children).flatMap (foldedContent config visits) =
          (visits.kept node.children).flatMap fun child =>
            (visits.spelledContent config.recast child).toList := by
        refine List.flatMap_congr fun child member => ?_
        rw [← inductionHypothesis child (Visits.mem_kept.1 member).1, Config.recast_toList,
          foldedContent]
      rw [← String.toList_inj, Config.recast_toList, ← foldedContent, foldedContent_eq, children,
        Visits.spelledContent_toList, spelledTag_recast_toList]
      simp [Config.recast_toList]

end Recast

/-! ## Contents read before -/

/-- A place whose content is read, and what is recorded at that time. -/
structure Inquiry where
  visits : Visits
  place : Place

def Inquiry.read (inquiry : Inquiry) (cache : ContentCache) : String × ContentCache :=
  inquiry.visits.content inquiry.place.address cache inquiry.place.node

/-- A cache of some size after contents were read through it, one after the other. -/
def cacheAfter (limit : Nat) (inquiries : List Inquiry) : ContentCache :=
  inquiries.foldl (fun cache inquiry => (inquiry.read cache).2) (.empty limit)

/-- The place is one of the tree, and the record leaves the same things out as another one. -/
structure Inquiry.IsAbout (inquiry : Inquiry) (visits : Visits) (root : Node) : Prop where
  reached : root.at? inquiry.place.address.reverse = some inquiry.place.node
  alike : inquiry.visits.Alike visits

section Inquiries

variable {visits : Visits} {root : Node} {place : Place} {inquiry : Inquiry}
  {inquiries : List Inquiry}

theorem Inquiry.IsAbout.sound_read (about : inquiry.IsAbout visits root) {cache : ContentCache}
    (sound : cache.Sound visits root) : (inquiry.read cache).2.Sound visits root := by
  have soundThen : cache.Sound inquiry.visits root := sound.of_alike about.alike.symm
  exact (Visits.content_sound soundThen _ _ about.reached).2.of_alike about.alike

theorem sound_cacheAfter (limit : Nat)
    (about : ∀ inquiry ∈ inquiries, inquiry.IsAbout visits root) :
    (cacheAfter limit inquiries).Sound visits root := by
  -- Reading goes on with the cache that the inquiry before left, so that any sound one is let in.
  have onward (cache : ContentCache) (sound : cache.Sound visits root) :
      (inquiries.foldl (fun cache inquiry => (inquiry.read cache).2) cache).Sound visits root := by
    induction inquiries generalizing cache with
    | nil => exact sound
    | cons inquiry rest inductionHypothesis =>
        have soundNext := (about inquiry List.mem_cons_self).sound_read sound
        exact inductionHypothesis (fun other member => about other (List.mem_cons_of_mem _ member))
          _ soundNext
  exact onward (.empty limit) (ContentCache.sound_empty limit)

/-- Lower-casing works on signatures and contents piece by piece.  They are written from tags,
names, values and texts as these are; their lower-case forms are written in the same way from
the lower-case form of each, quoted and escaped only then, with the attributes in the order
that they had.  The cache may have any size and may have served earlier inquiries; names need
not be such as a document can hold. -/
theorem lowered_eq_spelled (limit : Nat)
    (about : ∀ inquiry ∈ inquiries, inquiry.IsAbout visits root)
    (reached : root.at? place.address.reverse = some place.node) :
    visits.signature place.node = visits.spelledTag id place.node ∧
      lowered (visits.signature place.node) = visits.spelledTag lowered place.node ∧
      (visits.content place.address (cacheAfter limit inquiries) place.node).1 =
        visits.spelledContent id place.node ∧
      lowered (visits.content place.address (cacheAfter limit inquiries) place.node).1 =
        visits.spelledContent lowered place.node := by
  have plain : (visits.content place.address (cacheAfter limit inquiries) place.node).1 =
      visits.plainContent place.node :=
    (Visits.content_sound (sound_cacheAfter limit about) _ _ reached).1
  have asItIs (text : String) : text = Config.exact.recast text := by
    rw [recast_exact, id_eq]
  refine ⟨?_, ?_, ?_, ?_⟩
  · rw [asItIs (visits.signature place.node), recast_signature, recast_exact]
  · rw [← recast_standard, recast_signature]
  · rw [plain, asItIs (visits.plainContent place.node), recast_plainContent, recast_exact]
  · rw [plain, ← recast_standard, recast_plainContent]

end Inquiries

/-- `<ΟΔΟΣ ΣΑΣ="ΟΔΟΣ'Σ" Id="7" b='"ΑΣ'>ΑΣ:Σ<ΝΗΣΟΣ>ΑΣ&amp;Σ</ΝΗΣΟΣ><ΤΕΛΟΣ/></ΟΔΟΣ>`. -/
def capitalStreet : Node :=
  ⟨"ΟΔΟΣ", [("ΣΑΣ", "ΟΔΟΣ'Σ"), ("Id", "7"), ("b", "\"ΑΣ")],
    [⟨"ΝΗΣΟΣ", [], [], "ΑΣ&Σ", [0], none⟩, ⟨"ΤΕΛΟΣ", [], [], "", [1], none⟩], "ΑΣ:Σ", [], none⟩

/-- The identifier and the last child were taken out. -/
def streetVisits : Visits :=
  [([], { excluded := ["id"] }), ([1], { mark := .deep, skipped := true })]

/-- A sigma ends a word before a quote or a reference, but not before an apostrophe and a
letter.  The whole content comes out of the cache. -/
theorem lowered_capitalStreet :
    (streetVisits.advance capitalStreet .shallow).spelledTag lowered capitalStreet =
        "<οδος b='\"ας' σας=\"οδοσ'ς\">" ∧
      lowered ((streetVisits.advance capitalStreet .shallow).content []
        (cacheAfter 1 [⟨streetVisits, .root capitalStreet⟩]) capitalStreet).1 =
          "<οδος b='\"ας' σας=\"οδοσ'ς\">ασ:ς<νησος>ας&amp;σ</νησος></οδος>" := by
  have about : ∀ inquiry ∈ [(⟨streetVisits, .root capitalStreet⟩ : Inquiry)],
      inquiry.IsAbout (streetVisits.advance capitalStreet .shallow) capitalStreet := by
    intro inquiry member
    rw [List.mem_singleton.1 member]
    exact ⟨rfl, (Visits.alike_advance streetVisits capitalStreet .shallow).symm⟩
  have reached : capitalStreet.at? (Place.root capitalStreet).address.reverse =
      some (Place.root capitalStreet).node := rfl
  have spelled := lowered_eq_spelled 1 about reached
  exact ⟨by decide +kernel, spelled.2.2.2.trans (by decide +kernel)⟩

end XmlCollation.Compare
