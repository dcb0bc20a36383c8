import XmlCollation.Proofs.Compare.Mirror
import XmlCollation.Proofs.Compare.Ranks
import XmlCollation.Proofs.Compare.Refinement
import XmlCollation.Proofs.Compare.Transport
import Mathlib.Data.Multiset.AddSub

/-!
Contract: comparisons with their documents exchanged.

Owns:
- what a greedy comparison sees of exchanged documents, and the walks over them;
- exactly when the differences of exchanged documents mirror those of the documents.

Does not own: comparisons by an optimal pairing, which may choose otherwise.
-/

namespace XmlCollation.Compare

open XmlCollation.Tree
open XmlCollation.Rules (Rule otherSide markRules alike_markRules)

/-! ## Exchanged documents -/

/-- The documents of an outlook, exchanged. -/
structure Outlook.Exchanged (outlook exchanged : Outlook) : Prop where
  config : exchanged.config = outlook.config
  alike : ∀ side, (exchanged.visits (otherSide side)).Alike (outlook.visits side)

theorem ruledOutlook_exchanged (config : Config) (firstRules secondRules : List Rule)
    (first second : Node) :
    (ruledOutlook config firstRules secondRules first second).Exchanged
      (ruledOutlook config secondRules firstRules second first) := by
  have same (rule : Rule) : rule ∈ secondRules ++ firstRules ↔ rule ∈ firstRules ++ secondRules := by
    rw [List.mem_append, List.mem_append]
    exact or_comm
  rw [ruledOutlook_eq, ruledOutlook_eq]
  refine ⟨rfl, fun side => ?_⟩
  cases side with
  | first => exact alike_markRules same first []
  | second => exact alike_markRules same second []

section Exchanged

variable {outlook exchanged : Outlook}

theorem exchanged_kept (exchange : outlook.Exchanged exchanged) (side : Side)
    (nodes : List Node) :
    exchanged.kept (otherSide side) nodes = outlook.kept side nodes :=
  (exchange.alike side).kept_eq nodes

theorem exchanged_signature (exchange : outlook.Exchanged exchanged) (side : Side) (node : Node) :
    exchanged.signature (otherSide side) node = outlook.signature side node :=
  (exchange.alike side).signature_eq node

theorem exchanged_keys (exchange : outlook.Exchanged exchanged) (side : Side) (node : Node) :
    exchanged.keys (otherSide side) node = outlook.keys side node := by
  rw [Outlook.keys, Outlook.keys, exchange.config, Visits.signatureKey, Visits.signatureKey,
    (exchange.alike side).signature_eq, (exchange.alike side).plainContent_eq]

theorem exchanged_sameContent (exchange : outlook.Exchanged exchanged) (side : Side)
    (node other : Node) :
    exchanged.sameContent (otherSide side) node other = outlook.sameContent side node other := by
  rw [Outlook.sameContent, Outlook.sameContent, exchanged_keys exchange, exchanged_keys exchange]

theorem exchanged_ranked (exchange : outlook.Exchanged exchanged) (side : Side) (key : String)
    (nodes : List Node) :
    exchanged.ranked (otherSide side) key nodes = outlook.ranked side key nodes := by
  rw [Outlook.ranked, Outlook.ranked, exchanged_kept exchange]
  simp only [exchanged_keys exchange]

theorem exchanged_ofKey (exchange : outlook.Exchanged exchanged) (side : Side) (key : String)
    (nodes : List Node) :
    exchanged.ofKey (otherSide side) key nodes = outlook.ofKey side key nodes := by
  rw [← ranked_map_fst, ← ranked_map_fst, exchanged_ranked exchange]

/-- Greedily chosen partners are the same, since ranks are. -/
theorem exchanged_partner? (exchange : outlook.Exchanged exchanged) (prepared : outlook.Prepared)
    (preparedExchanged : exchanged.Prepared) {side : Side} {nodes others : List Node}
    {index : Nat} {node : Node} (atIndex : (outlook.kept side nodes)[index]? = some node) :
    Policy.greedy.partner? exchanged (otherSide side) nodes others index =
      Policy.greedy.partner? outlook side nodes others index := by
  obtain ⟨rank, ranked⟩ := exists_rank atIndex
  have rankedExchanged := ranked
  rw [← exchanged_ranked exchange] at rankedExchanged
  rw [greedy_partner?_siblings prepared ranked,
    greedy_partner?_siblings preparedExchanged rankedExchanged]
  exact congrArg (fun found => found[rank]?) (exchanged_ofKey exchange (otherSide side) _ others)

/-- To a greedy comparison, nothing changes but the sides. -/
theorem carries_exchanged (exchange : outlook.Exchanged exchanged) (prepared : outlook.Prepared)
    (preparedExchanged : exchanged.Prepared) (side : Side) :
    Carries Policy.greedy outlook exchanged side (otherSide side) id id id id where
  children _ := rfl
  otherChildren _ := rfl
  signature := exchanged_signature exchange side
  sameContent := exchanged_sameContent exchange side
  kept nodes := by
    rw [id, exchanged_kept exchange, List.map_id]
  partner nodes others index node atIndex := by
    rw [id, id, exchanged_partner? exchange prepared preparedExchanged atIndex, Option.map_id]
    rfl

theorem textEntry_otherSide (side : Side) (signature : String) (node other : Node) :
    textEntry (otherSide side) signature node other =
      (textEntry side signature node other).swapped := by
  cases side <;> rfl

theorem presenceDifference_otherSide (side : Side) (signature : String) :
    presenceDifference (otherSide side) signature =
      (presenceDifference side signature).swapped := by
  cases side <;> rfl

theorem full_exchanged (exchange : outlook.Exchanged exchanged) (prepared : outlook.Prepared)
    (preparedExchanged : exchanged.Prepared) (side : Side) (above : String)
    (nodes others : List Node) :
    walkSiblings Policy.greedy exchanged (otherSide side)
        (fullReport exchanged.config (otherSide side)) above nodes others =
      (walkSiblings Policy.greedy outlook side (fullReport outlook.config side) above nodes
        others).map Difference.swapped := by
  refine walkSiblings_carried (carries_exchanged exchange prepared preparedExchanged side) ?_ ?_
    above nodes others
  · intro signature node other
    rw [exchange.config, id, id]
    by_cases sameText : textKey outlook.config node = textKey outlook.config other
    · rw [fullReport, fullReport, stopAtTexts_equal sameText, stopAtTexts_equal sameText]
      rfl
    · rw [fullReport, fullReport, stopAtTexts_unequal sameText, stopAtTexts_unequal sameText,
        textEntry_otherSide]
      rfl
  · intro signature
    exact congrArg (fun entry => [entry]) (presenceDifference_otherSide side signature)

theorem lone_exchanged (exchange : outlook.Exchanged exchanged) (prepared : outlook.Prepared)
    (preparedExchanged : exchanged.Prepared) (side : Side) (above : String)
    (nodes others : List Node) :
    walkSiblings Policy.greedy exchanged (otherSide side) (loneReport (otherSide side)) above
        nodes others =
      (walkSiblings Policy.greedy outlook side (loneReport side) above nodes others).map
        Difference.swapped := by
  refine walkSiblings_carried (carries_exchanged exchange prepared preparedExchanged side)
    (fun _ _ _ => rfl) ?_ above nodes others
  intro signature
  exact congrArg (fun entry => [entry]) (presenceDifference_otherSide side signature)

end Exchanged

/-! ## Mirrored comparisons -/

/-- Of two lists that are made of the same texts and the same open parts, but of hidden
parts of their own, one is an arrangement of the other if the hidden parts are. -/
theorem perm_parts_iff {α : Type} {texts texts' open₁ open₂ hidden₁ hidden₂ : List α}
    (sameTexts : texts.Perm texts') :
    (texts ++ open₁ ++ (open₂ ++ hidden₂)).Perm (texts' ++ open₂ ++ (open₁ ++ hidden₁)) ↔
      hidden₂.Perm hidden₁ := by
  have common : (texts ++ open₁ ++ open₂).Perm (texts' ++ open₂ ++ open₁) := by
    rw [List.append_assoc, List.append_assoc]
    exact sameTexts.append List.perm_append_comm
  rw [← List.append_assoc, ← List.append_assoc]
  constructor
  · intro arranged
    exact (List.perm_append_left_iff _).1 (arranged.trans (common.symm.append_right hidden₁))
  · intro arranged
    exact common.append arranged

/-- Nodes of the first side that are hidden are not those of the second one. -/
theorem hidden_perm_iff {policy : Policy} {outlook : Outlook} (roots : Side → Node) :
    ((hiddenDifferences policy outlook roots .second).map
          (Difference.normalized outlook.config)).Perm
        ((hiddenDifferences policy outlook roots .first).map
          (Difference.normalized outlook.config)) ↔
      ∀ side, hiddenDifferences policy outlook roots side = [] := by
  have value (side : Side) (entry : Difference)
      (member : entry ∈ (hiddenDifferences policy outlook roots side).map
        (Difference.normalized outlook.config)) :
      entry.thisValue = bySide "YES" "NO" side := by
    obtain ⟨difference, hidden, rfl⟩ := List.mem_map.1 member
    exact (thisValue_of_mem_hidden hidden : difference.thisValue = _)
  constructor
  · intro arranged side
    refine List.eq_nil_iff_forall_not_mem.2 fun difference member => ?_
    have entry := List.mem_map_of_mem (f := Difference.normalized outlook.config) member
    have otherEntry : difference.normalized outlook.config ∈
        (hiddenDifferences policy outlook roots (otherSide side)).map
          (Difference.normalized outlook.config) := by
      cases side with
      | first => exact arranged.mem_iff.2 entry
      | second => exact arranged.mem_iff.1 entry
    have values := (value side _ entry).symm.trans (value (otherSide side) _ otherEntry)
    cases side <;> exact absurd values (by decide)
  · intro nothing
    rw [nothing, nothing]

/-- What is found of the first side in full and of the second one without texts is, in some
order, what is found the other way round, if and only if nothing is hidden. -/
theorem arrangement_iff {policy : Policy} {outlook : Outlook} (offered : policy.Offered)
    (prepared : outlook.Prepared) (roots : Side → Node) :
    ((atRoots policy outlook roots (fullReport outlook.config) .first ++
          atRoots policy outlook roots loneReport .second).map
        (Difference.normalized outlook.config)).Perm
      ((atRoots policy outlook roots (fullReport outlook.config) .second ++
          atRoots policy outlook roots loneReport .first).map
        (Difference.normalized outlook.config)) ↔
      ∀ side, hiddenDifferences policy outlook roots side = [] := by
  obtain ⟨choice, pairing, follows⟩ := offered.choice
  let found (report : Side → Report Difference) (side : Side) :=
    (atRoots policy outlook roots report side).map (Difference.normalized outlook.config)
  have full (side : Side) : (found (fullReport outlook.config) side).Perm
      (found (textReport outlook.config) side ++ found (openReport outlook.config) side) := by
    have parts := (walkSiblings_splits (@fullReport_splits policy outlook side) "" [roots side]
      [roots (otherSide side)]).map (Difference.normalized outlook.config)
    rwa [List.map_append] at parts
  have lone (side : Side) : (found loneReport side).Perm
      (found (openReport outlook.config) side ++ found (hiddenReport policy outlook) side) := by
    have parts := (walkSiblings_splits (@loneReport_splits policy outlook side) "" [roots side]
      [roots (otherSide side)]).map (Difference.normalized outlook.config)
    rwa [List.map_append] at parts
  have texts : (found (textReport outlook.config) .first).Perm
      (found (textReport outlook.config) .second) :=
    walkSiblings_texts_perm pairing follows prepared fun side => [roots side]
  have firstParts := (full .first).append (lone .second)
  have secondParts := (full .second).append (lone .first)
  rw [List.map_append, List.map_append]
  exact ((firstParts.congr_left _).trans (secondParts.congr_right _)).trans
    ((perm_parts_iff texts).trans (hidden_perm_iff roots))

variable {config : Config} {firstRules secondRules : List Rule} {first second : Node}

/-- The differences of exchanged documents mirror those of the documents if and only if
no node without a partner lies below unequal texts, in either of them. -/
theorem findings_mirrors_iff
    (firstDistinct : first.HasDistinctPositions) (secondDistinct : second.HasDistinctPositions) :
    Mirrors config (findings config Policy.greedy firstRules secondRules first second)
        (findings config Policy.greedy secondRules firstRules second first) ↔
      ∀ side, hiddenDifferences Policy.greedy
        (ruledOutlook config firstRules secondRules first second) (bySide first second) side =
          [] := by
  have exchange := ruledOutlook_exchanged config firstRules secondRules first second
  have prepared := ruledOutlook_prepared config firstRules secondRules first second
  have preparedExchanged := ruledOutlook_prepared config secondRules firstRules second first
  have sameConfig : (ruledOutlook config firstRules secondRules first second).config = config := by
    rw [ruledOutlook_eq]
  rw [findings_eq .greedy firstDistinct secondDistinct,
    findings_eq .greedy secondDistinct firstDistinct]
  generalize ruledOutlook config firstRules secondRules first second = outlook at *
  generalize ruledOutlook config secondRules firstRules second first = exchanged at *
  subst sameConfig
  have full : firstDifferences Policy.greedy exchanged second first =
      (atRoots Policy.greedy outlook (bySide first second) (fullReport outlook.config)
        .second).map Difference.swapped :=
    full_exchanged exchange prepared preparedExchanged .second "" [second] [first]
  have lone : secondDifferences Policy.greedy exchanged second first =
      (atRoots Policy.greedy outlook (bySide first second) loneReport .first).map
        Difference.swapped :=
    lone_exchanged exchange prepared preparedExchanged .first "" [first] [second]
  rw [full, lone, ← List.map_append, mirrors_swapped_iff]
  exact arrangement_iff .greedy prepared (bySide first second)

/-- Unequal texts hide the child of the first document only. -/
theorem not_mirrors_hidden_child :
    withoutChild.HasDistinctPositions ∧ withChild.HasDistinctPositions ∧
      ¬ Mirrors .standard (findings .standard Policy.greedy [] [] withoutChild withChild)
        (findings .standard Policy.greedy [] [] withChild withoutChild) := by
  refine ⟨by decide, by decide, ?_⟩
  decide +kernel

theorem mirrors_earlier_later :
    Mirrors .standard (findings .standard Policy.greedy [] [] earlierEntries laterEntries)
      (findings .standard Policy.greedy [] [] laterEntries earlierEntries) := by
  refine (findings_mirrors_iff (by decide) (by decide)).2 ?_
  intro side
  cases side <;> decide +kernel

end XmlCollation.Compare
