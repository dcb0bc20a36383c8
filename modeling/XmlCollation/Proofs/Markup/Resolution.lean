import Mathlib.Data.List.TakeDrop
import XmlCollation.Markup.Encoded
import XmlCollation.Proofs.Markup.References

/-!
Contract: the heads of a document that was read.

Owns:
- lawful scopes, which bind to references only;
- the heads of all elements of a document, each of which a start tag resolves to under some
  lawful scope;
- the shape of resolved names: a plain name, alone or behind a reference in braces.

Does not own: what references consist of.
-/

namespace XmlCollation.Markup

/-- What succeeds in two steps succeeds in the first one, and then in the second one. -/
theorem exists_of_bind_eq_ok {ε α β : Type} {first : Except ε α} {next : α → Except ε β}
    {result : β} (done : first >>= next = .ok result) :
    ∃ found, first = .ok found ∧ next found = .ok result := by
  cases first with
  | error fault => cases done
  | ok found => exact ⟨found, rfl, done⟩

/-! ## Scopes -/

/-- Every binding is to a reference, or takes a namespace away. -/
def Scope.IsLawful (scope : Scope) : Prop :=
  ∀ binding ∈ scope, binding.2 = "" ∨ Uri.isReference binding.2.toList = true

theorem isLawful_outermost : Scope.outermost.IsLawful := by
  intro binding member
  obtain rfl := List.mem_singleton.1 member
  exact .inr (by decide +kernel)

theorem Scope.IsLawful.append {inner outer : Scope} (innerLawful : inner.IsLawful)
    (outerLawful : outer.IsLawful) : Scope.IsLawful (inner ++ outer) :=
  List.forall_mem_append.2 ⟨innerLawful, outerLawful⟩

/-- A name with a meaning has it by a reference. -/
theorem Scope.IsLawful.isReference {scope : Scope} (lawful : scope.IsLawful)
    {label uri : String} (bound : scope.space? label = some uri) :
    Uri.isReference uri.toList = true := by
  rw [space?, Option.filter_eq_some_iff] at bound
  obtain ⟨found, nonempty⟩ := bound
  obtain ⟨front, behind, rfl, -⟩ := List.lookup_eq_some_iff.1 found
  have member := lawful (label, uri) (List.mem_append_right _ List.mem_cons_self)
  exact member.resolve_left (bne_iff_ne.1 nonempty)

theorem isReference_of_declaredBinding? {name : QualifiedName} {value : String}
    {binding : String × String} (declared : declaredBinding? name value = .ok (some binding)) :
    binding.2 = "" ∨ Uri.isReference binding.2.toList = true := by
  unfold declaredBinding? at declared
  split at declared
  · split at declared
    · cases declared
      exact .inl rfl
    · split at declared
      · cases declared
      · split at declared
        · rename_i reference
          cases declared
          exact .inr reference
        · cases declared
  · split at declared
    · split at declared <;> cases declared
    · split at declared
      · cases declared
      · split at declared
        · rename_i reference
          cases declared
          exact .inr reference
        · cases declared
  · cases declared

theorem isLawful_of_declaredBindings {attributes : List (QualifiedName × String)}
    {bindings : List (String × String)} (declared : declaredBindings attributes = .ok bindings) :
    Scope.IsLawful bindings := by
  induction attributes generalizing bindings with
  | nil =>
      cases declared
      exact nofun
  | cons entry rest inductionHypothesis =>
      rw [declaredBindings] at declared
      obtain ⟨found, first, behindFirst⟩ := exists_of_bind_eq_ok declared
      cases found with
      | none => exact inductionHypothesis behindFirst
      | some binding =>
          obtain ⟨later, others, made⟩ := exists_of_bind_eq_ok behindFirst
          cases made
          exact List.forall_mem_cons.2
            ⟨isReference_of_declaredBinding? first, inductionHypothesis others⟩

/-! ## Start tags -/

/-- What a start tag says under the scope around it: its name and its attributes have their
meaning by the scope inside, which its declarations open. -/
structure Resolves (scope : Scope) (written : String) (attributes : List (String × String))
    (head : Head) (inner : Scope) (name : QualifiedName)
    (cut : List (QualifiedName × String)) : Prop where
  name_cut : QualifiedName.ofWritten? written = some name
  attributes_cut : splitAttributes attributes = .ok cut
  scope_eq : ∃ bindings, declaredBindings cut = .ok bindings ∧ inner = bindings ++ scope
  tag_eq : head.tag = expandedName (inner.space? (name.space.getD "")) name.part
  attributes_eq : resolveAttributes inner cut = .ok head.attributes

theorem exists_resolves {scope inner : Scope} {written : String}
    {attributes : List (String × String)} {line : Nat} {head : Head}
    (resolved : resolveHead scope written attributes line = .ok (head, inner)) :
    ∃ name cut, Resolves scope written attributes head inner name cut := by
  unfold resolveHead at resolved
  split at resolved
  · rename_i name nameCut
    obtain ⟨cut, attributesCut, behindCut⟩ := exists_of_bind_eq_ok resolved
    obtain ⟨bindings, declared, behindBindings⟩ := exists_of_bind_eq_ok behindCut
    refine ⟨name, cut, ?_⟩
    -- However the tag is found, the attributes are resolved in the scope inside.
    have finish {tag : String}
        (tagged : tag = expandedName (Scope.space? (bindings ++ scope) (name.space.getD ""))
          name.part)
        (done : (do
          let data ← resolveAttributes (bindings ++ scope) cut
          if !keysDistinct data then .error .attribute
          return (⟨tag, data, line⟩, bindings ++ scope)) = Except.ok (head, inner)) :
        Resolves scope written attributes head inner name cut := by
      obtain ⟨data, found, behindData⟩ := exists_of_bind_eq_ok done
      split at behindData
      · cases behindData
      · cases behindData
        exact ⟨nameCut, attributesCut, ⟨bindings, declared, rfl⟩, tagged, found⟩
    simp only at behindBindings
    split at behindBindings
    · cases behindBindings
    · split at behindBindings
      · rename_i unprefixed
        exact finish (by rw [unprefixed]; rfl) behindBindings
      · rename_i label labelled
        split at behindBindings
        · rename_i bound
          exact finish (by rw [labelled, Option.getD_some, bound]) behindBindings
        · cases behindBindings
  · cases resolved

/-- The scope inside a start tag is as lawful as the one around it. -/
theorem Resolves.isLawful {scope inner : Scope} {written : String}
    {attributes : List (String × String)} {head : Head} {name : QualifiedName}
    {cut : List (QualifiedName × String)}
    (resolves : Resolves scope written attributes head inner name cut)
    (lawful : scope.IsLawful) : inner.IsLawful := by
  obtain ⟨bindings, declared, rfl⟩ := resolves.scope_eq
  exact (isLawful_of_declaredBindings declared).append lawful

/-! ## Heads -/

mutual

/-- The heads of the elements of an item, in document order. -/
def Item.heads : Item → List Head
  | .text _ => []
  | .aside _ => []
  | .element head items => head :: headsAll items

def headsAll : List Item → List Head
  | [] => []
  | item :: rest => item.heads ++ headsAll rest

end

def Element.heads (element : Element) : List Head :=
  element.head :: headsAll element.items

theorem headsAll_append (items others : List Item) :
    headsAll (items ++ others) = headsAll items ++ headsAll others := by
  induction items with
  | nil => rfl
  | cons item rest inductionHypothesis =>
      rw [List.cons_append, headsAll, headsAll, inductionHypothesis, List.append_assoc]

/-- The head is what some start tag says under some lawful scope. -/
def Head.IsResolved (head : Head) : Prop :=
  ∃ scope : Scope, scope.IsLawful ∧ ∃ written attributes inner name cut,
    Resolves scope written attributes head inner name cut

mutual

theorem isResolved_of_resolveItem : (raw : RawItem) →
    ∀ {retention : Retention} {scope : Scope} {items : List Item}, scope.IsLawful →
      resolveItem retention scope raw = .ok items →
        ∀ head ∈ headsAll items, head.IsResolved
  | .text _, _, _, _, _, resolved => by
      cases resolved
      simp [headsAll, Item.heads]
  | .aside kind, retention, _, _, _, resolved => by
      cases kind with
      | reference =>
          cases resolved
          simp [headsAll, Item.heads]
      | comment =>
          cases resolved
          cases retention.remarks <;> simp [headsAll, Item.heads]
      | instruction =>
          cases resolved
          cases retention.remarks <;> simp [headsAll, Item.heads]
  | .reference raws, retention, _, _, lawful, resolved => by
      rw [resolveItem] at resolved
      obtain ⟨items, inside, kept⟩ := exists_of_bind_eq_ok resolved
      cases kept
      cases retention.expandReferences with
      | false => simp [headsAll, Item.heads]
      | true => exact isResolved_of_resolveItems raws lawful inside
  | .element written attributes line raws, _, scope, _, lawful, resolved => by
      rw [resolveItem] at resolved
      obtain ⟨⟨head, inner⟩, opened, behindHead⟩ := exists_of_bind_eq_ok resolved
      obtain ⟨items, inside, made⟩ := exists_of_bind_eq_ok behindHead
      cases made
      obtain ⟨name, cut, resolves⟩ := exists_resolves opened
      intro other member
      rw [headsAll, headsAll, List.append_nil, Item.heads, List.mem_cons] at member
      rcases member with rfl | below
      · exact ⟨scope, lawful, written, attributes, inner, name, cut, resolves⟩
      · exact isResolved_of_resolveItems raws (resolves.isLawful lawful) inside other below

theorem isResolved_of_resolveItems : (raws : List RawItem) →
    ∀ {retention : Retention} {scope : Scope} {items : List Item}, scope.IsLawful →
      resolveItems retention scope raws = .ok items →
        ∀ head ∈ headsAll items, head.IsResolved
  | [], _, _, _, _, resolved => by
      cases resolved
      simp [headsAll]
  | raw :: rest, _, _, _, lawful, resolved => by
      rw [resolveItems] at resolved
      obtain ⟨items, first, behindFirst⟩ := exists_of_bind_eq_ok resolved
      obtain ⟨further, others, made⟩ := exists_of_bind_eq_ok behindFirst
      cases made
      intro head member
      rw [headsAll_append, List.mem_append] at member
      rcases member with inFirst | inOthers
      · exact isResolved_of_resolveItem raw lawful first head inFirst
      · exact isResolved_of_resolveItems rest lawful others head inOthers

end

/-- The heads of a document come from its start tags. -/
theorem isResolved_of_readDocument {retention : Retention} {chars : List Char} {element : Element}
    (read : readDocument retention chars = .ok element) :
    ∀ head ∈ element.heads, head.IsResolved := by
  unfold readDocument at read
  obtain ⟨⟨raw, _⟩, _, behindDocument⟩ := exists_of_bind_eq_ok read
  obtain ⟨items, resolved, behindItems⟩ := exists_of_bind_eq_ok behindDocument
  split at behindItems
  · cases behindItems
    have inItems := isResolved_of_resolveItem raw isLawful_outermost resolved
    rwa [headsAll, headsAll, List.append_nil, Item.heads] at inItems
  · cases behindItems

theorem isResolved_of_readEncoded {retention : Retention} {bytes : List UInt8} {element : Element}
    (read : readEncoded retention bytes = .ok element) :
    ∀ head ∈ element.heads, head.IsResolved := by
  unfold readEncoded at read
  obtain ⟨charset, _, behindCharset⟩ := exists_of_bind_eq_ok read
  split at behindCharset
  · exact isResolved_of_readDocument behindCharset
  · cases behindCharset

/-! ## Names -/

/-- A plain name, alone or behind a reference in braces. -/
def IsResolvedName (name : List Char) : Prop :=
  isPlainName name = true ∨
    ∃ space plain, name = '\x7b' :: space ++ '\x7d' :: plain ∧ isPlainName plain = true ∧
      Uri.isReference space = true

theorem isPlainName_of_ofWritten? {written : String} {name : QualifiedName}
    (cut : QualifiedName.ofWritten? written = some name) :
    isPlainName name.part.toList = true := by
  unfold QualifiedName.ofWritten? at cut
  rw [List.span_eq_takeWhile_dropWhile] at cut
  simp only at cut
  split at cut
  · rename_i noColon
    have whole := List.takeWhile_append_dropWhile (p := (· != ':')) (l := written.toList)
    rw [noColon, List.append_nil] at whole
    split at cut
    · rename_i plain
      cases cut
      rwa [whole] at plain
    · cases cut
  · split at cut
    · rename_i plain
      cases cut
      rw [Bool.and_eq_true] at plain
      rw [String.toList_ofList]
      exact plain.2
    · cases cut

theorem isPlainName_of_splitAttributes {attributes : List (String × String)}
    {cut : List (QualifiedName × String)} (split : splitAttributes attributes = .ok cut) :
    ∀ entry ∈ cut, isPlainName entry.1.part.toList = true := by
  induction attributes generalizing cut with
  | nil =>
      cases split
      exact nofun
  | cons entry rest inductionHypothesis =>
      obtain ⟨written, value⟩ := entry
      rw [splitAttributes] at split
      cases nameCut : QualifiedName.ofWritten? written with
      | none =>
          rw [nameCut] at split
          cases split
      | some name =>
          rw [nameCut] at split
          obtain ⟨later, others, made⟩ := exists_of_bind_eq_ok split
          cases made
          exact List.forall_mem_cons.2
            ⟨isPlainName_of_ofWritten? nameCut, inductionHypothesis others⟩

/-- A name that has its meaning by a lawful scope is resolved. -/
theorem isResolvedName_expandedName {scope : Scope} (lawful : scope.IsLawful) {part : String}
    (plain : isPlainName part.toList = true) (label : String) :
    IsResolvedName (expandedName (scope.space? label) part).toList := by
  cases bound : scope.space? label with
  | none => exact .inl plain
  | some uri =>
      refine .inr ⟨uri.toList, part.toList, ?_, plain, lawful.isReference bound⟩
      rw [expandedName, String.toList_ofList]

theorem isResolvedName_of_resolveAttributes {scope : Scope} (lawful : scope.IsLawful)
    {cut : List (QualifiedName × String)} {data : List (String × String)}
    (plain : ∀ entry ∈ cut, isPlainName entry.1.part.toList = true)
    (resolved : resolveAttributes scope cut = .ok data) :
    ∀ entry ∈ data, IsResolvedName entry.1.toList := by
  induction cut generalizing data with
  | nil =>
      cases resolved
      exact nofun
  | cons entry rest inductionHypothesis =>
      obtain ⟨name, value⟩ := entry
      obtain ⟨namePlain, restPlain⟩ := List.forall_mem_cons.1 plain
      rw [resolveAttributes] at resolved
      split at resolved
      · exact inductionHypothesis restPlain resolved
      · obtain ⟨expanded, found, behindName⟩ := exists_of_bind_eq_ok resolved
        obtain ⟨later, others, made⟩ := exists_of_bind_eq_ok behindName
        cases made
        refine List.forall_mem_cons.2 ⟨?_, inductionHypothesis restPlain others⟩
        unfold attributeName at found
        split at found
        · cases found
          exact .inl namePlain
        · rename_i label _
          split at found
          · rename_i bound
            cases found
            rw [← bound]
            exact isResolvedName_expandedName lawful namePlain label
          · cases found

/-- The tag and the attributes of a head have resolved names. -/
theorem Head.IsResolved.isResolvedName {head : Head} (isResolved : head.IsResolved) :
    IsResolvedName head.tag.toList ∧
      ∀ entry ∈ head.attributes, IsResolvedName entry.1.toList := by
  obtain ⟨scope, lawful, written, attributes, inner, name, cut, resolves⟩ := isResolved
  have lawfulInside := resolves.isLawful lawful
  constructor
  · rw [resolves.tag_eq]
    exact isResolvedName_expandedName lawfulInside (isPlainName_of_ofWritten? resolves.name_cut) _
  · exact isResolvedName_of_resolveAttributes lawfulInside
      (isPlainName_of_splitAttributes resolves.attributes_cut) resolves.attributes_eq

/-- A resolved name is a parsed one, unless a host in brackets stands in its namespace. -/
theorem IsResolvedName.isParsedName {name : List Char} (resolved : IsResolvedName name)
    (noBracket : '[' ∉ name) : isParsedName name = true := by
  rw [Markup.isParsedName, Bool.or_eq_true]
  rcases resolved with plain | ⟨space, plain, rfl, named, reference⟩
  · exact .inl (isName_of_isPlainName plain)
  · have noneInSpace : '[' ∉ space := fun member =>
      noBracket (List.mem_append_left _ (List.mem_cons_of_mem _ member))
    exact .inr (isExpandedName_append
      (Uri.isAddressChar_of_isReference reference noneInSpace) (isName_of_isPlainName named))

end XmlCollation.Markup
