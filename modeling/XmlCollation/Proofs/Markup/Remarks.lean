import XmlCollation.Markup.Encoded
import XmlCollation.Proofs.Markup.Resolution

/-!
Contract: content with and without remarks.

Owns:
- content from which all comments and instructions are taken;
- readers that succeed with results of one kind only;
- documents that are read with and without remarks: the same are well-formed, and the second
  reading gives what is left of the first one.

Does not own: what remarks part, such as character data.
-/

namespace XmlCollation.Markup

/-! ## Content without remarks -/

/-- Comments and instructions. -/
def Aside.isRemark : Aside → Bool
  | .comment => true
  | .instruction => true
  | .reference => false

mutual

/-- What is left of an item without the remarks in it, and without itself if it is one. -/
def Item.withoutRemarks : Item → List Item
  | .text chars => [.text chars]
  | .aside kind => if kind.isRemark then [] else [.aside kind]
  | .element head items => [.element head (withoutRemarksAll items)]

/-- What is left of items without the remarks among and in them. -/
def withoutRemarksAll : List Item → List Item
  | [] => []
  | item :: rest => item.withoutRemarks ++ withoutRemarksAll rest

end

def Element.withoutRemarks (element : Element) : Element :=
  ⟨element.head, withoutRemarksAll element.items⟩

theorem withoutRemarksAll_append (items others : List Item) :
    withoutRemarksAll (items ++ others) = withoutRemarksAll items ++ withoutRemarksAll others := by
  induction items with
  | nil => rfl
  | cons item rest inductionHypothesis =>
      rw [List.cons_append, withoutRemarksAll, withoutRemarksAll, inductionHypothesis,
        List.append_assoc]

theorem withoutRemarksAll_text (chars : String) (rest : List Item) :
    withoutRemarksAll (.text chars :: rest) = .text chars :: withoutRemarksAll rest := by
  rw [withoutRemarksAll, Item.withoutRemarks, List.singleton_append]

theorem withoutRemarksAll_remark {kind : Aside} (remark : kind.isRemark = true)
    (rest : List Item) : withoutRemarksAll (.aside kind :: rest) = withoutRemarksAll rest := by
  rw [withoutRemarksAll, Item.withoutRemarks, if_pos remark, List.nil_append]

theorem withoutRemarksAll_reference {kind : Aside} (kept : ¬kind.isRemark = true)
    (rest : List Item) :
    withoutRemarksAll (.aside kind :: rest) = .aside kind :: withoutRemarksAll rest := by
  rw [withoutRemarksAll, Item.withoutRemarks, if_neg kept, List.singleton_append]

theorem withoutRemarksAll_element (head : Head) (items rest : List Item) :
    withoutRemarksAll (.element head items :: rest) =
      .element head (withoutRemarksAll items) :: withoutRemarksAll rest := by
  rw [withoutRemarksAll, Item.withoutRemarks, List.singleton_append]

/-! ## Readers of elements -/

/-- Whatever the reader gives, if it does not fail, is of a kind. -/
def Reader.GivesOnly {α : Type} (reader : Reader α) (kind : α → Prop) : Prop :=
  ∀ scan result later, reader.run scan = .ok (result, later) → kind result

section Gives

variable {α β : Type} {kind : α → Prop}

theorem Reader.GivesOnly.pure {result : α} (ofKind : kind result) :
    Reader.GivesOnly (Pure.pure result) kind := by
  intro scan other later given
  cases given
  exact ofKind

theorem Reader.GivesOnly.throw (fault : Fault) :
    Reader.GivesOnly (MonadExcept.throw fault) kind := by
  intro scan result later given
  cases given

/-- What comes next has to give that kind for results of the first reader only. -/
theorem Reader.GivesOnly.bind {kind' : β → Prop} {first : Reader β} {next : β → Reader α}
    (gives : first.GivesOnly kind')
    (then_gives : ∀ found, kind' found → (next found).GivesOnly kind) :
    Reader.GivesOnly (first >>= next) kind := by
  intro scan result later given
  rw [StateT.run_bind] at given
  obtain ⟨⟨found, between⟩, read, given⟩ := exists_of_bind_eq_ok given
  exact then_gives found (gives scan found between read) between result later given

/-- Whatever comes first, it is what comes next that gives the result. -/
theorem Reader.GivesOnly.after (first : Reader β) {next : β → Reader α}
    (then_gives : ∀ found, (next found).GivesOnly kind) : Reader.GivesOnly (first >>= next) kind :=
  .bind (fun _ _ _ _ => trivial) fun found (_ : True) => then_gives found

/-- A check in between gives nothing by itself. -/
theorem Reader.GivesOnly.check {refused : Prop} [Decidable refused] {fault : Fault}
    {next : Unit → Reader α} (then_gives : ∀ found, (next found).GivesOnly kind) :
    Reader.GivesOnly (if refused then MonadExcept.throw fault >>= next else next ()) kind := by
  split
  · exact .after _ then_gives
  · exact then_gives ()

end Gives

/-- The item is an element. -/
def RawItem.IsElement (raw : RawItem) : Prop :=
  ∃ name attributes line items, raw = .element name attributes line items

/-- Whether its tag is closed at once or encloses content, an element is an element. -/
theorem elementWith_givesOnly (rules : ContentRules) (entity : String → Nat → Reader RawItem)
    (fuel nesting : Nat) :
    (Reader.elementWith rules entity fuel nesting).GivesOnly RawItem.IsElement := by
  cases fuel with
  | zero =>
      rw [Reader.elementWith]
      exact .throw _
  | succ fuel =>
      rw [Reader.elementWith]
      refine .after _ fun _ => .check fun _ => ?_
      refine .after _ fun name => .after _ fun _ => .after _ fun given => ?_
      refine .after _ fun line => .after _ fun closed => ?_
      split
      · exact .pure ⟨_, _, _, _, rfl⟩
      · refine .after _ fun _ => .after _ fun items => .after _ fun _ => .after _ fun _ => ?_
        exact .check fun _ => .after _ fun _ => .after _ fun _ => .pure ⟨_, _, _, _, rfl⟩

theorem document_givesOnly (length : Nat) (expandReferences : Bool) :
    (Reader.document length expandReferences).GivesOnly RawItem.IsElement := by
  rw [Reader.document]
  refine .after _ fun _ => .after _ fun declared => .after _ fun _ => .after _ fun typed => ?_
  -- With a document type or without one, the root comes next.
  have behindTypes (types : Doctype) (allowance : Allowance) : Reader.GivesOnly (do
      let root ← Reader.rootElement ⟨types, allowance, expandReferences⟩
      Reader.surroundings (length + 1)
      if !(← Reader.remaining).isEmpty then throw .surroundings
      return root) RawItem.IsElement :=
    .bind (.after _ fun _ => elementWith_givesOnly _ _ _ _) fun root isElement =>
      .after _ fun _ => .after _ fun _ => .check fun _ => .pure isElement
  split
  · exact .after _ fun types => .after _ fun _ => .after _ fun _ => behindTypes _ _
  · exact .after _ fun _ => behindTypes _ _

/-! ## Documents -/

section Documents

variable (expandReferences : Bool)

mutual

/-- Without remarks, a raw item resolves to what is left of its items without remarks. -/
theorem resolveItem_withoutRemarks : (raw : RawItem) → ∀ scope : Scope,
    resolveItem ⟨false, expandReferences⟩ scope raw =
      (resolveItem ⟨true, expandReferences⟩ scope raw).map withoutRemarksAll
  | .text chars, _ => by
      rw [resolveItem, resolveItem, Except.map, withoutRemarksAll_text, withoutRemarksAll]
  | .aside kind, _ => by
      cases kind with
      | reference => rfl
      | comment => rfl
      | instruction => rfl
  | .reference raws, scope => by
      rw [resolveItem, resolveItem, resolveItems_withoutRemarks raws scope]
      cases resolveItems ⟨true, expandReferences⟩ scope raws with
      | error fault => rfl
      | ok resolved =>
          cases expandReferences with
          | true => rfl
          | false => rfl
  | .element written attributes line raws, scope => by
      rw [resolveItem, resolveItem]
      cases resolveHead scope written attributes line with
      | error fault => rfl
      | ok opened =>
          show (resolveItems _ opened.2 raws >>= _) = _
          rw [resolveItems_withoutRemarks raws opened.2]
          show _ = Except.map _ (resolveItems _ opened.2 raws >>= _)
          cases resolveItems ⟨true, expandReferences⟩ opened.2 raws with
          | error fault => rfl
          | ok resolved => rfl

theorem resolveItems_withoutRemarks : (raws : List RawItem) → ∀ scope : Scope,
    resolveItems ⟨false, expandReferences⟩ scope raws =
      (resolveItems ⟨true, expandReferences⟩ scope raws).map withoutRemarksAll
  | [], _ => rfl
  | raw :: rest, scope => by
      rw [resolveItems, resolveItems, resolveItem_withoutRemarks raw scope,
        resolveItems_withoutRemarks rest scope]
      cases resolveItem ⟨true, expandReferences⟩ scope raw with
      | error fault => rfl
      | ok first =>
          cases resolveItems ⟨true, expandReferences⟩ scope rest with
          | error fault => rfl
          | ok further => exact congrArg Except.ok (withoutRemarksAll_append first further).symm

end

/-- A raw element resolves to one element. -/
theorem RawItem.IsElement.exists_of_resolveItem {raw : RawItem} (isElement : raw.IsElement)
    {retention : Retention} {scope : Scope} {items : List Item}
    (resolved : resolveItem retention scope raw = .ok items) :
    ∃ head inner, items = [.element head inner] := by
  obtain ⟨written, attributes, line, raws, rfl⟩ := isElement
  rw [resolveItem] at resolved
  obtain ⟨⟨head, innerScope⟩, _, behindHead⟩ := exists_of_bind_eq_ok resolved
  obtain ⟨inner, _, made⟩ := exists_of_bind_eq_ok behindHead
  cases made
  exact ⟨head, inner, rfl⟩

theorem readDocument_withoutRemarks (chars : List Char) :
    readDocument ⟨false, expandReferences⟩ chars =
      (readDocument ⟨true, expandReferences⟩ chars).map Element.withoutRemarks := by
  rw [readDocument, readDocument]
  simp only
  cases read : (Reader.document (joinLineEnds chars).length expandReferences).run
      (Scan.start (joinLineEnds chars)) with
  | error fault => rfl
  | ok given =>
      obtain ⟨raw, later⟩ := given
      have isElement : raw.IsElement := document_givesOnly _ _ _ raw later read
      simp only [bind, Except.bind]
      rw [resolveItem_withoutRemarks]
      cases resolved : resolveItem ⟨true, expandReferences⟩ Scope.outermost raw with
      | error fault => rfl
      | ok items =>
          obtain ⟨head, inner, rfl⟩ := isElement.exists_of_resolveItem resolved
          rw [Except.map, withoutRemarksAll_element]
          rfl

theorem readEncoded_withoutRemarks (bytes : List UInt8) :
    readEncoded ⟨false, expandReferences⟩ bytes =
      (readEncoded ⟨true, expandReferences⟩ bytes).map Element.withoutRemarks := by
  rw [readEncoded, readEncoded]
  cases documentCharset bytes with
  | error fault => rfl
  | ok charset =>
      simp only [bind, Except.bind]
      cases charset.decode bytes with
      | error fault => rfl
      | ok text => exact readDocument_withoutRemarks expandReferences text.toList

end Documents

end XmlCollation.Markup
