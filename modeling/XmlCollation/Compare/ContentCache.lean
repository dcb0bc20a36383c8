/-!
Contract: a bounded store of contents that were computed.

Owns: look-up, which makes an entry the most recent one, and storing, which
drops the least recent entries that no longer fit.

Does not own: whether a stored content still holds.  Nothing is ever taken out
because of a change elsewhere.
-/

namespace XmlCollation.Compare

/-- The child indexes from a node up to the root. -/
abbrev Address := List Nat

/-- Contents by address, the most recent first, at most `limit` of them. -/
structure ContentCache where
  limit : Nat
  entries : List (Address × String)
deriving DecidableEq, Repr

namespace ContentCache

def empty (limit : Nat) : ContentCache :=
  ⟨limit, []⟩

def find? (cache : ContentCache) (address : Address) : Option String :=
  cache.entries.lookup address

def others (cache : ContentCache) (address : Address) : List (Address × String) :=
  cache.entries.filter fun entry => entry.1 != address

/-- Makes the entry of an address the most recent one. -/
def touch (cache : ContentCache) (address : Address) (content : String) : ContentCache :=
  { cache with entries := (address, content) :: cache.others address }

/-- Stores a content as the most recent entry and drops what no longer fits. -/
def store (cache : ContentCache) (address : Address) (content : String) : ContentCache :=
  { cache with entries := ((address, content) :: cache.others address).take cache.limit }

/-- Whatever is found after storing was stored just now or was there before. -/
theorem find?_store
    (cache : ContentCache)
    (address other : Address)
    (content found : String)
    (present : (cache.store address content).find? other = some found) :
    (other = address ∧ found = content) ∨ cache.find? other = some found := by
  unfold store find? at present
  unfold find?
  have fromTake :
      ∀ (count : Nat) (entries : List (Address × String)),
        (entries.take count).lookup other = some found → entries.lookup other = some found := by
    intro count entries
    induction entries generalizing count with
    | nil => simp
    | cons entry rest inductionHypothesis =>
        obtain ⟨key, value⟩ := entry
        cases count with
        | zero => simp
        | succ more =>
            simp only [List.take_succ_cons, List.lookup_cons]
            split
            · exact id
            · exact inductionHypothesis more
  have fromFilter :
      ∀ (entries : List (Address × String)),
        (entries.filter fun entry => entry.1 != address).lookup other = some found →
          entries.lookup other = some found := by
    intro entries
    induction entries with
    | nil => simp
    | cons entry rest inductionHypothesis =>
        obtain ⟨key, value⟩ := entry
        intro inFilter
        by_cases keyIsAddress : key = address
        · subst keyIsAddress
          have dropped : ((key, value).1 != key) = false := by simp
          rw [List.filter_cons_of_neg (by simp)] at inFilter
          have later := inductionHypothesis inFilter
          by_cases otherIsKey : other = key
          · subst otherIsKey
            exfalso
            clear inductionHypothesis later dropped
            induction rest with
            | nil => simp at inFilter
            | cons head tail innerHypothesis =>
                obtain ⟨headKey, headValue⟩ := head
                by_cases headIsOther : headKey = other
                · subst headIsOther
                  rw [List.filter_cons_of_neg (by simp)] at inFilter
                  exact innerHypothesis inFilter
                · rw [List.filter_cons_of_pos (by simpa using headIsOther)] at inFilter
                  have unequal : (other == headKey) = false := by
                    simpa using fun equal => headIsOther equal.symm
                  simp only [List.lookup_cons, unequal] at inFilter
                  exact innerHypothesis inFilter
          · have unequal : (other == key) = false := by simpa using otherIsKey
            simpa [List.lookup_cons, unequal] using later
        · rw [List.filter_cons_of_pos (by simpa using keyIsAddress)] at inFilter
          by_cases otherIsKey : other = key
          · subst otherIsKey
            simpa [List.lookup_cons] using inFilter
          · have unequal : (other == key) = false := by simpa using otherIsKey
            simp only [List.lookup_cons, unequal] at inFilter ⊢
            exact inductionHypothesis inFilter
  have whole := fromTake _ _ present
  by_cases same : other = address
  · subst same
    left
    simpa [List.lookup_cons, eq_comm] using whole
  · right
    have unequal : (other == address) = false := by simpa using same
    simp only [List.lookup_cons, unequal] at whole
    exact fromFilter _ whole

end ContentCache

end XmlCollation.Compare
