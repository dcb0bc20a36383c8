import XmlCollation.Proofs.Compare.Preference

/-!
Contract: siblings of a kind, counted on both sides.

Owns:
- pairs of a kind counted against the entries of a kind that they take; a list has fewer
  entries of a kind than another one has of its kind, if pairs join each of them to one of
  those and leave one of those free;
- a maximal choice joins all siblings, if each signature is as frequent on both sides;
- where a choice prefers equal keys, keys that do not meet their like are more frequent
  than on the other side.

Does not own: how frequent keys are.
-/

namespace XmlCollation.Compare

/-! ## Counting by pairs -/

/-- The indexes at which a list has an entry of a kind. -/
def indexesWhere {α : Type} (kind : α → Bool) (entries : List α) : List Nat :=
  (entries.zipIdx.filter fun entry => kind entry.1).map Prod.snd

section Indexes

variable {α β : Type} {kind : α → Bool} {kind' : β → Bool} {entries : List α} {others : List β}
  {pairs : List (Nat × Nat)} {index : Nat × Nat → Nat} {joined : Nat × Nat → Bool} {spare : Nat}

theorem mem_indexesWhere {index : Nat} :
    index ∈ indexesWhere kind entries ↔
      ∃ entry, entries[index]? = some entry ∧ kind entry = true := by
  simp only [indexesWhere, List.mem_map, List.mem_filter, List.mem_zipIdx_iff_getElem?]
  constructor
  · rintro ⟨⟨entry, _⟩, ⟨atIndex, isKind⟩, rfl⟩
    exact ⟨entry, atIndex, isKind⟩
  · rintro ⟨entry, atIndex, isKind⟩
    exact ⟨(entry, index), ⟨atIndex, isKind⟩, rfl⟩

theorem indexesWhere_nodup (kind : α → Bool) (entries : List α) :
    (indexesWhere kind entries).Nodup := by
  refine (List.filter_sublist.map Prod.snd).nodup ?_
  rw [List.zipIdx_map_snd]
  exact List.nodup_range'

theorem length_indexesWhere (kind : α → Bool) (entries : List α) :
    (indexesWhere kind entries).length = entries.countP kind := by
  rw [indexesWhere, List.length_map, ← List.countP_eq_length_filter]
  conv => rhs; rw [← List.zipIdx_map_fst 0 entries, List.countP_map]
  rfl

/-- Pairs of a kind are no more than the entries of a kind, if each of them has its own one. -/
theorem countP_pairs_le (once : (pairs.map index).Nodup)
    (found : ∀ pair ∈ pairs, joined pair = true → index pair ∈ indexesWhere kind entries) :
    pairs.countP joined ≤ entries.countP kind := by
  have fits : ((pairs.filter joined).map index).Subperm (indexesWhere kind entries) := by
    refine ((List.filter_sublist.map index).nodup once).subperm fun other member => ?_
    obtain ⟨pair, isJoined, rfl⟩ := List.mem_map.1 member
    exact found pair (List.mem_filter.1 isJoined).1 (List.mem_filter.1 isJoined).2
  have atMost := fits.length_le
  rwa [List.length_map, ← List.countP_eq_length_filter, length_indexesWhere] at atMost

/-- They are fewer if some other entry of the kind is spare. -/
theorem countP_pairs_lt (once : (pairs.map index).Nodup)
    (found : ∀ pair ∈ pairs, joined pair = true → index pair ∈ indexesWhere kind entries)
    (isSpare : spare ∈ indexesWhere kind entries)
    (free : ∀ pair ∈ pairs, joined pair = true → index pair ≠ spare) :
    pairs.countP joined < entries.countP kind := by
  have fits : (spare :: (pairs.filter joined).map index).Subperm (indexesWhere kind entries) := by
    refine (List.nodup_cons.2 ⟨?_, (List.filter_sublist.map index).nodup once⟩).subperm ?_
    · intro taken
      obtain ⟨pair, isJoined, isTaken⟩ := List.mem_map.1 taken
      exact free pair (List.mem_filter.1 isJoined).1 (List.mem_filter.1 isJoined).2 isTaken
    · intro other member
      rcases List.mem_cons.1 member with rfl | inPairs
      · exact isSpare
      · obtain ⟨pair, isJoined, rfl⟩ := List.mem_map.1 inPairs
        exact found pair (List.mem_filter.1 isJoined).1 (List.mem_filter.1 isJoined).2
  have oneMore := fits.length_le
  rwa [List.length_cons, List.length_map, ← List.countP_eq_length_filter, length_indexesWhere]
    at oneMore

/-- Entries of a kind are no more than pairs of a kind, if each of them is in one. -/
theorem countP_le_pairs (index : Nat × Nat → Nat)
    (covered : ∀ other ∈ indexesWhere kind entries, ∃ pair ∈ pairs,
      joined pair = true ∧ index pair = other) :
    entries.countP kind ≤ pairs.countP joined := by
  have fits : (indexesWhere kind entries).Subperm ((pairs.filter joined).map index) := by
    refine (indexesWhere_nodup kind entries).subperm fun other member => ?_
    obtain ⟨pair, inPairs, isJoined, rfl⟩ := covered other member
    exact List.mem_map_of_mem (List.mem_filter.2 ⟨inPairs, isJoined⟩)
  have atMost := fits.length_le
  rwa [List.length_map, ← List.countP_eq_length_filter, length_indexesWhere] at atMost

/-- There are fewer entries of a kind than others of a kind, if each of the entries is
joined to one of the others and some other one is spare. -/
theorem countP_lt_countP (once : (pairs.map Prod.snd).Nodup)
    {other : β} (atSpare : others[spare]? = some other)
    (isKind : kind' other = true)
    (inPair : ∀ index entry, entries[index]? = some entry → kind entry = true →
      ∃ pair ∈ pairs, pair.1 = index ∧ pair.2 ≠ spare ∧ pair.2 ∈ indexesWhere kind' others) :
    entries.countP kind < others.countP kind' := by
  let used : Nat × Nat → Bool := fun pair =>
    decide (pair.2 ≠ spare ∧ pair.2 ∈ indexesWhere kind' others)
  have atMost : entries.countP kind ≤ pairs.countP used := by
    refine countP_le_pairs Prod.fst fun index member => ?_
    obtain ⟨entry, atIndex, entryKind⟩ := mem_indexesWhere.1 member
    obtain ⟨pair, inPairs, isIndex, inOthers⟩ := inPair index entry atIndex entryKind
    exact ⟨pair, inPairs, decide_eq_true inOthers, isIndex⟩
  refine Nat.lt_of_le_of_lt atMost (countP_pairs_lt once ?_
    (mem_indexesWhere.2 ⟨other, atSpare, isKind⟩) ?_)
  · exact fun pair _ isUsed => (of_decide_eq_true isUsed).2
  · exact fun pair _ isUsed => (of_decide_eq_true isUsed).1

end Indexes

/-! ## Pairs of a choice -/

section Choice

variable {choice : Choice} {rows columns : List SiblingKeys} {index : Nat} {keys : SiblingKeys}

/-- Each signature is as frequent among the rows as among the columns. -/
def IsBalanced (rows columns : List SiblingKeys) : Prop :=
  ∀ signature : String,
    rows.countP (fun keys => keys.signature == signature) =
      columns.countP fun keys => keys.signature == signature

theorem Choice.IsPairing.swapped_once (pairing : choice.IsPairing)
    (rows columns : List SiblingKeys) :
    (((choice rows columns).map Prod.swap).map Prod.snd).Nodup := by
  rw [List.map_map]
  exact pairing.rows_nodup rows columns

/-- A maximal choice leaves no row out if signatures are balanced. -/
theorem Choice.IsMaximal.row_mem (maximal : choice.IsMaximal) (pairing : choice.IsPairing)
    (balanced : IsBalanced rows columns) (atRow : rows[index]? = some keys) :
    index ∈ (choice rows columns).map Prod.fst := by
  by_contra free
  -- All columns of this signature are taken then, by other rows.
  refine absurd (balanced keys.signature) (Nat.ne_of_gt ?_)
  refine countP_lt_countP (pairing.swapped_once rows columns) atRow (beq_iff_eq.2 rfl) ?_
  intro column columnKeys atColumn sameSignature
  rw [beq_iff_eq] at sameSignature
  rcases maximal rows columns index column _ _ atRow atColumn sameSignature.symm with taken | taken
  · exact absurd taken free
  · obtain ⟨pair, member, rfl⟩ := List.mem_map.1 taken
    refine ⟨pair.swap, List.mem_map_of_mem member, rfl, ?_, ?_⟩
    · rintro isFree
      exact free (List.mem_map.2 ⟨pair, member, isFree⟩)
    · obtain ⟨row, column, atPairRow, atPairColumn, same⟩ := pairing.sameSignature _ _ pair member
      obtain rfl : column = columnKeys := Option.some.inj (atPairColumn.symm.trans atColumn)
      exact mem_indexesWhere.2 ⟨row, atPairRow, beq_iff_eq.2 (same.trans sameSignature)⟩

theorem Choice.IsMaximal.column_mem (maximal : choice.IsMaximal) (pairing : choice.IsPairing)
    (balanced : IsBalanced rows columns) (atColumn : columns[index]? = some keys) :
    index ∈ (choice rows columns).map Prod.snd := by
  by_contra free
  refine absurd (balanced keys.signature) (Nat.ne_of_lt ?_)
  refine countP_lt_countP (pairing.columns_nodup rows columns) atColumn (beq_iff_eq.2 rfl) ?_
  intro row rowKeys atRow sameSignature
  rw [beq_iff_eq] at sameSignature
  rcases maximal rows columns row index _ _ atRow atColumn sameSignature with taken | taken
  · obtain ⟨pair, member, rfl⟩ := List.mem_map.1 taken
    refine ⟨pair, member, rfl, ?_, ?_⟩
    · rintro isFree
      exact free (List.mem_map.2 ⟨pair, member, isFree⟩)
    · obtain ⟨row, column, atPairRow, atPairColumn, same⟩ := pairing.sameSignature _ _ pair member
      obtain rfl : row = rowKeys := Option.some.inj (atPairRow.symm.trans atRow)
      exact mem_indexesWhere.2 ⟨column, atPairColumn, beq_iff_eq.2 (same.symm.trans sameSignature)⟩
  · exact absurd taken free

/-- All rows are in pairs then, each of them once. -/
theorem Choice.IsMaximal.rows_perm (maximal : choice.IsMaximal) (pairing : choice.IsPairing)
    (balanced : IsBalanced rows columns) :
    ((choice rows columns).map Prod.fst).Perm (List.range rows.length) := by
  refine (List.perm_ext_iff_of_nodup (pairing.rows_nodup rows columns) List.nodup_range).2
    fun index => ?_
  rw [List.mem_range]
  constructor
  · intro taken
    obtain ⟨pair, member, rfl⟩ := List.mem_map.1 taken
    obtain ⟨row, _, atRow, _, _⟩ := pairing.sameSignature rows columns pair member
    exact (List.getElem?_eq_some_iff.1 atRow).1
  · intro inRange
    exact maximal.row_mem pairing balanced (List.getElem?_eq_getElem inRange)

theorem Choice.IsMaximal.columns_perm (maximal : choice.IsMaximal) (pairing : choice.IsPairing)
    (balanced : IsBalanced rows columns) :
    ((choice rows columns).map Prod.snd).Perm (List.range columns.length) := by
  refine (List.perm_ext_iff_of_nodup (pairing.columns_nodup rows columns) List.nodup_range).2
    fun index => ?_
  rw [List.mem_range]
  constructor
  · intro taken
    obtain ⟨pair, member, rfl⟩ := List.mem_map.1 taken
    obtain ⟨_, column, _, atColumn, _⟩ := pairing.sameSignature rows columns pair member
    exact (List.getElem?_eq_some_iff.1 atColumn).1
  · intro inRange
    exact maximal.column_mem pairing balanced (List.getElem?_eq_getElem inRange)

/-- The keys of a row that has no partner of its keys are more frequent among the rows. -/
theorem Choice.PrefersEqual.count_lt (prefersEqual : choice.PrefersEqual)
    (pairing : choice.IsPairing) (atRow : rows[index]? = some keys)
    (unmet : ∀ pair ∈ choice rows columns, pair.1 = index → columns[pair.2]? ≠ some keys) :
    columns.count keys < rows.count keys := by
  refine countP_lt_countP (pairing.swapped_once rows columns) atRow (beq_iff_eq.2 rfl) ?_
  intro column columnKeys atColumn sameKeys
  rw [beq_iff_eq] at sameKeys
  subst sameKeys
  obtain ⟨pair, member, touches, pairRow, pairColumn⟩ :=
    prefersEqual rows columns index column _ atRow atColumn
  have notRow : pair.1 ≠ index := fun isRow => unmet pair member isRow pairColumn
  exact ⟨pair.swap, List.mem_map_of_mem member, touches.resolve_left notRow, notRow,
    mem_indexesWhere.2 ⟨_, pairRow, beq_iff_eq.2 rfl⟩⟩

/-- The same of a column. -/
theorem Choice.PrefersEqual.count_lt_of_column (prefersEqual : choice.PrefersEqual)
    (pairing : choice.IsPairing) (atColumn : columns[index]? = some keys)
    (unmet : ∀ pair ∈ choice rows columns, pair.2 = index → rows[pair.1]? ≠ some keys) :
    rows.count keys < columns.count keys := by
  refine countP_lt_countP (pairing.columns_nodup rows columns) atColumn (beq_iff_eq.2 rfl) ?_
  intro row rowKeys atRow sameKeys
  rw [beq_iff_eq] at sameKeys
  subst sameKeys
  obtain ⟨pair, member, touches, pairRow, pairColumn⟩ :=
    prefersEqual rows columns row index _ atRow atColumn
  have notColumn : pair.2 ≠ index := fun isColumn => unmet pair member isColumn pairRow
  exact ⟨pair, member, touches.resolve_right notColumn, notColumn,
    mem_indexesWhere.2 ⟨_, pairColumn, beq_iff_eq.2 rfl⟩⟩

end Choice

end XmlCollation.Compare
