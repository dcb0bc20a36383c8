import Mathlib.Data.List.TakeWhile
import XmlCollation.Markup.Uri
import XmlCollation.Proofs.Markup.Names

/-!
Contract: the characters of references to resources.

Owns:
- the characters that a recogniser skips, all of which can stand in the address of a namespace;
- references without a bracket consist of such characters.

Does not own: hosts in brackets, between which any characters stand.
-/

namespace XmlCollation.Markup.Uri

open XmlCollation.Text

/-! ## Characters of addresses -/

theorem isAddressChar_of_code {c : Char} (least : 0x21 ≤ c.toNat) (greatest : c.toNat ≤ 0x7a)
    (notLess : c.toNat ≠ 0x3c) (notGreater : c.toNat ≠ 0x3e) : isAddressChar c = true := by
  have notBlank : isBlank c = false := by
    simp only [isBlank, Bool.or_eq_false_iff, Bool.and_eq_false_iff, decide_eq_false_iff_not,
      beq_eq_false_iff_ne, ne_eq]
    omega
  have differs {d : Char} (other : c.toNat ≠ d.toNat) : (c != d) = true :=
    bne_iff_ne.2 fun same => other (congrArg Char.toNat same)
  rw [isAddressChar, notBlank, differs (d := '<') notLess, differs (d := '>') notGreater,
    differs (d := '\x7b') (by show c.toNat ≠ 0x7b; omega),
    differs (d := '\x7d') (by show c.toNat ≠ 0x7d; omega)]
  rfl

theorem isAddressChar_of_isDigit {c : Char} (digit : isDigit c = true) :
    isAddressChar c = true := by
  rw [isDigit, Bool.and_eq_true, decide_eq_true_iff, decide_eq_true_iff] at digit
  have least : 0x30 ≤ c.toNat := digit.1
  have greatest : c.toNat ≤ 0x39 := digit.2
  exact isAddressChar_of_code (by omega) (by omega) (by omega) (by omega)

theorem isAddressChar_of_isAlpha {c : Char} (alpha : isAlpha c = true) :
    isAddressChar c = true := by
  simp only [isAlpha, Bool.or_eq_true, Bool.and_eq_true, decide_eq_true_iff] at alpha
  rcases alpha with small | capital
  · have least : 0x61 ≤ c.toNat := small.1
    have greatest : c.toNat ≤ 0x7a := small.2
    exact isAddressChar_of_code (by omega) (by omega) (by omega) (by omega)
  · have least : 0x41 ≤ c.toNat := capital.1
    have greatest : c.toNat ≤ 0x5a := capital.2
    exact isAddressChar_of_code (by omega) (by omega) (by omega) (by omega)

theorem isAddressChar_of_hexValue? {c : Char} (isHex : (hexValue? c).isSome = true) :
    isAddressChar c = true := by
  unfold hexValue? at isHex
  split at isHex
  · rename_i digit
    obtain ⟨least, greatest⟩ : 0x30 ≤ c.toNat ∧ c.toNat ≤ 0x39 := digit
    exact isAddressChar_of_code (by omega) (by omega) (by omega) (by omega)
  · split at isHex
    · rename_i small
      obtain ⟨least, greatest⟩ : 0x61 ≤ c.toNat ∧ c.toNat ≤ 0x66 := small
      exact isAddressChar_of_code (by omega) (by omega) (by omega) (by omega)
    · split at isHex
      · rename_i capital
        obtain ⟨least, greatest⟩ : 0x41 ≤ c.toNat ∧ c.toNat ≤ 0x46 := capital
        exact isAddressChar_of_code (by omega) (by omega) (by omega) (by omega)
      · cases isHex

theorem isAddressChar_of_isUnreserved {c : Char} (unreserved : isUnreserved c = true) :
    isAddressChar c = true := by
  simp only [isUnreserved, Bool.or_eq_true, beq_iff_eq] at unreserved
  rcases unreserved with ((((alpha | digit) | rfl) | rfl) | rfl) | rfl
  · exact isAddressChar_of_isAlpha alpha
  · exact isAddressChar_of_isDigit digit
  all_goals decide

theorem isAddressChar_of_isSubDelimiter {c : Char} (delimits : isSubDelimiter c = true) :
    isAddressChar c = true := by
  have all : "!$&\x27()*+,;=".toList.all isAddressChar = true := by decide +kernel
  exact List.all_eq_true.1 all c (List.contains_iff_mem.1 delimits)

/-- The further characters of each part can stand in an address. -/
theorem isAddressChar_of_isFragmentExtra {c : Char} (extra : isFragmentExtra c = true) :
    isAddressChar c = true := by
  simp only [isFragmentExtra, isQueryExtra, isPathExtra, Bool.or_eq_true, beq_iff_eq] at extra
  rcases extra with ((((rfl | rfl) | rfl) | rfl) | rfl) | rfl
  all_goals decide

/-! ## Skipping -/

/-- What stands before the rest can stand in an address. -/
def Skips (chars rest : List Char) : Prop :=
  ∃ taken, chars = taken ++ rest ∧ ∀ c ∈ taken, isAddressChar c = true

theorem Skips.refl (chars : List Char) : Skips chars chars :=
  ⟨[], rfl, nofun⟩

theorem Skips.cons {c : Char} {chars rest : List Char} (address : isAddressChar c = true)
    (skips : Skips chars rest) : Skips (c :: chars) rest := by
  obtain ⟨taken, rfl, addresses⟩ := skips
  exact ⟨c :: taken, rfl, List.forall_mem_cons.2 ⟨address, addresses⟩⟩

theorem Skips.trans {chars middle rest : List Char} (first : Skips chars middle)
    (second : Skips middle rest) : Skips chars rest := by
  obtain ⟨taken, rfl, addresses⟩ := first
  obtain ⟨further, rfl, others⟩ := second
  exact ⟨taken ++ further, (List.append_assoc _ _ _).symm,
    List.forall_mem_append.2 ⟨addresses, others⟩⟩

theorem Skips.mem {chars rest : List Char} (skips : Skips chars rest) {c : Char}
    (member : c ∈ rest) : c ∈ chars := by
  obtain ⟨taken, rfl, -⟩ := skips
  exact List.mem_append_right taken member

theorem skips_drop {allowed : Char → Bool} {chars : List Char} {count : Nat}
    (addresses : ∀ c, allowed c = true → isAddressChar c = true)
    (within : count ≤ (chars.takeWhile allowed).length) : Skips chars (chars.drop count) := by
  refine ⟨chars.take count, (List.take_append_drop count chars).symm, fun c member => ?_⟩
  have begins : chars.take count <+: chars.takeWhile allowed :=
    List.prefix_of_prefix_length_le (List.take_prefix count chars)
      (List.takeWhile_prefix allowed) (by rw [List.length_take]; omega)
  exact addresses c (List.mem_takeWhile_imp (begins.subset member))

theorem skips_dropWhile {allowed : Char → Bool} {chars : List Char}
    (addresses : ∀ c, allowed c = true → isAddressChar c = true) :
    Skips chars (chars.dropWhile allowed) :=
  ⟨chars.takeWhile allowed, List.takeWhile_append_dropWhile.symm,
    fun c member => addresses c (List.mem_takeWhile_imp member)⟩

theorem skips_skipRun {extra : Char → Bool}
    (addresses : ∀ c, extra c = true → isAddressChar c = true) (chars : List Char) :
    Skips chars (skipRun extra chars) := by
  induction chars using skipRun.induct extra with
  | case1 a b rest isHex inductionHypothesis =>
      rw [skipRun, if_pos isHex]
      rw [Bool.and_eq_true] at isHex
      exact .cons (by decide) (.cons (isAddressChar_of_hexValue? isHex.1)
        (.cons (isAddressChar_of_hexValue? isHex.2) inductionHypothesis))
  | case2 a b rest notHex =>
      rw [skipRun, if_neg notHex]
      exact .refl _
  | case3 c rest other plain inductionHypothesis =>
      rw [skipRun, if_pos plain]
      · simp only [Bool.or_eq_true] at plain
        refine .cons ?_ inductionHypothesis
        rcases plain with (unreserved | delimits) | isExtra
        · exact isAddressChar_of_isUnreserved unreserved
        · exact isAddressChar_of_isSubDelimiter delimits
        · exact addresses c isExtra
      · exact other
  | case4 c rest other notPlain =>
      rw [skipRun, if_neg notPlain]
      · exact .refl _
      · exact other
  | case5 => exact .refl []

theorem skips_of_skipOctet {chars rest : List Char} (skipped : skipOctet chars = some rest) :
    Skips chars rest := by
  have digits {count : Nat} (within : count ≤ (chars.takeWhile isDigit).length) :
      Skips chars (chars.drop count) := skips_drop (fun _ => isAddressChar_of_isDigit) within
  unfold skipOctet at skipped
  split at skipped
  · cases skipped
  · rename_i one
    cases skipped
    exact digits (by rw [one]; exact Nat.le_refl _)
  · cases skipped
  · rename_i two
    cases skipped
    exact digits (by rw [two]; exact Nat.le_refl _)
  · rename_i three
    split at skipped
    · cases skipped
      exact digits (by rw [three]; exact Nat.le_add_left 3 _)
    · cases skipped

theorem skips_of_skipPointedOctet {chars rest : List Char}
    (skipped : skipPointedOctet chars = some rest) : Skips chars rest := by
  unfold skipPointedOctet at skipped
  split at skipped
  · exact .cons (by decide) (skips_of_skipOctet skipped)
  · cases skipped

theorem skips_of_skipDotted {chars rest : List Char} (skipped : skipDotted chars = some rest) :
    Skips chars rest := by
  obtain ⟨_, first, behindFirst⟩ := Option.bind_eq_some_iff.1 skipped
  obtain ⟨_, second, behindSecond⟩ := Option.bind_eq_some_iff.1 behindFirst
  obtain ⟨_, third, fourth⟩ := Option.bind_eq_some_iff.1 behindSecond
  exact (skips_of_skipOctet first).trans ((skips_of_skipPointedOctet second).trans
    ((skips_of_skipPointedOctet third).trans (skips_of_skipPointedOctet fourth)))

theorem skips_of_skipHost {chars rest : List Char} (noBracket : '[' ∉ chars)
    (skipped : skipHost chars = some rest) : Skips chars rest := by
  unfold skipHost at skipped
  split at skipped
  · exact absurd List.mem_cons_self noBracket
  · split at skipped
    · rename_i dotted
      cases skipped
      exact skips_of_skipDotted dotted
    · cases skipped
      exact skips_skipRun (fun _ no => absurd no Bool.false_ne_true) chars

theorem skips_of_skipAuthority {chars rest : List Char} (noBracket : '[' ∉ chars)
    (skipped : skipAuthority chars = some rest) : Skips chars rest := by
  unfold skipAuthority at skipped
  obtain ⟨afterHost, hostSkipped, behindHost⟩ := Option.bind_eq_some_iff.1 skipped
  have service : Skips afterHost rest := by
    split at behindHost
    · dsimp only at behindHost
      split at behindHost
      · cases behindHost
      · cases behindHost
        exact .cons (by decide) (skips_drop (fun _ => isAddressChar_of_isDigit) (Nat.le_refl _))
    · cases behindHost
      exact .refl _
  have colon (c : Char) (same : (c == ':') = true) : isAddressChar c = true := by
    rw [beq_iff_eq] at same
    subst same
    decide
  have user := skips_skipRun colon chars
  split at hostSkipped
  · rename_i behindUser found
    rw [found] at user
    have behindSign : Skips chars behindUser := user.trans (.cons (by decide) (.refl _))
    exact behindSign.trans ((skips_of_skipHost (fun member => noBracket (behindSign.mem member))
      hostSkipped).trans service)
  · exact (skips_of_skipHost noBracket hostSkipped).trans service

theorem skips_skipPath (chars : List Char) : Skips chars (skipPath chars) := by
  refine skips_skipRun (fun c extra => isAddressChar_of_isFragmentExtra ?_) chars
  simp only [isFragmentExtra, isQueryExtra, Bool.or_eq_true] at extra ⊢
  rcases extra with path | slash
  · exact .inl (.inl (.inl (.inl path)))
  · exact .inl (.inl (.inl (.inr slash)))

theorem skips_of_skipHierarchy {chars rest : List Char} (noBracket : '[' ∉ chars)
    (skipped : skipHierarchy chars = some rest) : Skips chars rest := by
  unfold skipHierarchy at skipped
  split at skipped
  · rename_i authority
    obtain ⟨afterAuthority, found, behindAuthority⟩ := Option.bind_eq_some_iff.1 skipped
    have noneLeft : '[' ∉ authority :=
      fun member => noBracket (List.mem_cons_of_mem _ (List.mem_cons_of_mem _ member))
    have slashes := Skips.cons (by decide : isAddressChar '/' = true)
      (Skips.cons (by decide : isAddressChar '/' = true) (skips_of_skipAuthority noneLeft found))
    split at behindAuthority
    · cases behindAuthority
      exact slashes.trans (skips_skipPath _)
    · cases behindAuthority
      exact slashes
  · cases skipped
    exact skips_skipPath chars

theorem skips_query (chars : List Char) :
    Skips chars (match chars with
      | '?' :: rest => skipRun isQueryExtra rest
      | rest => rest) := by
  split
  · refine .cons (by decide) (skips_skipRun (fun c extra => ?_) _)
    exact isAddressChar_of_isFragmentExtra
      (by rw [isFragmentExtra, extra, Bool.true_or, Bool.true_or])
  · exact .refl _

theorem skips_fragment (chars : List Char) :
    Skips chars (match chars with
      | '#' :: rest => skipRun isFragmentExtra rest
      | rest => rest) := by
  split
  · exact .cons (by decide) (skips_skipRun (fun _ => isAddressChar_of_isFragmentExtra) _)
  · exact .refl _

theorem skips_of_endsWell {chars : List Char} (ends : endsWell chars = true) : Skips chars [] := by
  have whole := (skips_query chars).trans (skips_fragment _)
  exact (congrArg (Skips chars) (List.isEmpty_iff.1 ends)).mp whole

theorem skips_of_afterScheme? {chars rest : List Char} (found : afterScheme? chars = some rest) :
    Skips chars rest := by
  have schemeChars (c : Char)
      (inScheme : (isAlpha c || isDigit c || c == '+' || c == '-' || c == '.') = true) :
      isAddressChar c = true := by
    simp only [Bool.or_eq_true, beq_iff_eq] at inScheme
    rcases inScheme with (((alpha | digit) | rfl) | rfl) | rfl
    · exact isAddressChar_of_isAlpha alpha
    · exact isAddressChar_of_isDigit digit
    all_goals decide
  have scheme : Skips chars _ := skips_dropWhile schemeChars
  unfold afterScheme? at found
  split at found
  · split at found
    · split at found
      · rename_i behind
        cases found
        rw [behind] at scheme
        exact scheme.trans (.cons (by decide) (.refl _))
      · cases found
    · cases found
  · cases found

/-! ## References -/

/-- The characters of a reference can stand in an address, unless its host is in brackets. -/
theorem isAddressChar_of_isReference {uri : List Char} (reference : isReference uri = true)
    (noBracket : '[' ∉ uri) : ∀ c ∈ uri, isAddressChar c = true := by
  have hierarchy {chars tail : List Char} (skips : Skips uri chars)
      (found : skipHierarchy chars = some tail) (ends : endsWell tail = true) : Skips uri [] :=
    skips.trans ((skips_of_skipHierarchy (fun member => noBracket (skips.mem member))
      found).trans (skips_of_endsWell ends))
  have whole : Skips uri [] := by
    rw [isReference, Bool.or_eq_true] at reference
    rcases reference with absolute | relative
    · unfold isAbsolute at absolute
      split at absolute
      · rename_i scheme
        split at absolute
        · rename_i found
          exact hierarchy (skips_of_afterScheme? scheme) found absolute
        · cases absolute
      · cases absolute
    · unfold isRelative at relative
      have wellFormed := (Bool.and_eq_true_iff.1 relative).2
      split at wellFormed
      · rename_i found
        exact hierarchy (.refl uri) found wellFormed
      · cases wellFormed
  obtain ⟨taken, rfl, addresses⟩ := whole
  rwa [List.append_nil]

end XmlCollation.Markup.Uri
