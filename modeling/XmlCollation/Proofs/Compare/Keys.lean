import XmlCollation.Compare.Config
import XmlCollation.Proofs.Markup.Escaping

/-!
Contract: keys of markup.

Owns:
- the letter case that a comparison sees, and its exchange with trimming, with
  escaping, with angle brackets and with other marks;
- keys of text that begins with an opening and ends with a closing bracket.

Does not own: what is written between the brackets.
-/

namespace XmlCollation.Compare

open XmlCollation.Text
open XmlCollation.Markup

/-! ## Letter case -/

/-- Characters in the letter case that a comparison sees. -/
def Config.fold (config : Config) (chars : List Char) : List Char :=
  if config.ignoreCase then lower chars else chars

variable (config : Config)

theorem Config.key_eq_fold_trim (chars : List Char) :
    config.key chars = config.fold (trim chars) :=
  rfl

theorem Config.key_eq_trim_fold (chars : List Char) :
    config.key chars = trim (config.fold chars) := by
  unfold Config.key Config.fold
  split
  · exact (trim_lower chars).symm
  · rfl

/-- Of all settings, keys of texts depend on letter case alone. -/
theorem Config.normalize_congr {config other : Config}
    (same : config.ignoreCase = other.ignoreCase) : config.normalize = other.normalize := by
  funext text
  rw [Config.normalize, Config.normalize, Config.key, Config.key, same]

theorem Config.fold_congr {config other : Config}
    (same : config.ignoreCase = other.ignoreCase) : config.fold = other.fold := by
  funext chars
  rw [Config.fold, Config.fold, same]

/-- Texts that are equal in the letter case that a comparison sees have equal keys. -/
theorem Config.normalize_eq_of_fold_eq {left right : String}
    (same : config.fold left.toList = config.fold right.toList) :
    config.normalize left = config.normalize right := by
  rw [← String.toList_inj, Config.normalize_toList, Config.normalize_toList,
    config.key_eq_trim_fold, config.key_eq_trim_fold, same]

theorem Config.fold_nil : config.fold [] = [] := by
  unfold Config.fold
  split <;> rfl

/-- A mark that separates parts a text into two that are folded on their own. -/
theorem Config.fold_append_mark {c : Char} (separates : Case.isSeparator c = true)
    (marked : Case.isMark c = true) (chars rest : List Char) :
    config.fold (chars ++ c :: rest) = config.fold chars ++ c :: config.fold rest := by
  unfold Config.fold
  split
  · rw [lower_append_separator separates, lower_cons_mark separates marked]
  · rfl

theorem Config.fold_cons_mark {c : Char} (separates : Case.isSeparator c = true)
    (marked : Case.isMark c = true) (rest : List Char) :
    config.fold (c :: rest) = c :: config.fold rest := by
  have parted := config.fold_append_mark separates marked [] rest
  rwa [List.nil_append, config.fold_nil, List.nil_append] at parted

theorem Config.mem_fold_mark {mark : Char} (marked : Case.isMark mark = true)
    (chars : List Char) : mark ∈ config.fold chars ↔ mark ∈ chars := by
  unfold Config.fold
  split
  · exact mem_lower_mark marked chars
  · exact Iff.rfl

/-- What is equal in the letter case that a comparison sees is equal in lower case. -/
theorem Config.lower_eq_of_fold_eq {chars others : List Char}
    (equal : config.fold chars = config.fold others) : lower chars = lower others := by
  unfold Config.fold at equal
  split at equal
  · exact equal
  · rw [equal]

theorem Config.fold_append_less (chars rest : List Char) :
    config.fold (chars ++ '<' :: rest) = config.fold chars ++ '<' :: config.fold rest :=
  config.fold_append_mark (by decide) (by decide) chars rest

theorem Config.fold_append_greater (chars rest : List Char) :
    config.fold (chars ++ '>' :: rest) = config.fold chars ++ '>' :: config.fold rest :=
  config.fold_append_mark (by decide) (by decide) chars rest

theorem Config.fold_cons_slash (rest : List Char) :
    config.fold ('/' :: rest) = '/' :: config.fold rest :=
  config.fold_cons_mark (by decide) (by decide) rest

theorem Config.fold_head_ne_slash {c : Char} (noSlash : c ≠ '/') (rest tail : List Char) :
    config.fold (c :: rest) ≠ '/' :: tail := by
  intro equal
  unfold Config.fold at equal
  split at equal
  · rw [lower, Case.lowerAfter] at equal
    have inFirst : '/' ∈ Case.lowerAt [] c rest := by
      cases written : Case.lowerAt [] c rest with
      | nil => exact absurd written (lowerAt_ne_nil [] c rest)
      | cons head others =>
          rw [written, List.cons_append, List.cons.injEq] at equal
          rw [equal.1]
          exact List.mem_cons_self
    exact noSlash (Case.eq_mark_of_mem_lowerAt (by decide) inFirst)
  · rw [List.cons.injEq] at equal
    exact noSlash equal.1

theorem Config.bracketless_fold {chars : List Char} :
    Bracketless (config.fold chars) ↔ Bracketless chars := by
  unfold Config.fold
  split
  · exact bracketless_lower
  · exact Iff.rfl

theorem Config.fold_escapeText (chars : List Char) :
    config.fold (escapeText chars) = escapeText (config.fold chars) := by
  unfold Config.fold
  split
  · exact lower_escapeText chars
  · rfl

/-! ## Text between brackets -/

/-- The text begins with an opening and ends with a closing bracket. -/
def IsTagged (chars : List Char) : Prop :=
  ∃ inner, chars = '<' :: inner ++ ['>']

/-- What ends with a closing bracket and begins with no white space is trimmed. -/
theorem trim_eq_self {c : Char} (visible : isBlank c = false) (inner : List Char) :
    trim (c :: inner ++ ['>']) = c :: inner ++ ['>'] := by
  rw [trim, List.cons_append, List.dropWhile_cons_of_neg (by simp [visible]),
    ← List.cons_append, trimRight_append_of_not_blank (by decide)]

theorem IsTagged.trim_eq {chars : List Char} (tagged : IsTagged chars) : trim chars = chars := by
  obtain ⟨inner, rfl⟩ := tagged
  exact trim_eq_self (by decide) inner

theorem IsTagged.key_eq {chars : List Char} (tagged : IsTagged chars) :
    config.key chars = config.fold chars := by
  rw [config.key_eq_fold_trim, tagged.trim_eq]

/-- Tagged text is folded on its own. -/
theorem Config.fold_append_tagged (left : List Char) {right : List Char}
    (tagged : IsTagged right) :
    config.fold (left ++ right) = config.fold left ++ config.fold right := by
  obtain ⟨inner, rfl⟩ := tagged
  have alone := config.fold_cons_mark (c := '<') (by decide) (by decide) (inner ++ ['>'])
  rw [List.cons_append, config.fold_append_less, alone]

theorem Config.fold_append_flatMap_tagged {α : Type} {write : α → List Char} {entries : List α}
    (tagged : ∀ entry ∈ entries, IsTagged (write entry)) (left : List Char) :
    config.fold (left ++ entries.flatMap write) =
      config.fold left ++ entries.flatMap fun entry => config.fold (write entry) := by
  induction entries generalizing left with
  | nil => simp
  | cons entry rest inductionHypothesis =>
      have restTagged : ∀ other ∈ rest, IsTagged (write other) :=
        fun other member => tagged other (by simp [member])
      rw [List.flatMap_cons, List.flatMap_cons, ← List.append_assoc,
        inductionHypothesis restTagged, config.fold_append_tagged left (tagged entry (by simp)),
        List.append_assoc]

end XmlCollation.Compare
