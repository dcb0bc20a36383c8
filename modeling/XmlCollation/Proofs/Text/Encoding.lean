import Mathlib.Tactic.SplitIfs
import XmlCollation.Text.Charset

/-!
Contract: the bytes that stand for characters, and the steps that read them.

Owns:
- the bytes that stand for a character in the eight-bit form, in the sixteen-bit form, and as
  single bytes;
- steps: a step reads what stands for a character, whatever follows, and refuses everything
  else.

Does not own: texts, and the tables of single-byte sets.
-/

namespace XmlCollation.Text.Charset

/-! ## Alphabets -/

/-- Which bytes stand for a character. -/
abbrev Alphabet := Char → List UInt8 → Prop

/-- One to four bytes for each character. -/
def eightBit : Alphabet := fun c piece => piece = String.utf8EncodeChar c

/-- The units of a character: two beyond the first 65536 characters. -/
def unitsOf (c : Char) : List Nat :=
  if c.toNat < 0x10000 then [c.toNat]
  else [0xd800 + (c.toNat - 0x10000) / 0x400, 0xdc00 + (c.toNat - 0x10000) % 0x400]

/-- The bytes of a unit in the given order. -/
def bytesOfUnit (big : Bool) (unit : Nat) : List UInt8 :=
  if big then [UInt8.ofNat (unit / 256), UInt8.ofNat (unit % 256)]
  else [UInt8.ofNat (unit % 256), UInt8.ofNat (unit / 256)]

def sixteenBit (big : Bool) : Alphabet :=
  fun c piece => piece = (unitsOf c).flatMap (bytesOfUnit big)

/-- One byte for each character. -/
def single (stands : UInt8 → Char → Prop) : Alphabet :=
  fun c piece => ∃ b, stands b c ∧ piece = [b]

/-- The lower half of the single bytes is the same in every set. -/
def standsLow (b : UInt8) (c : Char) : Prop :=
  b.toNat < 128 ∧ b.toNat = c.toNat

/-- A byte of the upper half stands for what the table has in its place, unless that is the
replacement character. -/
def standsIn (upper : String) (b : UInt8) (c : Char) : Prop :=
  standsLow b c ∨ 128 ≤ b.toNat ∧ upper.toList[b.toNat - 128]? = some c ∧ c ≠ '\ufffd'

/-! ## Steps -/

/-- A step reads what stands for a character, whatever follows it, and nothing else.  What it
refuses begins with the next byte. -/
structure Step.Follows (step : Step) (alphabet : Alphabet) : Prop where
  stands_of_ok : ∀ {place : Nat} {b : UInt8} {rest : List UInt8} {c : Char} {size : Nat},
    step place b rest = .ok (c, size) → size ≤ rest.length ∧ alphabet c (b :: rest.take size)
  ok_of_stands : ∀ {c : Char} {piece : List UInt8}, alphabet c piece →
    ∃ b following, piece = b :: following ∧
      ∀ place rest, step place b (following ++ rest) = .ok (c, following.length)
  marks_of_error : ∀ {place : Nat} {b : UInt8} {rest : List UInt8} {fault : DecodeFault},
    step place b rest = .error fault → ∃ size ≤ rest.length,
      fault.start = place ∧ fault.stop = place + 1 + size ∧ fault.bytes = b :: rest.take size

/-- It is enough to tell what a step reads or refuses, and what it reads of each character. -/
theorem Step.Follows.of_cases {step : Step} {alphabet : Alphabet}
    (readsOrRefuses : ∀ place b rest,
      (∃ c size, step place b rest = .ok (c, size) ∧ size ≤ rest.length ∧
        alphabet c (b :: rest.take size)) ∨
      ∃ size ≤ rest.length, ∃ codec reason, step place b rest =
        .error ⟨codec, place, place + 1 + size, b :: rest.take size, reason⟩)
    (reads : ∀ c piece, alphabet c piece → ∃ b following, piece = b :: following ∧
      ∀ place rest, step place b (following ++ rest) = .ok (c, following.length)) :
    step.Follows alphabet where
  stands_of_ok {place b rest c size} read := by
    obtain ⟨_, _, found, within, stands⟩ | ⟨_, _, _, _, refused⟩ := readsOrRefuses place b rest
    · obtain ⟨rfl, rfl⟩ := Prod.mk.inj (Except.ok.inj (found.symm.trans read))
      exact ⟨within, stands⟩
    · cases refused.symm.trans read
  ok_of_stands stands := reads _ _ stands
  marks_of_error {place b rest fault} failed := by
    obtain ⟨_, _, found, _, _⟩ | ⟨size, within, _, _, refused⟩ := readsOrRefuses place b rest
    · cases found.symm.trans failed
    · obtain rfl := Except.error.inj (refused.symm.trans failed)
      exact ⟨size, within, rfl, rfl, rfl⟩

theorem toNat_ofNat_of_isValidChar {code : Nat} (valid : code.isValidChar) :
    (Char.ofNat code).toNat = code := by
  rw [Char.ofNat, dif_pos valid]
  rfl

theorem toNat_ofNat_lt {code : Nat} (small : code < 0xd800) : (Char.ofNat code).toNat = code :=
  toNat_ofNat_of_isValidChar (.inl small)

theorem byte_eq {code : Nat} {b : UInt8} (same : code = b.toNat) : UInt8.ofNat code = b := by
  rw [same, UInt8.ofNat_toNat]

/-! ### Eight-bit form -/

/-- The bytes of a character by the size of its code: six bits of the code in each byte that
follows, and what is left of it in the first one. -/
inductive Encoded (c : Char) : List UInt8 → Prop
  | one {a : UInt8} : c.toNat < 0x80 → a.toNat = c.toNat → Encoded c [a]
  | two {a b : UInt8} : 0x80 ≤ c.toNat → c.toNat < 0x800 → a.toNat = 0xc0 + c.toNat / 0x40 →
      b.toNat = 0x80 + c.toNat % 0x40 → Encoded c [a, b]
  | three {a b d : UInt8} : 0x800 ≤ c.toNat → c.toNat < 0x10000 →
      a.toNat = 0xe0 + c.toNat / 0x1000 → b.toNat = 0x80 + c.toNat / 0x40 % 0x40 →
      d.toNat = 0x80 + c.toNat % 0x40 → Encoded c [a, b, d]
  | four {a b d e : UInt8} : 0x10000 ≤ c.toNat → a.toNat = 0xf0 + c.toNat / 0x40000 →
      b.toNat = 0x80 + c.toNat / 0x1000 % 0x40 → d.toNat = 0x80 + c.toNat / 0x40 % 0x40 →
      e.toNat = 0x80 + c.toNat % 0x40 → Encoded c [a, b, d, e]

theorem toNat_lt (c : Char) : c.toNat < 0x110000 := by
  have valid : c.toNat < 0xd800 ∨ 0xdfff < c.toNat ∧ c.toNat < 0x110000 := c.valid
  omega

theorem encoded_utf8EncodeChar (c : Char) : Encoded c (String.utf8EncodeChar c) := by
  have bounded : c.toNat < 0x110000 := toNat_lt c
  have unfolded : c.val.toNat = c.toNat := rfl
  rw [String.utf8EncodeChar, unfolded]
  split_ifs with one two three
  · exact .one (by omega) (by rw [UInt8.toNat_ofNat']; omega)
  · exact .two (by omega) (by omega) (by rw [UInt8.toNat_ofNat']; omega)
      (by rw [UInt8.toNat_ofNat']; omega)
  · exact .three (by omega) (by omega) (by rw [UInt8.toNat_ofNat']; omega)
      (by rw [UInt8.toNat_ofNat']; omega) (by rw [UInt8.toNat_ofNat']; omega)
  · exact .four (by omega) (by rw [UInt8.toNat_ofNat']; omega)
      (by rw [UInt8.toNat_ofNat']; omega) (by rw [UInt8.toNat_ofNat']; omega)
      (by rw [UInt8.toNat_ofNat']; omega)

theorem Encoded.unique {c : Char} {first second : List UInt8} (firstEncoded : Encoded c first)
    (secondEncoded : Encoded c second) : first = second := by
  cases firstEncoded <;> cases secondEncoded
  all_goals first
    | omega
    | simp only [List.cons.injEq, and_true, ← UInt8.toNat_inj]; omega

/-- The bytes of a character are those of no other one. -/
theorem Encoded.char_unique {first second : Char} {piece : List UInt8}
    (firstEncoded : Encoded first piece) (secondEncoded : Encoded second piece) :
    first = second := by
  have sameCode : first.toNat = second.toNat := by
    cases firstEncoded <;> cases secondEncoded <;> omega
  rw [← Char.ofNat_toNat first, sameCode, Char.ofNat_toNat]

theorem eightBit_iff_encoded {c : Char} {piece : List UInt8} :
    eightBit c piece ↔ Encoded c piece :=
  ⟨fun same => same ▸ encoded_utf8EncodeChar c,
    fun encoded => encoded.unique (encoded_utf8EncodeChar c)⟩

/-- What the first byte says about the ones that follow it. -/
theorem followers?_eq_some_iff {first low high count : Nat} :
    followers? first = some (low, high, count) ↔
      count = 1 ∧ 0xc2 ≤ first ∧ first ≤ 0xdf ∧ low = 0x80 ∧ high = 0xbf ∨
      count = 2 ∧ 0xe0 ≤ first ∧ first ≤ 0xef ∧
        (low = 0xa0 ∧ first = 0xe0 ∨ low = 0x80 ∧ first ≠ 0xe0) ∧
        (high = 0x9f ∧ first = 0xed ∨ high = 0xbf ∧ first ≠ 0xed) ∨
      count = 3 ∧ 0xf0 ≤ first ∧ first ≤ 0xf4 ∧
        (low = 0x90 ∧ first = 0xf0 ∨ low = 0x80 ∧ first ≠ 0xf0) ∧
        (high = 0x8f ∧ first = 0xf4 ∨ high = 0xbf ∧ first ≠ 0xf4) := by
  unfold followers?
  split_ifs
  all_goals simp only [Option.some.injEq, Prod.mk.injEq, false_iff]
  all_goals omega

/-- The following bytes keep the form if there are enough of them, the first one in its own
range and the others in the common one. -/
theorem breach?_eq_none_iff {low high count seen : Nat} {bytes : List UInt8} :
    breach? low high (count + 1) seen bytes = none ↔
      ∃ b rest, bytes = b :: rest ∧ low ≤ b.toNat ∧ b.toNat ≤ high ∧
        breach? 0x80 0xbf count (seen + 1) rest = none := by
  cases bytes with
  | nil =>
      rw [breach?]
      constructor
      · intro keeps
        cases keeps
      · rintro ⟨_, _, impossible, _⟩
        cases impossible
  | cons b rest =>
      rw [breach?]
      constructor
      · intro keeps
        split_ifs at keeps with within
        exact ⟨b, rest, rfl, within.1, within.2, keeps⟩
      · rintro ⟨_, _, same, least, greatest, keeps⟩
        cases same
        rw [if_pos ⟨least, greatest⟩]
        exact keeps

theorem encoded_one {a : UInt8} (low : a.toNat < 0x80) : Encoded (Char.ofNat a.toNat) [a] := by
  have code := toNat_ofNat_lt (Nat.lt_trans low (by decide))
  exact .one (by omega) (by omega)

theorem encoded_two {a b : UInt8} (least : 0xc2 ≤ a.toNat) (greatest : a.toNat ≤ 0xdf)
    (second : 0x80 ≤ b.toNat ∧ b.toNat ≤ 0xbf) :
    Encoded (Char.ofNat (joinedCode a.toNat 1 [b])) [a, b] := by
  have joined : joinedCode a.toNat 1 [b] = (a.toNat - 0xc0) * 64 + (b.toNat - 0x80) := rfl
  have code : (Char.ofNat (joinedCode a.toNat 1 [b])).toNat = joinedCode a.toNat 1 [b] :=
    toNat_ofNat_lt (by omega)
  exact .two (by omega) (by omega) (by omega) (by omega)

/-- The least second byte keeps codes from having too many bytes, the greatest one leaves out
the units of the sixteen-bit form. -/
theorem encoded_three {a b d : UInt8} (least : 0xe0 ≤ a.toNat) (greatest : a.toNat ≤ 0xef)
    (second : 0x80 ≤ b.toNat ∧ b.toNat ≤ 0xbf) (secondLeast : a.toNat = 0xe0 → 0xa0 ≤ b.toNat)
    (secondGreatest : a.toNat = 0xed → b.toNat ≤ 0x9f) (third : 0x80 ≤ d.toNat ∧ d.toNat ≤ 0xbf) :
    Encoded (Char.ofNat (joinedCode a.toNat 2 [b, d])) [a, b, d] := by
  have joined : joinedCode a.toNat 2 [b, d] =
      ((a.toNat - 0xe0) * 64 + (b.toNat - 0x80)) * 64 + (d.toNat - 0x80) := rfl
  have code : (Char.ofNat (joinedCode a.toNat 2 [b, d])).toNat = joinedCode a.toNat 2 [b, d] :=
    toNat_ofNat_of_isValidChar (by unfold Nat.isValidChar; omega)
  exact .three (by omega) (by omega) (by omega) (by omega) (by omega)

/-- Here the greatest second byte leaves out what lies beyond the last character. -/
theorem encoded_four {a b d e : UInt8} (least : 0xf0 ≤ a.toNat) (greatest : a.toNat ≤ 0xf4)
    (second : 0x80 ≤ b.toNat ∧ b.toNat ≤ 0xbf) (secondLeast : a.toNat = 0xf0 → 0x90 ≤ b.toNat)
    (secondGreatest : a.toNat = 0xf4 → b.toNat ≤ 0x8f) (third : 0x80 ≤ d.toNat ∧ d.toNat ≤ 0xbf)
    (fourth : 0x80 ≤ e.toNat ∧ e.toNat ≤ 0xbf) :
    Encoded (Char.ofNat (joinedCode a.toNat 3 [b, d, e])) [a, b, d, e] := by
  have joined : joinedCode a.toNat 3 [b, d, e] =
      (((a.toNat - 0xf0) * 64 + (b.toNat - 0x80)) * 64 + (d.toNat - 0x80)) * 64
        + (e.toNat - 0x80) := rfl
  have code : (Char.ofNat (joinedCode a.toNat 3 [b, d, e])).toNat =
      joinedCode a.toNat 3 [b, d, e] :=
    toNat_ofNat_of_isValidChar (by unfold Nat.isValidChar; omega)
  exact .four (by omega) (by omega) (by omega) (by omega) (by omega)

/-- A first byte has `count` followers, and they keep the form. -/
def Keeps (first count : Nat) (rest : List UInt8) : Prop :=
  ∃ low high, followers? first = some (low, high, count) ∧ breach? low high count 0 rest = none

/-- What keeps the form is the form of the character that is made of it. -/
theorem Keeps.encoded {a : UInt8} {count : Nat} {rest : List UInt8}
    (keeps : Keeps a.toNat count rest) :
    count ≤ rest.length ∧
      Encoded (Char.ofNat (joinedCode a.toNat count (rest.take count))) (a :: rest.take count) := by
  obtain ⟨low, high, found, unbroken⟩ := keeps
  obtain ⟨rfl, least, greatest, range⟩ | ⟨rfl, least, greatest, range⟩ |
    ⟨rfl, least, greatest, range⟩ := followers?_eq_some_iff.1 found
  · obtain ⟨b, rest, rfl, secondLow, secondHigh, -⟩ := breach?_eq_none_iff.1 unbroken
    exact ⟨Nat.le_add_left 1 _, encoded_two least greatest (by omega)⟩
  · obtain ⟨b, rest, rfl, secondLow, secondHigh, unbroken⟩ := breach?_eq_none_iff.1 unbroken
    obtain ⟨d, rest, rfl, third, thirdHigh, -⟩ := breach?_eq_none_iff.1 unbroken
    exact ⟨Nat.le_add_left 2 _, encoded_three least greatest (by omega) (by omega) (by omega)
      ⟨third, thirdHigh⟩⟩
  · obtain ⟨b, rest, rfl, secondLow, secondHigh, unbroken⟩ := breach?_eq_none_iff.1 unbroken
    obtain ⟨d, rest, rfl, third, thirdHigh, unbroken⟩ := breach?_eq_none_iff.1 unbroken
    obtain ⟨e, rest, rfl, fourth, fourthHigh, -⟩ := breach?_eq_none_iff.1 unbroken
    exact ⟨Nat.le_add_left 3 _, encoded_four least greatest (by omega) (by omega) (by omega)
      ⟨third, thirdHigh⟩ ⟨fourth, fourthHigh⟩⟩

/-- The bytes of a character keep the form, whatever follows them. -/
theorem Encoded.keeps {c : Char} {a : UInt8} {following : List UInt8}
    (encoded : Encoded c (a :: following)) (rest : List UInt8) :
    a.toNat < 0x80 ∧ following = [] ∨ Keeps a.toNat following.length (following ++ rest) := by
  have valid : c.toNat < 0xd800 ∨ 0xdfff < c.toNat ∧ c.toNat < 0x110000 := c.valid
  cases encoded with
  | one low same => exact .inl ⟨by omega, rfl⟩
  | two least greatest first second =>
      have found : followers? a.toNat = some (0x80, 0xbf, 1) :=
        followers?_eq_some_iff.2 (by omega)
      exact .inr ⟨_, _, found, breach?_eq_none_iff.2 ⟨_, _, rfl, by omega, by omega, rfl⟩⟩
  | three least greatest first second third =>
      have found : followers? a.toNat = some
          (if a.toNat = 0xe0 then 0xa0 else 0x80, if a.toNat = 0xed then 0x9f else 0xbf, 2) :=
        followers?_eq_some_iff.2 (by split_ifs <;> omega)
      refine .inr ⟨_, _, found, breach?_eq_none_iff.2 ⟨_, _, rfl, ?_, ?_, ?_⟩⟩
      · split_ifs <;> omega
      · split_ifs <;> omega
      · exact breach?_eq_none_iff.2 ⟨_, _, rfl, by omega, by omega, rfl⟩
  | four least first second third fourth =>
      have found : followers? a.toNat = some
          (if a.toNat = 0xf0 then 0x90 else 0x80, if a.toNat = 0xf4 then 0x8f else 0xbf, 3) :=
        followers?_eq_some_iff.2 (by split_ifs <;> omega)
      refine .inr ⟨_, _, found, breach?_eq_none_iff.2 ⟨_, _, rfl, ?_, ?_, ?_⟩⟩
      · split_ifs <;> omega
      · split_ifs <;> omega
      · refine breach?_eq_none_iff.2 ⟨_, _, rfl, by omega, by omega, ?_⟩
        exact breach?_eq_none_iff.2 ⟨_, _, rfl, by omega, by omega, rfl⟩

theorem readUtf8_of_low (place : Nat) {a : UInt8} (rest : List UInt8) (low : a.toNat < 0x80) :
    readUtf8 place a rest = .ok (Char.ofNat a.toNat, 0) := by
  rw [readUtf8, if_pos low]

theorem readUtf8_of_keeps (place : Nat) {a : UInt8} {count : Nat} {rest : List UInt8}
    (keeps : Keeps a.toNat count rest) :
    readUtf8 place a rest =
      .ok (Char.ofNat (joinedCode a.toNat count (rest.take count)), count) := by
  obtain ⟨low, high, found, unbroken⟩ := keeps
  have notLow : ¬a.toNat < 0x80 := by
    have ranges := followers?_eq_some_iff.1 found
    omega
  rw [readUtf8, if_neg notLow]
  simp only [found, unbroken]

theorem breach?_le {low high count seen broken : Nat} {ended : Bool} {bytes : List UInt8}
    (breaks : breach? low high count seen bytes = some (broken, ended)) :
    broken ≤ seen + bytes.length := by
  induction bytes generalizing low high count seen with
  | nil =>
      cases count with
      | zero => cases breaks
      | succ count =>
          obtain ⟨rfl, -⟩ := Prod.mk.inj (Option.some.inj breaks)
          exact Nat.le_refl _
  | cons b rest inductionHypothesis =>
      cases count with
      | zero => cases breaks
      | succ count =>
          rw [breach?] at breaks
          split_ifs at breaks
          · have later := inductionHypothesis breaks
            rw [List.length_cons]
            omega
          · obtain ⟨rfl, -⟩ := Prod.mk.inj (Option.some.inj breaks)
            exact Nat.le_add_right _ _

/-- A byte is read by itself, or with those that keep the form behind it, or it is refused. -/
theorem readUtf8_cases (place : Nat) (a : UInt8) (rest : List UInt8) :
    a.toNat < 0x80 ∨ (∃ count, Keeps a.toNat count rest) ∨
      ∃ size ≤ rest.length, ∃ reason, readUtf8 place a rest =
        .error ⟨"utf-8", place, place + 1 + size, a :: rest.take size, reason⟩ := by
  by_cases low : a.toNat < 0x80
  · exact .inl low
  rw [readUtf8, if_neg low]
  cases found : followers? a.toNat with
  | none => exact .inr (.inr ⟨0, Nat.zero_le _, _, rfl⟩)
  | some range =>
      obtain ⟨low, high, count⟩ := range
      cases breaks : breach? low high count 0 rest with
      | none => exact .inr (.inl ⟨count, low, high, found, breaks⟩)
      | some breach =>
          have within : breach.1 ≤ 0 + rest.length := breach?_le breaks
          rw [Nat.zero_add] at within
          exact .inr (.inr ⟨breach.1, within, _, by simp only [breaks]; rfl⟩)

theorem follows_readUtf8 : Step.Follows readUtf8 eightBit := by
  refine .of_cases (fun place a rest => ?_) (fun c piece stands => ?_)
  · obtain low | ⟨count, keeps⟩ | ⟨size, within, reason, refused⟩ := readUtf8_cases place a rest
    · exact .inl ⟨_, 0, readUtf8_of_low place rest low, Nat.zero_le _,
        eightBit_iff_encoded.2 (encoded_one low)⟩
    · exact .inl ⟨_, count, readUtf8_of_keeps place keeps, keeps.encoded.1,
        eightBit_iff_encoded.2 keeps.encoded.2⟩
    · exact .inr ⟨size, within, _, reason, refused⟩
  · rw [eightBit_iff_encoded] at stands
    cases piece with
    | nil => cases stands
    | cons a following =>
        refine ⟨a, following, rfl, fun place rest => ?_⟩
        obtain ⟨low, rfl⟩ | keeps := stands.keeps rest
        · rw [readUtf8_of_low place _ low, (encoded_one low).char_unique stands]
          rfl
        · have read := keeps.encoded.2
          rw [List.take_left] at read
          rw [readUtf8_of_keeps place keeps, List.take_left, read.char_unique stands]

/-! ### Sixteen-bit form -/

theorem bytesOfUnit_unitOf (big : Bool) (a b : UInt8) :
    bytesOfUnit big (unitOf big a b) = [a, b] := by
  have aLt := a.toNat_lt
  have bLt := b.toNat_lt
  cases big with
  | true =>
      show [UInt8.ofNat ((a.toNat * 256 + b.toNat) / 256),
        UInt8.ofNat ((a.toNat * 256 + b.toNat) % 256)] = [a, b]
      rw [byte_eq (by omega : (a.toNat * 256 + b.toNat) / 256 = a.toNat),
        byte_eq (by omega : (a.toNat * 256 + b.toNat) % 256 = b.toNat)]
  | false =>
      show [UInt8.ofNat ((b.toNat * 256 + a.toNat) % 256),
        UInt8.ofNat ((b.toNat * 256 + a.toNat) / 256)] = [a, b]
      rw [byte_eq (by omega : (b.toNat * 256 + a.toNat) % 256 = a.toNat),
        byte_eq (by omega : (b.toNat * 256 + a.toNat) / 256 = b.toNat)]

/-- The two bytes of a unit. -/
theorem exists_bytesOfUnit (big : Bool) {unit : Nat} (bounded : unit < 0x10000) :
    ∃ a b, bytesOfUnit big unit = [a, b] ∧ unitOf big a b = unit := by
  cases big with
  | true =>
      refine ⟨_, _, rfl, ?_⟩
      rw [unitOf, if_pos rfl, UInt8.toNat_ofNat', UInt8.toNat_ofNat']
      omega
  | false =>
      refine ⟨_, _, rfl, ?_⟩
      rw [unitOf, if_neg Bool.false_ne_true, UInt8.toNat_ofNat', UInt8.toNat_ofNat']
      omega

theorem unitOf_lt (big : Bool) (a b : UInt8) : unitOf big a b < 0x10000 := by
  have aLt := a.toNat_lt
  have bLt := b.toNat_lt
  unfold unitOf
  split_ifs <;> omega

/-- A unit that is a character by itself. -/
def IsPlain (unit : Nat) : Prop :=
  unit < 0xd800 ∨ 0xdfff < unit

/-- Two units that are a character together. -/
def IsPair (high low : Nat) : Prop :=
  (0xd800 ≤ high ∧ high ≤ 0xdbff) ∧ 0xdc00 ≤ low ∧ low ≤ 0xdfff

/-- The code of two units. -/
def pairCode (high low : Nat) : Nat :=
  0x10000 + (high - 0xd800) * 1024 + (low - 0xdc00)

theorem unitsOf_plain {unit : Nat} (plain : IsPlain unit) (bounded : unit < 0x10000) :
    unitsOf (Char.ofNat unit) = [unit] := by
  have code : (Char.ofNat unit).toNat = unit :=
    toNat_ofNat_of_isValidChar (by unfold IsPlain at plain; unfold Nat.isValidChar; omega)
  rw [unitsOf, code, if_pos bounded]

theorem unitsOf_pair {high low : Nat} (pair : IsPair high low) :
    unitsOf (Char.ofNat (pairCode high low)) = [high, low] := by
  unfold IsPair at pair
  have joined : pairCode high low = 0x10000 + (high - 0xd800) * 1024 + (low - 0xdc00) := rfl
  have code : (Char.ofNat (pairCode high low)).toNat = pairCode high low :=
    toNat_ofNat_of_isValidChar (by unfold Nat.isValidChar; omega)
  have first : 0xd800 + (pairCode high low - 0x10000) / 0x400 = high := by omega
  have second : 0xdc00 + (pairCode high low - 0x10000) % 0x400 = low := by omega
  rw [unitsOf, code, if_neg (by omega), first, second]

/-- The units of a character: one plain unit, or a pair. -/
theorem unitsOf_cases (c : Char) :
    (∃ unit, unitsOf c = [unit] ∧ IsPlain unit ∧ unit < 0x10000 ∧ c = Char.ofNat unit) ∨
      ∃ high low, unitsOf c = [high, low] ∧ IsPair high low ∧
        c = Char.ofNat (pairCode high low) := by
  have valid : c.toNat < 0xd800 ∨ 0xdfff < c.toNat ∧ c.toNat < 0x110000 := c.valid
  by_cases small : c.toNat < 0x10000
  · refine .inl ⟨c.toNat, if_pos small, ?_, small, (Char.ofNat_toNat c).symm⟩
    unfold IsPlain
    omega
  · refine .inr ⟨_, _, if_neg small, ?_, ?_⟩
    · unfold IsPair
      omega
    · have same : pairCode (0xd800 + (c.toNat - 0x10000) / 0x400)
          (0xdc00 + (c.toNat - 0x10000) % 0x400) = c.toNat := by
        unfold pairCode
        omega
      rw [same, Char.ofNat_toNat]

theorem readUtf16_of_plain {big : Bool} (place : Nat) {a b : UInt8} (rest : List UInt8)
    (plain : IsPlain (unitOf big a b)) :
    readUtf16 big place a (b :: rest) = .ok (Char.ofNat (unitOf big a b), 1) :=
  if_pos plain

theorem readUtf16_of_pair {big : Bool} (place : Nat) {a b d e : UInt8} (rest : List UInt8)
    (pair : IsPair (unitOf big a b) (unitOf big d e)) :
    readUtf16 big place a (b :: d :: e :: rest) =
      .ok (Char.ofNat (pairCode (unitOf big a b) (unitOf big d e)), 3) := by
  unfold IsPair at pair
  rw [readUtf16]
  simp only
  rw [if_neg (by omega), if_neg (by omega), if_pos pair.2]
  rfl

/-- A plain unit is read by itself, a pair is read together, and everything else is refused. -/
theorem readUtf16_cases (big : Bool) (place : Nat) (a : UInt8) (rest : List UInt8) :
    (∃ b tail, rest = b :: tail ∧ IsPlain (unitOf big a b)) ∨
      (∃ b d e tail, rest = b :: d :: e :: tail ∧ IsPair (unitOf big a b) (unitOf big d e)) ∨
      ∃ size ≤ rest.length, ∃ reason, readUtf16 big place a rest =
        .error ⟨readUtf16.name big, place, place + 1 + size, a :: rest.take size, reason⟩ := by
  match rest with
  | [] => exact .inr (.inr ⟨0, Nat.le_refl _, _, rfl⟩)
  | b :: rest =>
      by_cases plain : IsPlain (unitOf big a b)
      · exact .inl ⟨b, rest, rfl, plain⟩
      have unread : readUtf16 big place a (b :: rest) = _ := if_neg plain
      rw [unread]
      unfold IsPlain at plain
      by_cases low : 0xdc00 ≤ unitOf big a b
      · rw [if_pos low]
        exact .inr (.inr ⟨1, Nat.le_add_left 1 _, _, rfl⟩)
      rw [if_neg low]
      match rest with
      | [] => exact .inr (.inr ⟨1, Nat.le_refl _, _, rfl⟩)
      | [d] => exact .inr (.inr ⟨2, Nat.le_refl _, _, rfl⟩)
      | d :: e :: tail =>
          by_cases pair : 0xdc00 ≤ unitOf big d e ∧ unitOf big d e ≤ 0xdfff
          · exact .inr (.inl ⟨b, d, e, tail, rfl, ⟨by omega, by omega⟩, pair⟩)
          · simp only [if_neg pair]
            exact .inr (.inr ⟨1, Nat.le_add_left 1 _, _, rfl⟩)

theorem follows_readUtf16 (big : Bool) : Step.Follows (readUtf16 big) (sixteenBit big) := by
  refine .of_cases (fun place a rest => ?_) (fun c piece stands => ?_)
  · obtain ⟨b, tail, rfl, plain⟩ | ⟨b, d, e, tail, rfl, pair⟩ | ⟨size, within, reason, refused⟩ :=
      readUtf16_cases big place a rest
    · refine .inl ⟨_, 1, readUtf16_of_plain place tail plain, Nat.le_add_left 1 _, ?_⟩
      rw [sixteenBit, unitsOf_plain plain (unitOf_lt big a b), List.flatMap_singleton,
        bytesOfUnit_unitOf]
      rfl
    · refine .inl ⟨_, 3, readUtf16_of_pair place tail pair, Nat.le_add_left 3 _, ?_⟩
      rw [sixteenBit, unitsOf_pair pair, List.flatMap_cons, List.flatMap_singleton,
        bytesOfUnit_unitOf, bytesOfUnit_unitOf]
      rfl
    · exact .inr ⟨size, within, _, reason, refused⟩
  · rw [sixteenBit] at stands
    obtain ⟨unit, units, plain, bounded, same⟩ | ⟨high, low, units, pair, same⟩ := unitsOf_cases c
    · obtain ⟨a, b, bytes, rfl⟩ := exists_bytesOfUnit big bounded
      rw [units, List.flatMap_singleton, bytes] at stands
      rw [same]
      exact ⟨a, [b], stands, fun place rest => readUtf16_of_plain place rest plain⟩
    · unfold IsPair at pair
      obtain ⟨a, b, highBytes, rfl⟩ := exists_bytesOfUnit big (by omega : high < 0x10000)
      obtain ⟨d, e, lowBytes, rfl⟩ := exists_bytesOfUnit big (by omega : low < 0x10000)
      rw [units, List.flatMap_cons, List.flatMap_singleton, highBytes, lowBytes] at stands
      rw [same]
      exact ⟨a, [b, d, e], stands, fun place rest => readUtf16_of_pair place rest pair⟩

/-! ### Single bytes -/

theorem follows_readByte {codec reason : String} {meaning : UInt8 → Option Char}
    {stands : UInt8 → Char → Prop} (means : ∀ b c, meaning b = some c ↔ stands b c) :
    Step.Follows (readByte codec reason meaning) (single stands) := by
  refine .of_cases (fun place b rest => ?_) (fun c piece stands => ?_)
  · rw [readByte]
    cases meant : meaning b with
    | some c => exact .inl ⟨c, 0, rfl, Nat.zero_le _, b, (means b c).1 meant, rfl⟩
    | none => exact .inr ⟨0, Nat.zero_le _, codec, reason, rfl⟩
  · obtain ⟨b, meant, rfl⟩ := stands
    refine ⟨b, [], rfl, fun place rest => ?_⟩
    rw [readByte, (means b c).2 meant]
    rfl

theorem ofNat_eq_iff {code : Nat} (small : code < 0xd800) {c : Char} :
    Char.ofNat code = c ↔ code = c.toNat := by
  constructor
  · rintro rfl
    exact (toNat_ofNat_lt small).symm
  · rintro rfl
    exact Char.ofNat_toNat c

theorem asciiMeaning_eq_some_iff (b : UInt8) (c : Char) :
    asciiMeaning b = some c ↔ standsLow b c := by
  rw [asciiMeaning, standsLow]
  split_ifs with low
  · rw [Option.some.injEq, ofNat_eq_iff (by omega), and_iff_right low]
  · exact ⟨nofun, fun stands => absurd stands.1 low⟩

theorem byteMeaning_eq_some_iff (upper : String) (b : UInt8) (c : Char) :
    byteMeaning upper.toList.toArray b = some c ↔ standsIn upper b c := by
  rw [byteMeaning, standsIn, standsLow]
  split_ifs with low
  · rw [Option.some.injEq, ofNat_eq_iff (by omega)]
    constructor
    · exact fun same => .inl ⟨low, same⟩
    · rintro (⟨-, same⟩ | ⟨high, -⟩)
      · exact same
      · omega
  · rw [List.getElem?_toArray, Option.filter_eq_some_iff]
    constructor
    · rintro ⟨found, other⟩
      exact .inr ⟨by omega, found, by simpa using other⟩
    · rintro (⟨isLow, -⟩ | ⟨-, found, other⟩)
      · exact absurd isLow low
      · exact ⟨found, by simpa using other⟩

end XmlCollation.Text.Charset
