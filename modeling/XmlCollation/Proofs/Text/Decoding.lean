import XmlCollation.Proofs.Text.Encoding

/-!
Contract: the bytes that spell a text, and decoding as their reading.

Owns:
- the bytes that spell a text in a set: those of its characters one after the other, behind
  the mark where the set has one;
- reading to the end, which gives what the bytes spell or stops behind the longest beginning
  that spells anything;
- decoding: it gives a text if and only if the bytes spell it, and otherwise marks the first
  bytes that spell nothing.

Does not own: the bytes of a single character, and the names of sets.
-/

namespace XmlCollation.Text.Charset

/-! ## Spelling -/

/-- The bytes of characters one after the other. -/
inductive Spelling (alphabet : Alphabet) : List Char → List UInt8 → Prop
  | nil : Spelling alphabet [] []
  | cons {c : Char} {chars : List Char} {piece bytes : List UInt8} :
      alphabet c piece → Spelling alphabet chars bytes →
        Spelling alphabet (c :: chars) (piece ++ bytes)

/-- The mark of the eight-bit form. -/
def signature : List UInt8 := [0xef, 0xbb, 0xbf]

/-- The mark of the sixteen-bit form in a byte order. -/
def orderMark : Bool → List UInt8
  | false => [0xff, 0xfe]
  | true => [0xfe, 0xff]

/-- The bytes that spell a text in a set.  A mark at the beginning is no part of the text. -/
inductive Spells : Charset → List UInt8 → String → Prop
  | utf8 {bytes : List UInt8} {text : String} :
      Spelling eightBit text.toList bytes → Spells .utf8 bytes text
  | signed {bytes : List UInt8} {text : String} :
      Spelling eightBit text.toList bytes → Spells .utf8Signed (signature ++ bytes) text
  | unsigned {bytes : List UInt8} {text : String} :
      ¬signature <+: bytes → Spelling eightBit text.toList bytes → Spells .utf8Signed bytes text
  | marked (big : Bool) {bytes : List UInt8} {text : String} :
      Spelling (sixteenBit big) text.toList bytes → Spells .utf16 (orderMark big ++ bytes) text
  | unmarked {bytes : List UInt8} {text : String} :
      (∀ big, ¬orderMark big <+: bytes) → Spelling (sixteenBit false) text.toList bytes →
        Spells .utf16 bytes text
  | utf16Little {bytes : List UInt8} {text : String} :
      Spelling (sixteenBit false) text.toList bytes → Spells .utf16Little bytes text
  | utf16Big {bytes : List UInt8} {text : String} :
      Spelling (sixteenBit true) text.toList bytes → Spells .utf16Big bytes text
  | ascii {bytes : List UInt8} {text : String} :
      Spelling (single standsLow) text.toList bytes → Spells .ascii bytes text
  | latin1 {bytes : List UInt8} {text : String} :
      Spelling (single fun b c => b.toNat = c.toNat) text.toList bytes → Spells .latin1 bytes text
  | singleByte {upper : String} {bytes : List UInt8} {text : String} :
      Spelling (single (standsIn upper)) text.toList bytes → Spells (.singleByte upper) bytes text

/-! ## Reading to the end -/

section Texts

variable {step : Step} {alphabet : Alphabet}

/-- The first character of what is spelled is what a step reads, also if more bytes follow. -/
theorem Spelling.step_of_isPrefix (follows : step.Follows alphabet) (place : Nat) {b : UInt8}
    {spelled rest : List UInt8} {chars : List Char}
    (spelling : Spelling alphabet chars (b :: spelled)) (begins : spelled <+: rest) :
    ∃ c more following later, chars = c :: more ∧ spelled = following ++ later ∧
      Spelling alphabet more later ∧ step place b rest = .ok (c, following.length) := by
  generalize isBytes : b :: spelled = bytes at spelling
  cases spelling with
  | nil => cases isBytes
  | @cons c more piece later stands spelling =>
      obtain ⟨first, following, rfl, reads⟩ := follows.ok_of_stands stands
      rw [List.cons_append] at isBytes
      obtain ⟨rfl, rfl⟩ := List.cons.inj isBytes
      obtain ⟨behind, rfl⟩ := begins
      refine ⟨c, more, following, later, rfl, rfl, spelling, ?_⟩
      rw [List.append_assoc]
      exact reads place (later ++ behind)

theorem spelling_nil_iff (follows : step.Follows alphabet) {chars : List Char} :
    Spelling alphabet chars [] ↔ chars = [] := by
  constructor
  · intro spelling
    generalize isBytes : [] = bytes at spelling
    cases spelling with
    | nil => rfl
    | cons stands spelling =>
        obtain ⟨first, following, rfl, -⟩ := follows.ok_of_stands stands
        cases isBytes
  · rintro rfl
    exact .nil

/-- Bytes that a step reads from are spelled by its character and those of the bytes behind. -/
theorem Spelling.cons_of_step (follows : step.Follows alphabet) {place size : Nat} {b : UInt8}
    {rest : List UInt8} {c : Char} {chars : List Char} (read : step place b rest = .ok (c, size))
    (spelling : Spelling alphabet chars (rest.drop size)) :
    Spelling alphabet (c :: chars) (b :: rest) := by
  have joined := Spelling.cons (follows.stands_of_ok read).2 spelling
  rwa [List.cons_append, List.take_append_drop] at joined

theorem readAll_nil (step : Step) (limit place : Nat) (done : List Char) :
    readAll step limit place done [] = .ok done.reverse := by
  cases limit with
  | zero => rfl
  | succ limit => rfl

theorem readAll_nil_eq_ok_iff (follows : step.Follows alphabet) {limit place : Nat}
    {done chars : List Char} :
    readAll step limit place done [] = .ok chars ↔
      ∃ more, chars = done.reverse ++ more ∧ Spelling alphabet more [] := by
  simp only [readAll_nil, spelling_nil_iff follows, exists_eq_right, List.append_nil,
    Except.ok.injEq, eq_comm]

/-- Reading to the end gives the characters that the bytes spell. -/
theorem readAll_eq_ok_iff (follows : step.Follows alphabet) {limit place : Nat}
    {done chars : List Char} {bytes : List UInt8} (enough : bytes.length ≤ limit) :
    readAll step limit place done bytes = .ok chars ↔
      ∃ more, chars = done.reverse ++ more ∧ Spelling alphabet more bytes := by
  induction limit generalizing place done bytes with
  | zero =>
      obtain rfl := List.eq_nil_of_length_eq_zero (Nat.le_zero.1 enough)
      exact readAll_nil_eq_ok_iff follows
  | succ limit inductionHypothesis =>
      cases bytes with
      | nil => exact readAll_nil_eq_ok_iff follows
      | cons b rest =>
          have enoughBehind (size : Nat) : (rest.drop size).length ≤ limit :=
            Nat.le_trans (List.drop_sublist size rest).length_le (Nat.le_of_succ_le_succ enough)
          rw [readAll]
          constructor
          · intro read
            cases stepped : step place b rest with
            | error fault =>
                rw [stepped] at read
                cases read
            | ok next =>
                obtain ⟨c, size⟩ := next
                rw [stepped] at read
                obtain ⟨more, rfl, spelling⟩ := (inductionHypothesis (enoughBehind size)).1 read
                refine ⟨c :: more, ?_, .cons_of_step follows stepped spelling⟩
                rw [List.reverse_cons, List.append_assoc]
                rfl
          · rintro ⟨chars, rfl, spelling⟩
            obtain ⟨c, more, following, later, rfl, rfl, spelling, stepped⟩ :=
              spelling.step_of_isPrefix follows place (List.prefix_refl rest)
            rw [stepped]
            refine (inductionHypothesis (enoughBehind following.length)).2 ⟨more, ?_, ?_⟩
            · rw [List.reverse_cons, List.append_assoc]
              rfl
            · rwa [List.drop_left]

/-- The longest beginning of bytes that spells anything. -/
structure IsLongest (spells : List UInt8 → Prop) (front bytes : List UInt8) : Prop where
  spelled : spells front
  longest : ∀ longer, longer <+: bytes → front.length < longer.length → ¬spells longer

/-- Bytes that spell some characters. -/
def IsSpelled (alphabet : Alphabet) (bytes : List UInt8) : Prop :=
  ∃ chars, Spelling alphabet chars bytes

theorem isLongest_of_refused (follows : step.Follows alphabet) {place : Nat} {b : UInt8}
    {rest : List UInt8} {fault : DecodeFault} (refused : step place b rest = .error fault) :
    IsLongest (IsSpelled alphabet) [] (b :: rest) where
  spelled := ⟨[], .nil⟩
  longest longer begins nonempty := by
    rintro ⟨chars, spelling⟩
    cases longer with
    | nil => cases nonempty
    | cons first longer =>
        obtain ⟨rfl, beginsBehind⟩ := List.cons_prefix_cons.1 begins
        obtain ⟨_, _, _, _, _, _, _, read⟩ :=
          spelling.step_of_isPrefix follows place beginsBehind
        rw [refused] at read
        cases read

theorem IsLongest.of_step (follows : step.Follows alphabet) {place size : Nat} {b : UInt8}
    {rest front : List UInt8} {c : Char} (stepped : step place b rest = .ok (c, size))
    (longest : IsLongest (IsSpelled alphabet) front (rest.drop size)) :
    IsLongest (IsSpelled alphabet) (b :: rest.take size ++ front) (b :: rest) where
  spelled := by
    obtain ⟨chars, spelling⟩ := longest.spelled
    exact ⟨c :: chars, .cons (follows.stands_of_ok stepped).2 spelling⟩
  longest longer begins isLonger := by
    rintro ⟨chars, spelling⟩
    cases longer with
    | nil => cases isLonger
    | cons first longer =>
        obtain ⟨rfl, behind, joined⟩ := List.cons_prefix_cons.1 begins
        obtain ⟨_, more, following, later, _, rfl, spelling, read⟩ :=
          spelling.step_of_isPrefix follows place ⟨behind, joined⟩
        rw [stepped] at read
        obtain ⟨rfl, rfl⟩ := Prod.mk.inj (Except.ok.inj read)
        rw [List.append_assoc] at joined
        subst joined
        rw [List.drop_left] at longest
        rw [List.take_left, List.cons_append, List.length_cons, List.length_cons,
          List.length_append, List.length_append] at isLonger
        exact longest.longest later ⟨behind, rfl⟩ (by omega) ⟨more, spelling⟩

/-- Reading stops with a fault behind the longest beginning that spells anything. -/
theorem isLongest_of_readAll (follows : step.Follows alphabet) {limit place : Nat}
    {done : List Char} {bytes : List UInt8} {fault : DecodeFault}
    (failed : readAll step limit place done bytes = .error fault) :
    ∃ front behind, bytes = front ++ (fault.bytes ++ behind) ∧ fault.bytes ≠ [] ∧
      fault.start = place + front.length ∧ fault.stop = fault.start + fault.bytes.length ∧
      IsLongest (IsSpelled alphabet) front bytes := by
  induction limit generalizing place done bytes with
  | zero => cases bytes <;> cases failed
  | succ limit inductionHypothesis =>
      cases bytes with
      | nil => cases failed
      | cons b rest =>
          rw [readAll] at failed
          cases stepped : step place b rest with
          | error found =>
              rw [stepped] at failed
              obtain rfl := Except.error.inj failed
              obtain ⟨size, within, startsAt, stopsAt, isBytes⟩ := follows.marks_of_error stepped
              refine ⟨[], rest.drop size, ?_, ?_, startsAt, ?_,
                isLongest_of_refused follows stepped⟩
              · rw [isBytes, List.cons_append, List.take_append_drop]
                rfl
              · rw [isBytes]
                exact List.cons_ne_nil _ _
              · rw [stopsAt, startsAt, isBytes, List.length_cons, List.length_take_of_le within]
                omega
          | ok next =>
              obtain ⟨c, size⟩ := next
              rw [stepped] at failed
              obtain ⟨front, behind, isBytes, nonempty, startsAt, stopsAt, longest⟩ :=
                inductionHypothesis failed
              have within := (follows.stands_of_ok stepped).1
              refine ⟨b :: rest.take size ++ front, behind, ?_, nonempty, ?_, stopsAt,
                longest.of_step follows stepped⟩
              · rw [List.append_assoc, ← isBytes, List.cons_append, List.take_append_drop]
              · rw [startsAt, List.cons_append, List.length_cons, List.length_append,
                  List.length_take_of_le within]
                omega

end Texts

/-! ## Decoding -/

/-- The bytes of a mark that places in reports do not count. -/
def uncounted (charset : Charset) (bytes : List UInt8) : Nat :=
  if charset = .utf8Signed ∧ signature <+: bytes then signature.length else 0

/-- A fault marks the first bytes that cannot be decoded, behind the longest beginning that
spells a text. -/
structure Marks (charset : Charset) (bytes : List UInt8) (fault : DecodeFault) : Prop where
  located : ∃ front behind, bytes = front ++ (fault.bytes ++ behind) ∧
    fault.start + charset.uncounted bytes = front.length ∧
    IsLongest (fun bytes => ∃ text, charset.Spells bytes text) front bytes
  bytes_ne_nil : fault.bytes ≠ []
  stop_eq : fault.stop = fault.start + fault.bytes.length

/-- How bytes are opened in a set: behind the mark, they are spelled in the alphabet that the
step follows. -/
structure Opens (charset : Charset) (bytes mark : List UInt8) (alphabet : Alphabet)
    (opening : Opening) : Prop where
  bytes_eq : bytes = mark ++ opening.body
  follows : opening.read.Follows alphabet
  spells_iff : ∀ front text, front <+: opening.body →
    (charset.Spells (mark ++ front) text ↔ Spelling alphabet text.toList front)
  length_mark : mark.length = opening.place + charset.uncounted bytes

/-- A set without marks opens all of the bytes. -/
theorem opens_plain {charset : Charset} {bytes : List UInt8} {alphabet : Alphabet} {step : Step}
    (follows : step.Follows alphabet) (other : charset ≠ .utf8Signed)
    (spells : ∀ front text, charset.Spells front text ↔ Spelling alphabet text.toList front) :
    Opens charset bytes [] alphabet ⟨step, 0, bytes⟩ where
  bytes_eq := rfl
  follows := follows
  spells_iff front text _ := spells front text
  length_mark := by
    rw [uncounted, if_neg fun both => other both.1]
    rfl

theorem opens_signed (rest : List UInt8) :
    Opens .utf8Signed (signature ++ rest) signature eightBit ⟨readUtf8, 0, rest⟩ where
  bytes_eq := rfl
  follows := follows_readUtf8
  spells_iff front text _ := by
    constructor
    · intro spells
      generalize isBytes : signature ++ front = bytes at spells
      cases spells with
      | signed spelling => rwa [List.append_cancel_left isBytes]
      | unsigned noMark _ => exact absurd ⟨front, isBytes⟩ noMark
    · exact .signed
  length_mark := by
    rw [uncounted, if_pos ⟨rfl, List.prefix_append signature rest⟩]
    rfl

theorem opens_unsigned {bytes : List UInt8} (noMark : ¬signature <+: bytes) :
    Opens .utf8Signed bytes [] eightBit ⟨readUtf8, 0, bytes⟩ where
  bytes_eq := rfl
  follows := follows_readUtf8
  spells_iff front text begins := by
    have noMarkInFront : ¬signature <+: front := fun marked => noMark (marked.trans begins)
    constructor
    · intro spells
      generalize isBytes : [] ++ front = bytes at spells
      cases spells with
      | signed _ => exact absurd ⟨_, isBytes.symm⟩ noMarkInFront
      | unsigned _ spelling => rwa [← isBytes] at spelling
    · exact .unsigned noMarkInFront
  length_mark := by
    rw [uncounted, if_neg fun both => noMark both.2]
    rfl

theorem orderMark_inj {first second : Bool} {front behind : List UInt8}
    (same : orderMark first ++ front = orderMark second ++ behind) :
    first = second ∧ front = behind := by
  cases first <;> cases second
  · exact ⟨rfl, List.append_cancel_left same⟩
  · exact absurd (List.cons.inj same).1 (by decide)
  · exact absurd (List.cons.inj same).1 (by decide)
  · exact ⟨rfl, List.append_cancel_left same⟩

theorem opens_marked (big : Bool) (rest : List UInt8) :
    Opens .utf16 (orderMark big ++ rest) (orderMark big) (sixteenBit big)
      ⟨readUtf16 big, 2, rest⟩ where
  bytes_eq := rfl
  follows := follows_readUtf16 big
  spells_iff front text _ := by
    constructor
    · intro spells
      generalize isBytes : orderMark big ++ front = bytes at spells
      cases spells with
      | marked other spelling =>
          obtain ⟨rfl, rfl⟩ := orderMark_inj isBytes
          exact spelling
      | unmarked noMark _ => exact absurd ⟨front, isBytes⟩ (noMark big)
    · exact .marked big
  length_mark := by
    rw [uncounted, if_neg fun both => nomatch both.1]
    cases big <;> rfl

theorem opens_unmarked {bytes : List UInt8} (noMark : ∀ big, ¬orderMark big <+: bytes) :
    Opens .utf16 bytes [] (sixteenBit false) ⟨readUtf16 false, 0, bytes⟩ where
  bytes_eq := rfl
  follows := follows_readUtf16 false
  spells_iff front text begins := by
    have noMarkInFront (big : Bool) : ¬orderMark big <+: front :=
      fun marked => noMark big (marked.trans begins)
    constructor
    · intro spells
      generalize isBytes : [] ++ front = bytes at spells
      cases spells with
      | marked big _ => exact absurd ⟨_, isBytes.symm⟩ (noMarkInFront big)
      | unmarked _ spelling => rwa [← isBytes] at spelling
    · exact .unmarked noMarkInFront
  length_mark := by
    rw [uncounted, if_neg fun both => nomatch both.1]
    rfl

theorem exists_opens (charset : Charset) (bytes : List UInt8) :
    ∃ mark alphabet, Opens charset bytes mark alphabet (charset.opening bytes) := by
  cases charset with
  | utf8 =>
      exact ⟨_, _, opens_plain follows_readUtf8 nofun
        fun front text => ⟨fun (.utf8 spelling) => spelling, .utf8⟩⟩
  | utf8Signed =>
      by_cases marked : signature <+: bytes
      · obtain ⟨rest, rfl⟩ := marked
        exact ⟨_, _, opens_signed rest⟩
      · have opened : opening .utf8Signed bytes = ⟨readUtf8, 0, bytes⟩ := by
          rw [opening]
          exact fun rest same => marked ⟨rest, same.symm⟩
        rw [opened]
        exact ⟨_, _, opens_unsigned marked⟩
  | utf16 =>
      by_cases marked : ∃ big, orderMark big <+: bytes
      · obtain ⟨big, rest, rfl⟩ := marked
        have opened : opening .utf16 (orderMark big ++ rest) = ⟨readUtf16 big, 2, rest⟩ := by
          cases big <;> rfl
        rw [opened]
        exact ⟨_, _, opens_marked big rest⟩
      · have opened : opening .utf16 bytes = ⟨readUtf16 false, 0, bytes⟩ := by
          rw [opening]
          · exact fun rest same => marked ⟨false, rest, same.symm⟩
          · exact fun rest same => marked ⟨true, rest, same.symm⟩
        rw [opened]
        exact ⟨_, _, opens_unmarked (not_exists.1 marked)⟩
  | utf16Little =>
      exact ⟨_, _, opens_plain (follows_readUtf16 false) nofun
        fun front text => ⟨fun (.utf16Little spelling) => spelling, .utf16Little⟩⟩
  | utf16Big =>
      exact ⟨_, _, opens_plain (follows_readUtf16 true) nofun
        fun front text => ⟨fun (.utf16Big spelling) => spelling, .utf16Big⟩⟩
  | ascii =>
      exact ⟨_, _, opens_plain (follows_readByte asciiMeaning_eq_some_iff) nofun
        fun front text => ⟨fun (.ascii spelling) => spelling, .ascii⟩⟩
  | latin1 =>
      have means (b : UInt8) (c : Char) :
          some (Char.ofNat b.toNat) = some c ↔ b.toNat = c.toNat := by
        have small := b.toNat_lt
        rw [Option.some.injEq, ofNat_eq_iff (by omega)]
      exact ⟨_, _, opens_plain (follows_readByte means) nofun
        fun front text => ⟨fun (.latin1 spelling) => spelling, .latin1⟩⟩
  | singleByte upper =>
      exact ⟨_, _, opens_plain (follows_readByte (byteMeaning_eq_some_iff upper)) nofun
        fun front text => ⟨fun (.singleByte spelling) => spelling, .singleByte⟩⟩

theorem map_ofList_eq_ok_iff {result : Except DecodeFault (List Char)} {text : String} :
    result.map String.ofList = .ok text ↔ result = .ok text.toList := by
  cases result with
  | error fault => exact ⟨nofun, nofun⟩
  | ok chars =>
      constructor
      · intro same
        obtain rfl : String.ofList chars = text := Except.ok.inj same
        rw [String.toList_ofList]
      · intro same
        obtain rfl : chars = text.toList := Except.ok.inj same
        exact congrArg Except.ok String.ofList_toList

/-- Decoding gives a text if and only if the bytes spell it. -/
theorem decode_eq_ok_iff (charset : Charset) (bytes : List UInt8) (text : String) :
    charset.decode bytes = .ok text ↔ charset.Spells bytes text := by
  obtain ⟨mark, alphabet, opens⟩ := exists_opens charset bytes
  have spells := opens.spells_iff _ text (List.prefix_refl _)
  rw [← opens.bytes_eq] at spells
  rw [spells, decode, map_ofList_eq_ok_iff, readAll_eq_ok_iff opens.follows (Nat.le_refl _)]
  simp only [List.reverse_nil, List.nil_append, exists_eq_left']

/-- What is longest in the body is so behind the mark, as a text of the set. -/
theorem Opens.isLongest {charset : Charset} {bytes mark front : List UInt8} {alphabet : Alphabet}
    {opening : Opening} (opens : Opens charset bytes mark alphabet opening)
    (begins : front <+: opening.body)
    (longest : IsLongest (IsSpelled alphabet) front opening.body) :
    IsLongest (fun bytes => ∃ text, charset.Spells bytes text) (mark ++ front) bytes where
  spelled := by
    obtain ⟨chars, spelling⟩ := longest.spelled
    refine ⟨String.ofList chars, (opens.spells_iff front _ begins).2 ?_⟩
    rwa [String.toList_ofList]
  longest longer longerBegins isLonger := by
    rintro ⟨text, spells⟩
    rw [opens.bytes_eq] at longerBegins
    rw [List.length_append] at isLonger
    obtain ⟨rest, rfl⟩ : mark <+: longer :=
      List.prefix_of_prefix_length_le (List.prefix_append _ _) longerBegins (by omega)
    have restBegins := (List.prefix_append_right_inj mark).1 longerBegins
    rw [List.length_append] at isLonger
    exact longest.longest rest restBegins (by omega)
      ⟨text.toList, (opens.spells_iff rest text restBegins).1 spells⟩

/-- Bytes that are not decoded are marked where the longest beginning that spells a text
ends. -/
theorem marks_of_decode {charset : Charset} {bytes : List UInt8} {fault : DecodeFault}
    (failed : charset.decode bytes = .error fault) : charset.Marks bytes fault := by
  obtain ⟨mark, alphabet, opens⟩ := exists_opens charset bytes
  rw [decode] at failed
  cases read : readAll (charset.opening bytes).read (charset.opening bytes).body.length
      (charset.opening bytes).place [] (charset.opening bytes).body with
  | ok chars =>
      rw [read] at failed
      cases failed
  | error found =>
      rw [read] at failed
      obtain rfl : found = fault := Except.error.inj failed
      obtain ⟨front, behind, isBody, nonempty, startsAt, stopsAt, longest⟩ :=
        isLongest_of_readAll opens.follows read
      have begins : front <+: (charset.opening bytes).body := ⟨_, isBody.symm⟩
      refine ⟨⟨mark ++ front, behind, ?_, ?_, opens.isLongest begins longest⟩, nonempty, stopsAt⟩
      · rw [List.append_assoc, ← isBody]
        exact opens.bytes_eq
      · rw [List.length_append, opens.length_mark, startsAt]
        omega

/-- Marked bytes spell no text. -/
theorem Marks.not_spells {charset : Charset} {bytes : List UInt8} {fault : DecodeFault}
    (marks : charset.Marks bytes fault) (text : String) : ¬charset.Spells bytes text := by
  obtain ⟨front, behind, isBytes, -, longest⟩ := marks.located
  have nonempty := List.length_pos_iff.2 marks.bytes_ne_nil
  have isLonger : front.length < bytes.length := by
    rw [isBytes, List.length_append, List.length_append]
    omega
  exact fun spells => longest.longest bytes (List.prefix_refl bytes) isLonger ⟨text, spells⟩

end XmlCollation.Text.Charset
