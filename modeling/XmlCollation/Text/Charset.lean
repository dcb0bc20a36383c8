import XmlCollation.Text.Charset.Data

/-!
Contract: character sets and the decoding of bytes.

Owns:
- the character sets that are defined here and the names they are known by, once for
  names in documents and once for names given by a caller;
- decoding, which is strict: the first offending bytes are reported with their
  place and the reason.

Does not own: how a document announces its character set.
-/

namespace XmlCollation.Text

/-- A character set. -/
inductive Charset where
  | utf8
  | utf8Signed
  | utf16
  | utf16Little
  | utf16Big
  | ascii
  | latin1
  | singleByte (upper : String)
deriving DecidableEq, Repr

/-- The bytes from `start` up to but not including `stop` cannot be decoded.
`bytes` are the offending ones and `codec` names the rule they break. -/
structure DecodeFault where
  codec : String
  start : Nat
  stop : Nat
  bytes : List UInt8
  reason : String
deriving DecidableEq, Repr

namespace Charset

/-- Reads the character that begins with a byte at a place, and tells how many of the bytes that
follow belong to it. -/
abbrev Step := Nat → UInt8 → List UInt8 → Except DecodeFault (Char × Nat)

/-! ## Eight-bit form of all characters -/

/-- The least and greatest second byte after a first byte, and the number of
bytes that follow it. -/
def followers? (first : Nat) : Option (Nat × Nat × Nat) :=
  if 0xc2 ≤ first ∧ first ≤ 0xdf then some (0x80, 0xbf, 1)
  else if first = 0xe0 then some (0xa0, 0xbf, 2)
  else if first = 0xed then some (0x80, 0x9f, 2)
  else if 0xe1 ≤ first ∧ first ≤ 0xef then some (0x80, 0xbf, 2)
  else if first = 0xf0 then some (0x90, 0xbf, 3)
  else if 0xf1 ≤ first ∧ first ≤ 0xf3 then some (0x80, 0xbf, 3)
  else if first = 0xf4 then some (0x80, 0x8f, 3)
  else none

/-- The first of `count` following bytes that breaks the form, if any: the number
of bytes before it, and whether the data ended there. -/
def breach? (low high : Nat) : Nat → Nat → List UInt8 → Option (Nat × Bool)
  | 0, _, _ => none
  | _ + 1, seen, [] => some (seen, true)
  | count + 1, seen, b :: rest =>
      if low ≤ b.toNat ∧ b.toNat ≤ high then breach? 0x80 0xbf count (seen + 1) rest
      else some (seen, false)

/-- The code that a first byte and its followers stand for. -/
def joinedCode (first count : Nat) (following : List UInt8) : Nat :=
  let lead :=
    match count with
    | 1 => first - 0xc0
    | 2 => first - 0xe0
    | _ => first - 0xf0
  following.foldl (fun code b => code * 64 + (b.toNat - 0x80)) lead

def readUtf8 : Step := fun place b rest =>
  if b.toNat < 0x80 then .ok (Char.ofNat b.toNat, 0)
  else
    match followers? b.toNat with
    | none => .error ⟨"utf-8", place, place + 1, [b], "invalid start byte"⟩
    | some (low, high, count) =>
        match breach? low high count 0 rest with
        | some (seen, ended) =>
            .error ⟨"utf-8", place, place + 1 + seen, b :: rest.take seen,
              if ended then "unexpected end of data" else "invalid continuation byte"⟩
        | none => .ok (Char.ofNat (joinedCode b.toNat count (rest.take count)), count)

/-! ## Sixteen-bit form -/

/-- A unit of two bytes. -/
def unitOf (big : Bool) (a b : UInt8) : Nat :=
  if big then a.toNat * 256 + b.toNat else b.toNat * 256 + a.toNat

/-- Reads the sixteen-bit form in the given byte order. -/
def readUtf16 (big : Bool) : Step := fun place a rest =>
  match rest with
  | [] => .error ⟨name, place, place + 1, [a], "truncated data"⟩
  | b :: rest =>
      let unit := unitOf big a b
      if unit < 0xd800 ∨ 0xdfff < unit then .ok (Char.ofNat unit, 1)
      else if 0xdc00 ≤ unit then
        .error ⟨name, place, place + 2, [a, b], "illegal encoding"⟩
      else
        match rest with
        | c :: d :: _ =>
            let low := unitOf big c d
            if 0xdc00 ≤ low ∧ low ≤ 0xdfff then
              .ok (Char.ofNat (0x10000 + (unit - 0xd800) * 1024 + (low - 0xdc00)), 3)
            else
              .error ⟨name, place, place + 2, [a, b], "illegal UTF-16 surrogate"⟩
        | _ =>
            .error ⟨name, place, place + 2 + rest.length, a :: b :: rest,
              "unexpected end of data"⟩
where
  /-- The name of the form in reports. -/
  name : String := if big then "utf-16-be" else "utf-16-le"

/-! ## Single bytes -/

def readByte (codec reason : String) (meaning : UInt8 → Option Char) : Step :=
  fun place b _ =>
    match meaning b with
    | some c => .ok (c, 0)
    | none => .error ⟨codec, place, place + 1, [b], reason⟩

/-- The character of a byte in the smallest set. -/
def asciiMeaning (b : UInt8) : Option Char :=
  if b.toNat < 128 then some (Char.ofNat b.toNat) else none

/-- The character of a byte in a set with the given upper half. -/
def byteMeaning (upper : Array Char) (b : UInt8) : Option Char :=
  if b.toNat < 128 then some (Char.ofNat b.toNat)
  else (upper[b.toNat - 128]?).filter (· != '\ufffd')

/-! ## Texts -/

/-- Bytes behind the mark that they may begin with: how their characters are read, the place of
the first byte in reports, and the bytes. -/
structure Opening where
  read : Step
  place : Nat
  body : List UInt8

/-- What remains to be decoded of bytes in a set.  Only the sixteen-bit form counts its mark in
reports; without a mark it has the low byte first. -/
def opening : Charset → List UInt8 → Opening
  | .utf8, bytes => ⟨readUtf8, 0, bytes⟩
  | .utf8Signed, 0xef :: 0xbb :: 0xbf :: rest => ⟨readUtf8, 0, rest⟩
  | .utf8Signed, bytes => ⟨readUtf8, 0, bytes⟩
  | .utf16, 0xff :: 0xfe :: rest => ⟨readUtf16 false, 2, rest⟩
  | .utf16, 0xfe :: 0xff :: rest => ⟨readUtf16 true, 2, rest⟩
  | .utf16, bytes => ⟨readUtf16 false, 0, bytes⟩
  | .utf16Little, bytes => ⟨readUtf16 false, 0, bytes⟩
  | .utf16Big, bytes => ⟨readUtf16 true, 0, bytes⟩
  | .ascii, bytes => ⟨readByte "ascii" "ordinal not in range(128)" asciiMeaning, 0, bytes⟩
  | .latin1, bytes => ⟨readByte "latin-1" "" (fun b => some (Char.ofNat b.toNat)), 0, bytes⟩
  | .singleByte upper, bytes =>
      ⟨readByte "charmap" "character maps to <undefined>" (byteMeaning upper.toList.toArray), 0,
        bytes⟩

/-- Reads characters up to the end, with those read so far in reverse.  The first number bounds
how many are read, the second one is the place of the next byte. -/
def readAll (read : Step) : Nat → Nat → List Char → List UInt8 → Except DecodeFault (List Char)
  | _, _, done, [] => .ok done.reverse
  | 0, _, done, _ :: _ => .ok done.reverse
  | limit + 1, place, done, b :: rest =>
      match read place b rest with
      | .error fault => .error fault
      | .ok (c, size) => readAll read limit (place + 1 + size) (c :: done) (rest.drop size)

def decode (charset : Charset) (bytes : List UInt8) : Except DecodeFault String :=
  let opening := charset.opening bytes
  (readAll opening.read opening.body.length opening.place [] opening.body).map String.ofList

/-! ## Names -/

/-- Sets known by a number: parts of the eight-bit standard. -/
def part? : String → Option Charset
  | "1" => some .latin1
  | "2" => some (.singleByte part2)
  | "3" => some (.singleByte part3)
  | "4" => some (.singleByte part4)
  | "5" => some (.singleByte part5)
  | "6" => some (.singleByte part6)
  | "7" => some (.singleByte part7)
  | "8" => some (.singleByte part8)
  | "9" => some (.singleByte part9)
  | "10" => some (.singleByte part10)
  | "11" => some (.singleByte part11)
  | "13" => some (.singleByte part13)
  | "14" => some (.singleByte part14)
  | "15" => some (.singleByte part15)
  | "16" => some (.singleByte part16)
  | _ => none

def page? : String → Option Charset
  | "1250" => some (.singleByte page1250)
  | "1251" => some (.singleByte page1251)
  | "1252" => some (.singleByte page1252)
  | "1253" => some (.singleByte page1253)
  | "1254" => some (.singleByte page1254)
  | "1255" => some (.singleByte page1255)
  | "1256" => some (.singleByte page1256)
  | "1257" => some (.singleByte page1257)
  | "1258" => some (.singleByte page1258)
  | _ => none

/-- What follows one of the given beginnings of a name. -/
def afterAny? (beginnings : List String) (name : String) : Option String :=
  beginnings.findSome? fun beginning =>
    if beginning.toList.isPrefixOf name.toList then
      some (String.ofList (name.toList.drop beginning.length))
    else
      none

/-- The set that a document names in its declaration; letter case does not count. -/
def ofDeclared? (name : String) : Option Charset :=
  let upper := String.ofList (name.toList.map Char.toUpper)
  match upper with
  | "UTF-8" => some .utf8
  | "UTF8" => some .utf8
  | "UTF-16" => some .utf16
  | "UTF16" => some .utf16
  | "UTF-16LE" => some .utf16Little
  | "UTF-16BE" => some .utf16Big
  | "ASCII" => some .ascii
  | "US-ASCII" => some .ascii
  | "LATIN1" => some .latin1
  | "L1" => some .latin1
  | "ISO-LATIN-1" => some .latin1
  | "KOI8-R" => some (.singleByte koi8Russian)
  | _ =>
      ((afterAny? ["ISO-8859-", "ISO8859-", "ISO_8859-"] upper).bind part?).orElse fun _ =>
        (afterAny? ["WINDOWS-", "CP"] upper).bind page?

/-- Makes names comparable: small letters, and one underscore for each run of
other signs between letters, digits and points. -/
def plainName (name : String) : String :=
  let marked := name.toList.map fun c =>
    if c.isAlphanum || c == '.' then c.toLower else '_'
  let words := (marked.splitOn '_').filter (!·.isEmpty)
  String.ofList (words.intersperse ['_']).flatten

/-- The set that a caller names, if its decoding is defined here. -/
def ofName? (name : String) : Option Charset :=
  let plain := plainName name
  if ["utf_8", "utf8", "u8", "utf", "cp65001"].contains plain then some .utf8
  else if plain == "utf_8_sig" then some .utf8Signed
  else if ["utf_16", "utf16", "u16"].contains plain then some .utf16
  else if ["utf_16_le", "utf_16le", "unicodelittleunmarked"].contains plain then some .utf16Little
  else if ["utf_16_be", "utf_16be", "unicodebigunmarked"].contains plain then some .utf16Big
  else if ["ascii", "us_ascii", "us", "646", "ansi_x3.4_1968", "ansi_x3_4_1968",
      "ansi_x3.4_1986", "cp367", "csascii", "ibm367", "iso646_us", "iso_646.irv_1991",
      "iso_ir_6"].contains plain then some .ascii
  else if ["latin_1", "latin1", "latin", "l1", "iso8859", "8859", "cp819", "csisolatin1",
      "ibm819", "iso_8859_1_1987", "iso_ir_100"].contains plain then some .latin1
  else if ["koi8_r", "cskoi8r"].contains plain then some (.singleByte koi8Russian)
  else
    ((afterAny? ["iso8859_", "iso_8859_"] plain).bind part?).orElse fun _ =>
      ((afterAny? ["windows_", "cp"] plain).bind page?).orElse fun _ => page? plain

example : ofName? "UTF-8" = some .utf8 := by decide +kernel
example : ofName? " iso 8859-15" = some (.singleByte part15) := by decide +kernel

end Charset

/-- The report of bytes that cannot be decoded: one byte is shown, several are
given by their first and last position. -/
def DecodeFault.message (fault : DecodeFault) : String :=
  let place :=
    if fault.stop = fault.start + 1 then
      "byte " ++ (fault.bytes.head?.map hexOf).getD "" ++ " in position " ++ toString fault.start
    else
      "bytes in position " ++ toString fault.start ++ "-" ++ toString (fault.stop - 1)
  "\x27" ++ fault.codec ++ "\x27 codec can\x27t decode " ++ place ++ ": " ++ fault.reason
where
  /-- A byte as two hexadecimal digits. -/
  hexOf (b : UInt8) : String :=
    let digits := Nat.toDigits 16 b.toNat
    String.ofList ("0x".toList ++ List.replicate (2 - digits.length) '0' ++ digits)

end XmlCollation.Text
