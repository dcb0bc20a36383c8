import XmlCollation.Proofs.Text.Decoding
import XmlCollation.Sources.Source

/-!
Contract: the texts of bodies that a source delivers.

Owns:
- the text of a body by the name of a character set: what the body spells in a set that is
  defined here, or what a codec of the surroundings reads;
- the reasons why a body has no text;
- decoding, which gives the one or the other.

Does not own: the bytes that spell a text, the codecs of the surroundings, and where a body
comes from.
-/

namespace XmlCollation.Sources

open XmlCollation.Text

/-! ## Texts and refusals -/

/-- The text of a body by the name of a character set: what the body spells in a set that is
defined here, or else what the codec of that name reads.  An empty body needs no set. -/
inductive Decodes (codecs : Codecs) (name : String) : List UInt8 → String → Prop
  | empty : '\x00' ∉ name.toList → Decodes codecs name [] ""
  | spelled {charset : Charset} {body : List UInt8} {text : String} :
      '\x00' ∉ name.toList → body ≠ [] → Charset.ofName? name = some charset →
        charset.Spells body text → Decodes codecs name body text
  | codec {decode : List UInt8 → Except CodecFault String} {body : List UInt8} {text : String} :
      '\x00' ∉ name.toList → body ≠ [] → Charset.ofName? name = none →
        codecs name = some decode → decode body = .ok text → Decodes codecs name body text

/-- Why a body has no text: it spells none from the marked bytes on, its codec refuses it, or
the name is not one of a set or a codec. -/
inductive Refuses (codecs : Codecs) (name : String) : List UInt8 → ReadFault → Prop
  | nullInCharset {body : List UInt8} :
      '\x00' ∈ name.toList → Refuses codecs name body .nullInCharset
  | marked {charset : Charset} {body : List UInt8} {fault : DecodeFault} :
      '\x00' ∉ name.toList → Charset.ofName? name = some charset →
        charset.Marks body fault → Refuses codecs name body (.decode fault)
  | codec {decode : List UInt8 → Except CodecFault String} {body : List UInt8}
      {fault : CodecFault} :
      '\x00' ∉ name.toList → body ≠ [] → Charset.ofName? name = none →
        codecs name = some decode → decode body = .error fault →
          Refuses codecs name body (.codec fault)
  | unknown {body : List UInt8} :
      '\x00' ∉ name.toList → body ≠ [] → Charset.ofName? name = none → codecs name = none →
        Refuses codecs name body (.unknownCharset name)

/-! ## Decoding -/

variable {codecs : Codecs} {name : String} {body : List UInt8}

theorem decodeNamed_of_null (null : '\x00' ∈ name.toList) :
    decodeNamed codecs name body = .error .nullInCharset :=
  if_pos (List.contains_iff_mem.2 null)

theorem decodeNamed_nil (noNull : '\x00' ∉ name.toList) : decodeNamed codecs name [] = .ok "" :=
  if_neg fun null => noNull (List.contains_iff_mem.1 null)

theorem decodeNamed_of_ne_nil (noNull : '\x00' ∉ name.toList) (nonempty : body ≠ []) :
    decodeNamed codecs name body =
      match Charset.ofName? name with
      | some charset => (charset.decode body).mapError .decode
      | none =>
          match codecs name with
          | some decode => (decode body).mapError .codec
          | none => .error (.unknownCharset name) :=
  (if_neg fun null => noNull (List.contains_iff_mem.1 null)).trans
    (if_neg fun empty => nonempty (List.isEmpty_iff.1 empty))

/-- A text that a body has is what decoding gives. -/
theorem Decodes.decodeNamed_eq {text : String} (decodes : Decodes codecs name body text) :
    decodeNamed codecs name body = .ok text := by
  cases decodes with
  | empty noNull => exact decodeNamed_nil noNull
  | @spelled charset _ _ noNull nonempty named spells =>
      have decoded := (Charset.decode_eq_ok_iff charset body text).2 spells
      simp only [decodeNamed_of_ne_nil noNull nonempty, named, decoded]
      rfl
  | codec noNull nonempty unnamed found decoded =>
      simp only [decodeNamed_of_ne_nil noNull nonempty, unnamed, found, decoded]
      rfl

/-- Decoding gives a text that the body has, or a reason why it has none. -/
theorem decodes_or_refuses (codecs : Codecs) (name : String) (body : List UInt8) :
    (∃ text, decodeNamed codecs name body = .ok text ∧ Decodes codecs name body text) ∨
      ∃ fault, decodeNamed codecs name body = .error fault ∧ Refuses codecs name body fault := by
  by_cases null : '\x00' ∈ name.toList
  · exact .inr ⟨_, decodeNamed_of_null null, .nullInCharset null⟩
  by_cases empty : body = []
  · subst empty
    exact .inl ⟨_, decodeNamed_nil null, .empty null⟩
  rw [decodeNamed_of_ne_nil null empty]
  cases named : Charset.ofName? name with
  | some charset =>
      cases decoded : charset.decode body with
      | ok text =>
          have spells := (Charset.decode_eq_ok_iff charset body text).1 decoded
          exact .inl ⟨text, by simp only [decoded]; rfl, .spelled null empty named spells⟩
      | error fault =>
          have marks := Charset.marks_of_decode decoded
          exact .inr ⟨_, by simp only [decoded]; rfl, .marked null named marks⟩
  | none =>
      cases found : codecs name with
      | none => exact .inr ⟨_, rfl, .unknown null empty named found⟩
      | some decode =>
          cases decoded : decode body with
          | ok text =>
              exact .inl ⟨text, by simp only [decoded]; rfl,
                .codec null empty named found decoded⟩
          | error fault =>
              exact .inr ⟨_, by simp only [decoded]; rfl,
                .codec null empty named found decoded⟩

end XmlCollation.Sources
