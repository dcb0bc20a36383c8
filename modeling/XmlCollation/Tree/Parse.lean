import XmlCollation.Markup.Encoded
import XmlCollation.Text.WordClass
import XmlCollation.Tree.Build

/-!
Contract: from the content of a file to its tree.

Owns:
- content as text or as bytes;
- the removal of the declaration from text, which is decoded already;
- the reasons why content has no tree.

Does not own: the grammar of documents.
-/

namespace XmlCollation.Tree

open XmlCollation.Text
open XmlCollation.Markup

/-- A document, decoded or not. -/
inductive Content where
  | text (chars : String)
  | bytes (data : List UInt8)
deriving DecidableEq, Repr

/-- Why content has no tree. -/
inductive ParseFault where
  | emptyDocument
  | declaredEncoding
  | malformed (fault : Fault)
deriving DecidableEq, Repr

def ParseFault.message : ParseFault → String
  | .emptyDocument => "document is empty"
  | .declaredEncoding =>
      "Unicode strings with encoding declaration are not supported. "
        ++ "Please use bytes input or XML fragments without declaration."
  | .malformed _ => "not well-formed"

def afterToken? (token : String) (chars : List Char) : Option (List Char) :=
  if token.toList.isPrefixOf chars then some (chars.drop token.length) else none

/-- The characters without a declaration at their beginning and the white space
before it.  The declaration goes up to the first angle bracket, which a question
mark has to precede; its keyword ends at the end of a word. -/
def withoutDeclaration (chars : List Char) : List Char :=
  match afterToken? "<?xml" (chars.dropWhile isBlank) with
  | none => chars
  | some rest =>
      let (inside, closing) := rest.span (· != '>')
      if !(rest.head?.any isWordChar) && inside.getLast? == some '?' then
        match closing with
        | _ :: body => body
        | [] => chars
      else
        chars

/-- Whether what follows the word "encoding" gives it a quoted value. -/
def givesValue (chars : List Char) : Bool :=
  match chars.dropWhile isBlank with
  | '=' :: rest =>
      match rest.dropWhile isBlank with
      | c :: value =>
          (c == '"' || c == '\x27') && value.any fun d => d == '"' || d == '\x27'
      | [] => false
  | _ => false

/-- Looks for an encoding in a declaration.  `passed` counts the characters
between its keyword and here. -/
def findsEncoding : Nat → Option Char → List Char → Bool
  | _, _, [] => false
  | passed, previous, c :: rest =>
      if passed ≥ 2 && previous.any isBlank
          && ((afterToken? "encoding" (c :: rest)).any givesValue) then
        true
      else if c == '>' then
        false
      else
        findsEncoding (passed + 1) (some c) rest

/-- Text that is decoded already still declares an encoding. -/
def declaresEncoding (chars : List Char) : Bool :=
  (afterToken? "<?xml" chars).any (findsEncoding 0 none)

/-- What a comparison keeps of a document: no remarks, and references unexpanded. -/
def comparedContent : Retention := ⟨false, false⟩

/-- What a plain reading keeps of a document: remarks, and references expanded. -/
def plainContent : Retention := ⟨true, true⟩

def readText (retention : Retention) (chars : List Char) : Except ParseFault Element :=
  if declaresEncoding chars then .error .declaredEncoding
  else (readDocument retention chars).mapError .malformed

def Content.read (retention : Retention) : Content → Except ParseFault Element
  | .text chars => readText retention chars.toList
  | .bytes data => (readEncoded retention data).mapError .malformed

/-- The tree of content: its declaration is taken off if it is text, content that
is nothing but white space is refused, and the root is at the empty position. -/
def parse (content : Content) : Except ParseFault Node := do
  let element ←
    match content with
    | .text chars =>
        let body := withoutDeclaration chars.toList
        if body.all isBlank then throw .emptyDocument
        readText comparedContent body
    | .bytes data =>
        if data.all isBlankByte then throw .emptyDocument
        (readEncoded comparedContent data).mapError .malformed
  return Node.ofElement element []

end XmlCollation.Tree
