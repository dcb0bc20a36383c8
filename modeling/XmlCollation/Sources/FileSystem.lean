import XmlCollation.Text.Fields
import XmlCollation.Text.Quoted

/-!
Contract: a directory of files, and reading in it by path.

Owns:
- paths in normal form: empty parts and single dots are left out, and two leading
  slashes, but not three, stay two;
- the walk along a path, with the failure of its first step that fails;
- the reports of failures, which show the path in normal form.

Does not own: the decoding of what is read.  Nothing is known of what lies outside
of the directory, except that the directories around it exist.
-/

namespace XmlCollation.Sources

open XmlCollation.Text

/-- A path in normal form. -/
structure FilePath where
  root : String
  parts : List String
deriving DecidableEq, Repr

def rootOf (chars : List Char) : String :=
  match (chars.takeWhile (· == '/')).length with
  | 0 => ""
  | 2 => "//"
  | _ => "/"

def FilePath.parse (text : String) : FilePath :=
  let parts := (fields '/' text.toList).filter fun part => !part.isEmpty && part != ['.']
  ⟨rootOf text.toList, parts.map String.ofList⟩

/-- A path as text.  Nothing at all is written as a dot. -/
def FilePath.text (path : FilePath) : String :=
  let body := String.intercalate "/" path.parts
  if path.root.isEmpty && path.parts.isEmpty then "." else path.root ++ body

/-- The files of a directory, by the parts of their paths. -/
abbrev Directory := List (List String × List UInt8)

/-- Why a file cannot be read. -/
inductive FileFault where
  | nullCharacter
  | missing (path : FilePath)
  | notADirectory (path : FilePath)
  | isADirectory (path : FilePath)
  | nameTooLong (path : FilePath)
deriving DecidableEq, Repr

def FileFault.message : FileFault → String
  | .nullCharacter => "embedded null byte"
  | .missing path => "[Errno 2] No such file or directory: " ++ quoted path.text
  | .notADirectory path => "[Errno 20] Not a directory: " ++ quoted path.text
  | .isADirectory path => "[Errno 21] Is a directory: " ++ quoted path.text
  | .nameTooLong path => "[Errno 36] File name too long: " ++ quoted path.text

/-- Where a walk along a path has come to. -/
inductive Station where
  | around
  | inside (parts : List String)
  | file (data : List UInt8)
deriving DecidableEq, Repr

/-- The longest name of a file, and the longest path, in bytes. -/
def longestName : Nat := 255

@[inherit_doc longestName]
def longestPath : Nat := 4095

def Directory.hasBelow (directory : Directory) (parts : List String) : Bool :=
  parts.isEmpty || directory.any fun entry => parts.isPrefixOf entry.1 && parts != entry.1

/-- What a name leads to from inside the directory. -/
def Directory.enter (directory : Directory) (path : FilePath) (parts : List String)
    (name : String) : Except FileFault Station :=
  let next := parts ++ [name]
  if name = ".." then
    .ok (if parts.isEmpty then .around else .inside parts.dropLast)
  else if longestName < name.utf8ByteSize then .error (.nameTooLong path)
  else
    match directory.lookup next with
    | some data => .ok (.file data)
    | none => if directory.hasBelow next then .ok (.inside next) else .error (.missing path)

def Directory.walk (directory : Directory) (path : FilePath) :
    Station → List String → Except FileFault Station
  | station, [] => .ok station
  | .file _, _ :: _ => .error (.notADirectory path)
  | .around, name :: rest =>
      if name = ".." then directory.walk path .around rest
      else if longestName < name.utf8ByteSize then .error (.nameTooLong path)
      else .error (.missing path)
  | .inside parts, name :: rest =>
      match directory.enter path parts name with
      | .ok station => directory.walk path station rest
      | .error fault => .error fault

def Directory.read (directory : Directory) (text : String) : Except FileFault (List UInt8) := do
  let path := FilePath.parse text
  if text.toList.contains '\x00' then throw .nullCharacter
  if longestPath < path.text.utf8ByteSize then throw (.nameTooLong path)
  let start := if path.root.isEmpty then Station.inside [] else .around
  match ← directory.walk path start path.parts with
  | .file data => return data
  | _ => throw (.isADirectory path)

example : (FilePath.parse "./sub//d.xml/").text = "sub/d.xml" := by decide +kernel
example : (FilePath.parse "").text = "." := by decide +kernel
example : (FilePath.parse "///a").text = "/a" := by decide +kernel

end XmlCollation.Sources
