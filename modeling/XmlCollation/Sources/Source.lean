import XmlCollation.Sources.Agent
import XmlCollation.Sources.FileSystem
import XmlCollation.Text.Value

/-!
Contract: what texts are read from.

Owns:
- the kinds of sources: files of a directory, a fixed text that remembers what it
  was asked, a source that always fails, and a remote agent;
- reading a text, by path and name of a character set, and the codecs that the
  surroundings have besides the sets that are defined here;
- the reasons why nothing is read, and their reports.

Does not own: which source serves which endpoint.
-/

namespace XmlCollation.Sources

open XmlCollation.Text

/-- The ways in which a source can be made to fail. -/
inductive FailureKind where
  | connection
  | system
  | value
  | runtime
  | key
deriving DecidableEq, Repr

/-- Something that texts are read from. -/
inductive Source where
  | files
  | fixed (text : String) (requests : List (String × String))
  | failing (kind : FailureKind) (message : String)
  | agent (remote : Agent)
deriving DecidableEq, Repr

def Source.shown : Source → String
  | .files => "LocalSource()"
  | .fixed _ _ => "StaticSource()"
  | .failing _ _ => "FailingSource()"
  | .agent remote => remote.shown

/-- Why a codec of the surroundings does not decode bytes, as the codec words it. -/
structure CodecFault where
  kind : String
  message : String
deriving DecidableEq, Repr

/-- The codecs of the surroundings by name: those that are installed besides the character
sets that are defined here. -/
abbrev Codecs := String → Option (List UInt8 → Except CodecFault String)

/-- Why nothing was read. -/
inductive ReadFault where
  | unregistered
  | file (fault : FileFault)
  | decode (fault : DecodeFault)
  | codec (fault : CodecFault)
  | unknownCharset (name : String)
  | nullInCharset
  | remote (fault : AgentFault)
  | failing (kind : FailureKind) (message : String)
deriving DecidableEq, Repr

/-- The report of a reading that failed.  A missing key is shown as a value. -/
def ReadFault.message : ReadFault → String
  | .unregistered => "no content source registered"
  | .file fault => fault.message
  | .decode fault => fault.message
  | .codec fault => fault.message
  | .unknownCharset name => "unknown encoding: " ++ name
  | .nullInCharset => "embedded null character"
  | .remote fault => fault.message
  | .failing .key message => quoted message
  | .failing _ message => message

/-- Decodes bytes in a character set given by name.  Where there are no bytes, any
name without null characters will do. -/
def decodeNamed (codecs : Codecs) (name : String) (bytes : List UInt8) :
    Except ReadFault String :=
  if name.toList.contains '\x00' then .error .nullInCharset
  else if bytes.isEmpty then .ok ""
  else
    match Charset.ofName? name with
    | some charset => (charset.decode bytes).mapError .decode
    | none =>
        match codecs name with
        | some decode => (decode bytes).mapError .codec
        | none => .error (.unknownCharset name)

/-- Reads a text from an agent, and tells how many requests that took. -/
def Agent.readText (agent : Agent) (codecs : Codecs) (path charset : String) :
    Except ReadFault String × Nat × Agent :=
  match agent.fetch path with
  | (.ok bytes, requests, after) => (decodeNamed codecs charset bytes, requests, after)
  | (.error fault, requests, after) => (.error (.remote fault), requests, after)

def Source.readText (source : Source) (codecs : Codecs) (directory : Directory)
    (path charset : String) : Except ReadFault String × Source :=
  match source with
  | .files =>
      (match directory.read path with
        | .ok bytes => decodeNamed codecs charset bytes
        | .error fault => .error (.file fault),
      source)
  | .fixed text requests => (.ok text, .fixed text (requests ++ [(path, charset)]))
  | .failing kind message => (.error (.failing kind message), source)
  | .agent remote =>
      match remote.readText codecs path charset with
      | (result, _, after) => (result, .agent after)

end XmlCollation.Sources
