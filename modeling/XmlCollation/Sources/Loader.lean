import XmlCollation.Collation
import XmlCollation.Sources.Registry

/-!
Contract: loading and comparing files by their location.

Owns:
- locations, which are a path at an endpoint, and the two ways of giving one;
- loading from the source that serves the endpoint, with a message before each
  reading;
- the comparison of two files, with a message about its result;
- the failures of loading, under the endpoint and path that were asked for.

Does not own: sources.
-/

namespace XmlCollation.Sources

open XmlCollation.Text
open XmlCollation.Tree
open XmlCollation.Compare
open XmlCollation.Rules

/-! ## Locations -/

/-- A file at an endpoint. -/
structure Location where
  path : String
  endpoint : String := localEndpoint
deriving DecidableEq, Repr

def Location.isLocal (location : Location) : Bool :=
  location.endpoint == localEndpoint

/-- A location as text: the endpoint of local files is left out. -/
def Location.text (location : Location) : String :=
  if location.isLocal then location.path else location.endpoint ++ ":" ++ location.path

/-- What a caller gives: a location, or an endpoint, which may be left open. -/
inductive Reference where
  | location (given : Location)
  | endpoint (name : Option String)
deriving DecidableEq, Repr

/-- Why a reference and a path do not go together. -/
inductive ReferenceFault where
  | pathTwice
  | noPath
deriving DecidableEq, Repr

/-- The report of a reference and a path that do not go together. -/
def ReferenceFault.message : ReferenceFault → String
  | .pathTwice => "path must not be given together with a FileLocation"
  | .noPath => "path is required when location is an endpoint identifier"

/-- The location that a reference and a path give.  An endpoint that is left open or
empty is the local one. -/
def Reference.resolve : Reference → Option String → Except ReferenceFault Location
  | .location given, none => .ok given
  | .location _, some _ => .error .pathTwice
  | .endpoint _, none => .error .noPath
  | .endpoint name, some path =>
      .ok ⟨path, (name.filter (!·.isEmpty)).getD localEndpoint⟩

/-! ## Loading -/

/-- A file that could not be loaded. -/
structure LoadFailure where
  location : Location
  fault : ReadFault
deriving DecidableEq, Repr

/-- The report that a file cannot be loaded, for a reason if there is one. -/
def loadReport (endpoint path : String) (reason : Option String) : String :=
  "Error loading '" ++ path ++ "' XML file from " ++ endpoint
    ++ (reason.map (": " ++ ·)).getD ""

def LoadFailure.message (failure : LoadFailure) : String :=
  loadReport failure.location.endpoint failure.location.path (some failure.fault.message)

/-- Why a file has no tree. -/
inductive FileFailure where
  | load (failure : LoadFailure)
  | parse (failure : ParseFailure)
deriving DecidableEq, Repr

/-- Sources with the settings of loading and the codecs of the surroundings, and the messages so
far, latest first. -/
structure Loader where
  codecs : Codecs
  registry : Registry := .initial
  charset : String := "utf-8"
  directory : Directory := []
  messages : List Message := []

namespace Loader

def say (loader : Loader) (level : Level) (text : String) : Loader :=
  { loader with messages := ⟨level, text⟩ :: loader.messages }

def loadText (loader : Loader) (location : Location) : Except LoadFailure String × Loader :=
  match loader.registry.get? location.endpoint with
  | none => (.error ⟨location, .unregistered⟩, loader)
  | some source =>
      let announced := loader.say .debug ("Loading " ++ location.text)
      let (result, after) :=
        source.readText loader.codecs loader.directory location.path loader.charset
      (result.mapError fun fault => ⟨location, fault⟩,
        { announced with registry := announced.registry.put location.endpoint after })

def load (loader : Loader) (location : Location) : Except FileFailure Node × Loader :=
  match loader.loadText location with
  | (.error failure, after) => (.error (.load failure), after)
  | (.ok text, after) => ((parseAs location.text (.text text)).mapError .parse, after)

/-- A name for a document: the given one, or else its endpoint. -/
def nameOf (given : Option String) (location : Location) : String :=
  (given.filter (!·.isEmpty)).getD location.endpoint

/-- The message about the result of a comparison. -/
def announce (loader : Loader) (trace : Trace) (first second : Location) : Loader :=
  if trace.hasDifferences then
    loader.say .info
      (toString trace.differences.length ++ " difference(s) between " ++ first.text ++ " and "
        ++ second.text)
  else
    loader.say .debug ("Same files: " ++ first.text ++ " and " ++ second.text)

/-- Compares two files.  The first one is loaded and parsed before the second one. -/
def compareFiles (loader : Loader) (config : Config) (policy : Policy)
    (firstRules secondRules : List Rule) (first second : Location)
    (firstName secondName : Option String) : Except FileFailure Trace × Loader :=
  match loader.load first with
  | (.error failure, after) => (.error failure, after)
  | (.ok firstRoot, afterFirst) =>
      match afterFirst.load second with
      | (.error failure, after) => (.error failure, after)
      | (.ok secondRoot, afterSecond) =>
          let names : Trace :=
            { firstSnapshot := nameOf firstName first
              secondSnapshot := nameOf secondName second }
          let done :=
            compareTrees config policy firstRules secondRules firstRoot secondRoot names
          let trace := { done.trace with firstPath := first.path, secondPath := second.path }
          let told := { afterSecond with messages := done.messages ++ afterSecond.messages }
          (.ok trace, told.announce trace first second)

end Loader

end XmlCollation.Sources
