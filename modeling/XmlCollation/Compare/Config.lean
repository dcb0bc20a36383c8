import XmlCollation.Text.Blank
import XmlCollation.Text.Case
import XmlCollation.Text.Value

/-!
Contract: the settings of a comparison.

Owns:
- the two modes of pairing siblings, letter case, and the size of the content cache;
- the checks of settings, with the reason of a refusal;
- the key under which a text is compared.

Does not own: what the modes do.
-/

namespace XmlCollation.Compare

open XmlCollation.Text

/-- How siblings with equal signatures are paired. -/
inductive Mode where
  | greedy
  | optimal
deriving DecidableEq, Repr

def Mode.name : Mode → String
  | .greedy => "greedy"
  | .optimal => "optimal"

/-- The settings of a comparison. -/
structure Config where
  mode : Mode := .greedy
  ignoreCase : Bool := true
  cacheSize : Nat := 1024
  cacheSize_pos : 0 < cacheSize := by decide
deriving Repr

/-- The settings that hold unless others are given. -/
def Config.standard : Config := {}

/-- Why settings are refused. -/
inductive ConfigFault where
  | unknownMode (name : String)
  | foreignMode (value : Value)
  | cacheSize (size : Int)

def ConfigFault.message : ConfigFault → String
  | .unknownMode name => quoted name ++ " is not a valid MatchingMode"
  | .foreignMode value => "matching_mode must be a MatchingMode, got " ++ value.shown
  | .cacheSize size => "max_cache_size must be > 0, got " ++ toString size

def Mode.ofName? (name : String) : Except ConfigFault Mode :=
  if name = Mode.greedy.name then .ok .greedy
  else if name = Mode.optimal.name then .ok .optimal
  else .error (.unknownMode name)

/-- What a caller gives for the mode: a mode, or a value that is none. -/
inductive ModeChoice where
  | mode (mode : Mode)
  | foreign (value : Value)

/-- Checks settings: first that the mode is one, then the size of the cache. -/
def Config.make (choice : ModeChoice) (ignoreCase : Bool) (size : Int) :
    Except ConfigFault Config :=
  match choice with
  | .foreign value => .error (.foreignMode value)
  | .mode mode =>
      if positive : 0 < size.toNat then .ok ⟨mode, ignoreCase, size.toNat, positive⟩
      else .error (.cacheSize size)

/-- The key of a text: trimmed, and lower-cased unless letter case counts. -/
def Config.key (config : Config) (chars : List Char) : List Char :=
  if config.ignoreCase then lower (trim chars) else trim chars

def Config.normalize (config : Config) (text : String) : String :=
  String.ofList (config.key text.toList)

theorem Config.normalize_toList (config : Config) (text : String) :
    (config.normalize text).toList = config.key text.toList := by
  simp [Config.normalize]

/-- Settings are refused exactly when the mode is none or the cache holds nothing. -/
theorem Config.make_mode (mode : Mode) (ignoreCase : Bool) (size : Int) :
    (∃ config, Config.make (.mode mode) ignoreCase size = .ok config) ↔ 0 < size := by
  unfold Config.make
  by_cases positive : 0 < size.toNat
  · simp [positive]
    omega
  · simp [positive]
    omega

end XmlCollation.Compare
