import Loyalty.Level

/-!
# Settings

What a running program is configured with. Only the address of the database has no default.
-/

namespace Loyalty

structure DatabaseSettings where
  url : String
  maxConnections : UInt32
  minConnections : UInt32
  deriving DecidableEq, Repr

structure LoggingSettings where
  filter : String
  json : Bool
  deriving DecidableEq, Repr

structure ProgramSettings where
  levelBase : Amount
  deriving DecidableEq, Repr

structure Settings where
  database : DatabaseSettings
  logging : LoggingSettings
  program : ProgramSettings
  deriving DecidableEq, Repr

namespace DatabaseSettings

def defaultMax : UInt32 := 10

def defaultMin : UInt32 := 1

end DatabaseSettings

def LoggingSettings.standard : LoggingSettings := ⟨"punchcard=debug,sea_orm=info", false⟩

def ProgramSettings.standard : ProgramSettings := ⟨100⟩

def ProgramSettings.curve (s : ProgramSettings) : LevelCurve := .ofBase s.levelBase

end Loyalty
