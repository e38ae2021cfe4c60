import TaskQuery.Server.Capabilities
import TaskQuery.Query.Vocabulary
/-!
# Settings

The settings of the query language: its vocabulary, what the server can filter by and
how much is logged.
-/

namespace TaskQuery

def logLevels : List String :=
  ["TRACE", "DEBUG", "INFO", "SUCCESS", "WARNING", "ERROR", "CRITICAL"]

structure Settings where
  validFields : List String := Query.Vocabulary.standardFields
  serverFilters : Server.FilterTable := Server.Capabilities.standardTable
  listValuedFilters : List String := Server.Capabilities.standardListValued
  suggestionThreshold : Int := Query.Vocabulary.standardThreshold
  logLevel : String := "WARNING"

namespace Settings

def standard : Settings := {}

def vocabulary (s : Settings) : Query.Vocabulary :=
  { fields := s.validFields, threshold := s.suggestionThreshold }

def capabilities (s : Settings) : Except Server.UnknownOperator Server.Capabilities :=
  Server.Capabilities.ofTable s.serverFilters s.listValuedFilters

end Settings

end TaskQuery
