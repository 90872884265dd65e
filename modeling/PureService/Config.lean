import PureService.Text.Blank

/-!
# Configuration of a project

A project has a name and a version, settings of the service that is generated for it, and the way
in which its documents are delivered to the analysis. Everything but the name has a default. Some
configurations can be written down but not used.
-/

namespace PureService

/-- How documents are delivered to the analysis. -/
inductive Delivery where
  | sequential | concurrent
  deriving DecidableEq, Repr

structure ServiceConfig where
  port : UInt16
  /-- The organization of the module that provides the transport. -/
  transportOrg : String
  /-- The file name of the generated source, without its extension. -/
  fileName : String
  deriving DecidableEq, Repr

structure AnalysisConfig where
  delivery : Delivery
  deriving DecidableEq, Repr

structure ProjectConfig where
  name : String
  version : String
  service : ServiceConfig
  analysis : AnalysisConfig
  deriving DecidableEq, Repr

def Delivery.name : Delivery → String
  | sequential => "sequential"
  | concurrent => "concurrent"

def ServiceConfig.default : ServiceConfig :=
  ⟨8080, "ballerina", "service"⟩

def AnalysisConfig.default : AnalysisConfig :=
  ⟨.sequential⟩

/-- Why a configuration cannot be used. -/
inductive ConfigFault where
  | noName | noPort | noFileName
  deriving DecidableEq, Repr

def ConfigFault.message : ConfigFault → String
  | noName => "project name must not be empty"
  | noPort => "service port must be between 1 and 65535"
  | noFileName => "service file_name must not be empty"

namespace ProjectConfig

def defaultVersion : String := "0.1.0"

/-- A project of which only the name is given. -/
def named (name : String) : ProjectConfig :=
  ⟨name, defaultVersion, .default, .default⟩

/-- The first reason why the configuration cannot be used. -/
def fault? (config : ProjectConfig) : Option ConfigFault :=
  if Text.isAllBlank config.name then some .noName
  else if config.service.port = 0 then some .noPort
  else if Text.isAllBlank config.service.fileName then some .noFileName
  else none

end ProjectConfig

end PureService
