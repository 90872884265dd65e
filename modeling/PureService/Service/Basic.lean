import PureService.Config
import PureService.Digest
import PureService.Text.Line

/-!
# Generated services

A service exposes functions as resources that answer POST requests, one for each function and in
their order. Its source text depends on the settings and the functions only. A function whose name
is blank cannot be wrapped.
-/

namespace PureService

/-- A resource: the path under which it is reached and the function that it calls. -/
structure Resource where
  path : String
  function : String
  deriving DecidableEq, Repr

/-- What a service consists of. -/
structure ServicePlan where
  transportOrg : String
  port : UInt16
  fileName : String
  resources : List Resource
  deriving DecidableEq, Repr

/-- A generated source file. -/
structure Service where
  source : String
  /-- The file name without its extension. -/
  logicalName : String
  deriving DecidableEq, Repr

/-- A resource whose function has a blank name. -/
structure BlankFunction where
  path : String
  deriving DecidableEq, Repr

def BlankFunction.message (error : BlankFunction) : String :=
  "code generation failed: resource '" ++ error.path ++ "' wraps a function with an empty name"

namespace ServicePlan

/-- The plan that exposes the named functions, each under its own name. -/
def ofNames (config : ServiceConfig) (names : List String) : ServicePlan :=
  ⟨config.transportOrg, config.port, config.fileName, names.map fun name => ⟨name, name⟩⟩

end ServicePlan

namespace Service

/-- What every line that opens a resource begins with, after its indentation. -/
def resourceKeyword : String := "resource function post "

/-- The lines before the resources. -/
def head (plan : ServicePlan) : String :=
  let port := toString plan.port.toNat
  "import " ++ plan.transportOrg ++ "/http;\n\n" ++
  "# A service representing a network-accessible API\n" ++
  "# bound to default port `" ++ port ++ "`.\n\n" ++
  "configurable int port = " ++ port ++ ";\n\n" ++
  "service / on new http:Listener(port) \x7b\n"

/-- The lines of one resource. -/
def resourceText (resource : Resource) : String :=
  "    " ++ resourceKeyword ++ resource.path ++
    "(@http:Payload json payload) returns json|error \x7b\n" ++
  "        return " ++ resource.function ++ "(check payload.cloneWithType()).toJson();\n" ++
  "    \x7d\n"

/-- The source text of a service: blank lines separate the resources. -/
def sourceOf (plan : ServicePlan) : String :=
  head plan ++ String.intercalate "\n" (plan.resources.map resourceText) ++ "\x7d\n"

/-- The service of a plan in which no function has a blank name. -/
def ofPlan (plan : ServicePlan) : Except BlankFunction Service :=
  match plan.resources.find? fun resource => Text.isAllBlank resource.function with
  | some resource => .error ⟨resource.path⟩
  | none => .ok ⟨sourceOf plan, plan.fileName⟩

/-- The service that exposes the named functions. -/
def ofNames (config : ServiceConfig) (names : List String) : Except BlankFunction Service :=
  ofPlan (.ofNames config names)

def extension : String := "bal"

def fileName (service : Service) : String :=
  service.logicalName ++ "." ++ extension

def digest (service : Service) : String :=
  Digest.ofText service.source

/-- How many lines open a resource. -/
def resourceCount (service : Service) : Nat :=
  (Text.lines service.source.toList).countP fun line =>
    resourceKeyword.toList.isPrefixOf (Text.trimStart line)

end Service

end PureService
