import PureService.Config
import PureService.Decoding.Source

/-!
# Decoding configurations

The fields of a project configuration and of its parts, for any source.
-/

namespace PureService.Decoding

variable {ν : Type} {m : Type → Type} [Monad m]

def deliveryWords : Choice Delivery :=
  .ofValues Delivery.name [.sequential, .concurrent]

namespace Source

def serviceFormat (source : Source ν m) : RecordFormat ν m ServiceConfig where
  name := "ServiceConfig"
  fields := ["port", "transport_org", "file_name"]
  required := []
  initial := .default
  update
    | "port", node => do
      let port ← source.number .port node
      pure ({ · with port := .ofNat port })
    | "transport_org", node => do
      let transportOrg ← source.text node
      pure ({ · with transportOrg })
    | "file_name", node => do let fileName ← source.text node; pure ({ · with fileName })
    | _, _ => pure id

def service (source : Source ν m) : ν → m ServiceConfig :=
  source.record source.serviceFormat

def delivery (source : Source ν m) : ν → m Delivery :=
  source.choice deliveryWords

def analysisFormat (source : Source ν m) : RecordFormat ν m AnalysisConfig where
  name := "AnalysisConfig"
  fields := ["delivery"]
  required := []
  initial := .default
  update
    | "delivery", node => do let delivery ← source.delivery node; pure ({ · with delivery })
    | _, _ => pure id

def analysis (source : Source ν m) : ν → m AnalysisConfig :=
  source.record source.analysisFormat

def projectFormat (source : Source ν m) : RecordFormat ν m ProjectConfig where
  name := "ProjectConfig"
  fields := ["name", "version", "service", "analysis"]
  required := ["name"]
  initial := .named ""
  update
    | "name", node => do let name ← source.text node; pure ({ · with name })
    | "version", node => do let version ← source.text node; pure ({ · with version })
    | "service", node => do let service ← source.service node; pure ({ · with service })
    | "analysis", node => do let analysis ← source.analysis node; pure ({ · with analysis })
    | _, _ => pure id

def project (source : Source ν m) : ν → m ProjectConfig :=
  source.record source.projectFormat

end Source

end PureService.Decoding
