import Ingestion.Json.Basic
import Ingestion.Time.Instant

/-!
# Projects

A project joins the data of several scopes under one name. Plugins that compute metrics are
enabled for each project by itself.
-/

namespace Ingestion

/-- A name under which the data of several scopes is joined. -/
structure Project where
  name : String
  description : Option String := none
  createdAt : Instant
deriving DecidableEq, Inhabited

/-- Whether a metric is computed for a project, and with which options. -/
structure MetricSetting where
  projectName : String
  pluginName : String
  option : Json.Value
  enable : Bool
deriving Inhabited

end Ingestion
