import OnCall.Alert
import OnCall.Collaboration
import OnCall.Notes
import OnCall.Settings

/-!
# What is known about an alert

An investigation names what it needs beside the cluster record, and gets it before it starts. What
was fetched once for an alert is kept for its later attempts; a failed fetch is not kept.

* `Requirements`: what an investigation needs.
* `Dossier`: what has been fetched for one alert so far.
* `Context`: what one attempt of an investigation works with; `Context.build` makes it out of the
  dossier and fetches what is missing.
* `ResolutionFailure`: which resource could not be fetched, and the failure as it came.
-/

namespace OnCall

/-- What an investigation needs beside the cluster record. -/
structure Requirements where
  deployment : Bool
  cloud : Bool
deriving DecidableEq

/-- Nothing beside the cluster record. -/
def Requirements.none : Requirements := ⟨false, false⟩

/-! ## 1. Failed fetches -/

/-- What has to be fetched for an attempt. -/
inductive Resource where
  | cluster
  | deployment
  | cloud
deriving DecidableEq

/-- A resource could not be fetched. -/
structure ResolutionFailure where
  resource : Resource
  clusterId : String
  /-- The failure as the platform reported it. -/
  raw : Failure
deriving DecidableEq

namespace ResolutionFailure

def message (f : ResolutionFailure) : String :=
  match f.resource with
  | .cluster => "could not retrieve cluster " ++ f.clusterId
  | .deployment => "could not retrieve cluster deployment for " ++ f.clusterId
  | .cloud => "could not build cloud provider client for " ++ f.clusterId

/-- The failure with what could not be fetched in front of it. -/
def failure (f : ResolutionFailure) : Failure := .context f.message f.raw

end ResolutionFailure

/-! ## 2. Fetching -/

/-- What has been fetched for one alert. -/
structure Dossier where
  cluster : Option Cluster
  deployment : Option Deployment
  cloud : Option CloudClient
deriving DecidableEq

/-- Nothing has been fetched yet. -/
def Dossier.empty : Dossier := ⟨.none, .none, .none⟩

/-- A program that fills a dossier, and may fail to fetch a resource. -/
abbrev Resolving (α : Type) := ExceptT ResolutionFailure (StateT Dossier (Program collaboration)) α

namespace Resolving

/-- Make a fetch that may fail. -/
def fetch {α : Type} (resource : Resource) (clusterId : String) (x : Fallible α) :
    Resolving α := do
  match ← liftM (n := Resolving) x.run with
  | .ok value => return value
  | .error raw => throw ⟨resource, clusterId, raw⟩

/-- The cluster of an alert. -/
def cluster (alert : Alert) : Resolving Cluster := do
  match (← get).cluster with
  | some cluster => return cluster
  | none =>
    let cluster ← fetch .cluster alert.clusterId (Work.fetchCluster alert.clusterId)
    modify fun d => { d with cluster := some cluster }
    return cluster

/-- The deployment of the cluster of an alert. -/
def deployment (alert : Alert) : Resolving Deployment := do
  let cluster ← cluster alert
  match (← get).deployment with
  | some deployment => return deployment
  | none =>
    let deployment ← fetch .deployment cluster.id (Work.fetchDeployment cluster.id)
    modify fun d => { d with deployment := some deployment }
    return deployment

/-- A client of the cloud account of the cluster of an alert. -/
def cloud (alert : Alert) : Resolving CloudClient := do
  let cluster ← cluster alert
  match (← get).cloud with
  | some client => return client
  | none =>
    let client ← fetch .cloud cluster.id (Work.openCloud cluster)
    modify fun d => { d with cloud := some client }
    return client

end Resolving

/-! ## 3. The context of an attempt -/

/-- What one attempt of an investigation works with. -/
structure Context where
  alert : Alert
  investigation : String
  cluster : Cluster
  deployment : Option Deployment
  /-- There only if it was asked for. -/
  cloud : Option CloudClient
  /-- An assisted analysis can be asked for. -/
  analyst : Bool
  settings : Settings
  /-- The lines that the attempt starts with. -/
  notes : Notes
deriving DecidableEq

namespace Context

/-- The cloud account, for an investigation that asked for it. -/
def cloudClient (ctx : Context) : Except Failure CloudClient :=
  match ctx.cloud with
  | some client => .ok client
  | none => .error (.root (.cloudNotRequested ctx.investigation))

/-- The id that the infrastructure of the cluster carries: the deployment's, else the cluster's. -/
def infraId (ctx : Context) : Except Failure String :=
  match (ctx.deployment.map Deployment.infraId).or ctx.cluster.infraId with
  | some id => .ok id
  | none => .error (.root (.noInfraId ctx.cluster.id))

/-- Make the context of an attempt: the cluster, then the deployment and the cloud account if they
are asked for. No line is written in it yet. -/
def build (alert : Alert) (settings : Settings) (analyst : Bool) (investigation : String)
    (needs : Requirements) : Resolving Context := do
  let cluster ← Resolving.cluster alert
  let deployment ← if needs.deployment then some <$> Resolving.deployment alert else pure none
  let cloud ← if needs.cloud then some <$> Resolving.cloud alert else pure none
  return { alert, investigation, cluster, deployment, cloud, analyst, settings
           notes := .empty investigation }

end Context

end OnCall
