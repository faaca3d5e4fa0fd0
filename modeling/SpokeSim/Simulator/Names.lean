/-!
# Names

The fixed names of the simulator's world: where the templates are, how the objects of a cluster are
called, and what is wired into its deployment.
-/

namespace SpokeSim

/-- The namespace of the hub that holds the add-on and its templates. -/
def addonNamespace : String := "open-cluster-management-addon-observability"

/-- Clusters are simulated whose name starts with this, unless another start is given. -/
def defaultScope : String := "spoke"

/-! ## Templates -/

/-- The config map with the certificates of the serving authority. -/
def caBundleName : String := "metrics-collector-serving-certs-ca-bundle"

/-- The secret with the client certificate of the signer. -/
def signerCertName : String :=
  "observability-controller-open-cluster-management.io-observability-signer-client-cert"

/-- The secret with the certificates of managed clusters. -/
def managedCertName : String := "observability-managed-cluster-certs"

/-- The service account of the endpoint operator. -/
def endpointAccountName : String := "endpoint-observability-operator-sa"

/-- The deployment of the metrics collector. -/
def collectorName : String := "metrics-collector-deployment"

/-! ## Rights -/

/-- The group of roles and bindings. -/
def rbacGroup : String := "rbac.authorization.k8s.io"

/-- The role that may read a cluster's metrics. -/
def monitoringRole : String := "cluster-monitoring-view"

/-- The name of the binding made for a cluster. -/
def bindingName (cluster : String) : String := cluster ++ "-clusters-metrics-collector-view"

/-! ## Simulated metrics -/

/-- The image that carries recorded metrics. -/
def metricsImage : String := "quay.io/haoqing/metrics-data:latest"

/-- The container that lays the recorded metrics down. -/
def seedContainerName : String := "init-metrics"

/-- The volume that takes the recorded metrics. -/
def metricsVolumeName : String := "metrics-volume"

/-- Where containers see the recorded metrics. -/
def metricsMountPath : String := "/metrics-volume"

/-- What lays the recorded metrics down. -/
def seedCommand : String := "cp /tmp/timeseries.txt /metrics-volume"

/-- The recorded metrics, as the collector sees them. -/
def timeseriesFile : String := "/metrics-volume/timeseries.txt"

end SpokeSim
