import ReplicaSetOperator.Automation.Builder
import ReplicaSetOperator.Object.Service
import ReplicaSetOperator.Tls.Descriptor

/-!
# The workload of a cluster

The objects that make the members run: a stateful set whose pods have an agent and a database
container, and a service without an address of its own that gives every pod a stable host name.
-/

namespace ReplicaSetOperator

/-- The images of the containers. -/
structure Images where
  agent : String := "quay.io/mongodb/mongodb-agent-ubi:108.0.2.8729-1"
  database : String := "quay.io/mongodb/mongodb-community-server:6.0.5-ubi8"
  versionUpgradeHook : String :=
    "quay.io/mongodb/mongodb-kubernetes-operator-version-upgrade-post-start-hook:1.0.9"
deriving DecidableEq, Inhabited

/-- The entry of the secret under which the agents find the document. -/
def documentKey : String := "cluster-config.json"

namespace Workload

/-! ### Names and paths -/

/-- The container of the agent. -/
def agentContainer : String := "mongodb-agent"

/-- The container of the database. -/
def databaseContainer : String := "mongod"

/-- The container that puts the hook in its place. -/
def hookContainer : String := "mongod-posthook"

/-- The volume with the document. -/
def documentVolume : String := "automation-config"

/-- The volume with the state of the agent. -/
def healthVolume : String := "healthstatus"

/-- The volume with the hooks. -/
def hooksVolume : String := "hooks"

/-- The volume with the data. -/
def dataVolume : String := "data-volume"

/-- Where the document is. -/
def documentPath : String := "/var/lib/automation/config"

/-- Where the state of the agent is. -/
def healthPath : String := "/var/log/mongodb-mms-automation/healthstatus"

/-- Where the hooks are. -/
def hooksPath : String := "/hooks"

/-- A volume at a path. -/
def mount (name path : String) : VolumeMount := { name := name, mountPath := path }

/-- A volume that starts empty. -/
def emptyVolume (name : String) : Volume := { name := name, other := [("emptyDir", .object [])] }

/-! ### Containers -/

/-- The command that runs the agent. -/
def agentCommand : String :=
  String.join
    ["agent/mongodb-agent -cluster=", documentPath, "/", documentKey, " -healthCheckFilePath=",
     healthPath, "/agent-health-status.json",
     " -skipMongoStart -noDaemonize -useLocalMongoDbTools"]

/-- The agent sees the document read-only, and the data. -/
def agent (images : Images) : Container where
  name := agentContainer
  image := some images.agent
  command := some ["/bin/bash", "-c", agentCommand]
  volumeMounts := some
    [{ mount documentVolume documentPath with readOnly := some true },
     mount healthVolume healthPath, mount dataVolume databasePath]

/-- The command that waits for the configuration of the process and then runs it. -/
def databaseCommand : String :=
  String.join
    ["while ! [ -f ", databasePath, "/automation-mongod.conf ]; do sleep 3 ; done ; sleep 2 ; ",
     "exec mongod -f ", databasePath, "/automation-mongod.conf"]

/-- The database listens on the port of the members. -/
def database (images : Images) : Container where
  name := databaseContainer
  image := some images.database
  command := some ["/bin/sh", "-c", databaseCommand]
  ports := some [{ name := some "mongodb", containerPort := databasePort }]
  volumeMounts := some
    [mount healthVolume healthPath, mount hooksVolume hooksPath, mount dataVolume databasePath]

/-- The hook is copied to its place before the others start. -/
def hook (images : Images) : Container where
  name := hookContainer
  image := some images.versionUpgradeHook
  command := some ["cp", "version-upgrade-hook", hooksPath ++ "/version-upgrade"]
  volumeMounts := some [mount hooksVolume hooksPath]

/-! ### Objects -/

/-- The security context of the pods. -/
def securityContext : Json :=
  Json.record
    [("fsGroup", some (.ofInt 2000)), ("runAsNonRoot", some (.bool true)),
     ("runAsUser", some (.ofInt 2000))]

/-- The pods before anything is mounted for TLS. -/
def basePod (c : Cluster) (images : Images) : PodSpec where
  containers := [agent images, database images]
  initContainers := some [hook images]
  volumes := some
    [{ name := documentVolume, secret := some { secretName := some c.configSecretName } },
     emptyVolume healthVolume, emptyVolume hooksVolume]
  other := [("securityContext", securityContext)]

/-- The pods, with the TLS files mounted if TLS is wanted. -/
def pod (c : Cluster) («namespace» : String) (images : Images) : PodSpec :=
  let tls := c.descriptor «namespace»
  if tls.enabled then
    tls.volumePlan.applyTo [agentContainer, databaseContainer] (basePod c images)
  else basePod c images

/-- The claim of the volume with the data. -/
def dataClaim : VolumeClaim where
  metadata := { name := some dataVolume }
  other :=
    [("spec", Json.record
       [("accessModes", some (.array [.string "ReadWriteOnce"])),
        ("resources", some (Json.record
          [("requests", some (Json.record [("storage", some (.string "10G"))]))]))])]

end Workload

namespace Cluster

/-- The metadata of an object of the workload. -/
def workloadMeta (c : Cluster) («namespace» name : String) : ObjectMeta where
  name := some name
  «namespace» := some «namespace»
  labels := some c.labels
  ownerReferences := c.owners

/-- The stateful set of the members. -/
def statefulSet (c : Cluster) («namespace» : String) (images : Images) : StatefulSet where
  metadata := c.workloadMeta «namespace» c.name
  spec := some
    { replicas := some c.spec.members
      selector := { matchLabels := some c.labels }
      serviceName := some c.serviceName
      template :=
        { metadata := some { labels := some c.labels }
          spec := some (Workload.pod c «namespace» images) }
      volumeClaimTemplates := some [Workload.dataClaim] }

/-- The service of the members. It has no address of its own, and it names members before they
are ready. -/
def service (c : Cluster) («namespace» : String) : Service where
  metadata := c.workloadMeta «namespace» c.serviceName
  spec := some
    { clusterIP := some "None"
      ports := some
        [{ name := some "mongodb", port := databasePort,
           targetPort := some (.ofInt databasePort.toInt), protocol := some "TCP" }]
      publishNotReadyAddresses := some true
      selector := some c.labels }

end Cluster

end ReplicaSetOperator
