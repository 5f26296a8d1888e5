import ReplicaSetOperator.Object.Metadata

/-!
# The parts of a pod that are carried along

The tables of members of everything in a pod template that nothing here looks into: the sources
of volumes, environments, probes, security contexts, affinities, and the claims of volumes.
-/

namespace ReplicaSetOperator

namespace Passive

/-! ### Common parts -/

/-- Amounts, which are texts. -/
def quantity : Passive := text

/-- Maps from texts to amounts. -/
def quantities : Passive := quantity.dictionary

/-- Lists of texts. -/
def texts : Passive := text.list

/-- Maps from texts to texts. -/
def labels : Passive := text.dictionary

/-- A thing that is given by its name. -/
def named : Passive := record [text.needed "name"]

/-- The name of an object of any kind in the same namespace. -/
def typedName : Passive :=
  record (text.field "apiGroup" :: text.neededs ["kind", "name"])

/-- The name of an object of any kind in any namespace. -/
def typedReference : Passive :=
  record (text.fields ["apiGroup", "namespace"] ++ text.neededs ["kind", "name"])

/-- A field of the pod. -/
def fieldSelector : Passive := record [text.field "apiVersion", text.needed "fieldPath"]

/-- A resource of a container. -/
def resourceSelector : Passive :=
  record [text.field "containerName", quantity.field "divisor", text.needed "resource"]

/-- An entry of an object of a given name. -/
def entrySelector : Passive := record (text.neededs ["key", "name"] ++ [bool.field "optional"])

/-- Which entry goes to which path. -/
def keyToPath : Passive := record (text.neededs ["key", "path"] ++ [int32.field "mode"])

/-! ### Containers -/

/-- A variable of the environment. -/
def environmentVariable : Passive :=
  record
    [text.needed "name", text.field "value",
     (record
       [entrySelector.field "configMapKeyRef", fieldSelector.field "fieldRef",
        resourceSelector.field "resourceFieldRef",
        entrySelector.field "secretKeyRef"]).field "valueFrom"]

/-- An object whose entries are variables of the environment. -/
def environmentSource : Passive :=
  let source := record [text.needed "name", bool.field "optional"]
  record [source.field "configMapRef", text.field "prefix", source.field "secretRef"]

/-- A command to run. -/
def execAction : Passive := record [texts.field "command"]

/-- A page to fetch. -/
def httpGetAction : Passive :=
  record
    [text.field "host", (record (text.neededs ["name", "value"])).list.field "httpHeaders",
     text.field "path", intOrText.needed "port", text.field "scheme"]

/-- A port to open. -/
def tcpSocketAction : Passive := record [text.field "host", intOrText.needed "port"]

/-- What is done at one end of the life of a container. -/
def lifecycleHandler : Passive :=
  record
    [execAction.field "exec", httpGetAction.field "httpGet",
     (record [int64.needed "seconds"]).field "sleep", tcpSocketAction.field "tcpSocket"]

/-- What is done at the ends of the life of a container. -/
def lifecycle : Passive :=
  record (lifecycleHandler.fields ["postStart", "preStop"] ++ [text.field "stopSignal"])

/-- How the health of a container is found out. -/
def probe : Passive :=
  record <|
    [execAction.field "exec",
     (record [int32.needed "port", text.field "service"]).field "grpc",
     httpGetAction.field "httpGet", tcpSocketAction.field "tcpSocket",
     int64.field "terminationGracePeriodSeconds"] ++
    int32.fields
      ["failureThreshold", "initialDelaySeconds", "periodSeconds", "successThreshold",
       "timeoutSeconds"]

/-- The resources of a container. -/
def resources : Passive :=
  record <|
    (record [text.needed "name", text.field "request"]).list.field "claims" ::
    quantities.fields ["limits", "requests"]

/-- The profile of a security module. -/
def profile : Passive := record [text.field "localhostProfile", text.needed "type"]

/-- Options of one security module. -/
def selinuxOptions : Passive := record (text.fields ["level", "role", "type", "user"])

/-- Options of one operating system. -/
def windowsOptions : Passive :=
  record <|
    bool.field "hostProcess" ::
    text.fields ["gmsaCredentialSpec", "gmsaCredentialSpecName", "runAsUserName"]

/-- The security context of a container. -/
def securityContext : Passive :=
  record <|
    bool.fields
      ["allowPrivilegeEscalation", "privileged", "readOnlyRootFilesystem", "runAsNonRoot"] ++
    profile.fields ["appArmorProfile", "seccompProfile"] ++
    int64.fields ["runAsGroup", "runAsUser"] ++
    [(record (texts.fields ["add", "drop"])).field "capabilities", text.field "procMount",
     selinuxOptions.field "seLinuxOptions", windowsOptions.field "windowsOptions"]

/-- The port of a container. -/
def containerPort : Passive :=
  record <|
    int32.needed "containerPort" :: int32.field "hostPort" ::
    text.fields ["hostIP", "name", "protocol"]

/-- The mount of a volume. -/
def volumeMount : Passive :=
  record <|
    text.neededs ["mountPath", "name"] ++ bool.field "readOnly" ::
    text.fields ["mountPropagation", "recursiveReadOnly", "subPath", "subPathExpr"]

/-- The members of a container that are carried along, ports and mounts apart. -/
def containerFields : List PassiveField :=
  [texts.field "args", environmentVariable.list.field "env", environmentSource.list.field "envFrom",
   lifecycle.field "lifecycle", resources.field "resources",
   (record (text.neededs ["resourceName", "restartPolicy"])).list.field "resizePolicy",
   securityContext.field "securityContext",
   (record (text.neededs ["devicePath", "name"])).list.field "volumeDevices"] ++
  probe.fields ["livenessProbe", "readinessProbe", "startupProbe"] ++
  bool.fields ["stdin", "stdinOnce", "tty"] ++
  text.fields
    ["imagePullPolicy", "restartPolicy", "terminationMessagePath", "terminationMessagePolicy",
     "workingDir"]

/-- A container that is added to a running pod. -/
def ephemeralContainer : Passive :=
  record <|
    containerFields ++
    [texts.field "command", text.field "image", text.needed "name",
     containerPort.list.field "ports", text.field "targetContainerName",
     volumeMount.list.field "volumeMounts"]

/-! ### Claims -/

/-- What a claim of a volume asks for. -/
def claimSpec : Passive :=
  record <|
    [texts.field "accessModes", typedName.field "dataSource",
     typedReference.field "dataSourceRef",
     (record (quantities.fields ["limits", "requests"])).field "resources",
     LabelSelector.passive.field "selector"] ++
    text.fields ["storageClassName", "volumeAttributesClassName", "volumeMode", "volumeName"]

/-- What has become of a claim. -/
def claimStatus : Passive :=
  record <|
    [texts.field "accessModes", labels.field "allocatedResourceStatuses",
     (record (text.neededs ["status", "type"] ++ text.fields ["message", "reason"] ++
       time.fields ["lastProbeTime", "lastTransitionTime"])).list.field "conditions",
     (record [text.needed "status", text.field "targetVolumeAttributesClassName"]).field
       "modifyVolumeStatus"] ++
    quantities.fields ["allocatedResources", "capacity"] ++
    text.fields ["currentVolumeAttributesClassName", "phase"]

/-! ### Volumes -/

/-- A file made from a field of the pod. -/
def downwardFile : Passive :=
  record
    [fieldSelector.field "fieldRef", int32.field "mode", text.needed "path",
     resourceSelector.field "resourceFieldRef"]

/-- One of the sources that are projected into one directory. -/
def projection : Passive :=
  let entries :=
    record [keyToPath.list.field "items", text.needed "name", bool.field "optional"]
  record
    [(record <|
       LabelSelector.passive.field "labelSelector" :: bool.field "optional" ::
       text.needed "path" :: text.fields ["name", "signerName"]).field "clusterTrustBundle",
     entries.field "configMap", (record [downwardFile.list.field "items"]).field "downwardAPI",
     entries.field "secret",
     (record
       [text.field "audience", int64.field "expirationSeconds",
        text.needed "path"]).field "serviceAccountToken"]

/-- The members of a source with a file system. -/
def fileSystem : List PassiveField := [text.field "fsType", bool.field "readOnly"]

/-- The sources of a volume that are carried along. -/
def volumeFields : List PassiveField :=
  [(record (fileSystem ++ [int32.field "partition", text.needed "volumeID"])).field
     "awsElasticBlockStore",
   (record (fileSystem ++ text.fields ["cachingMode", "kind"] ++
     text.neededs ["diskName", "diskURI"])).field "azureDisk",
   (record (bool.field "readOnly" :: text.neededs ["secretName", "shareName"])).field "azureFile",
   (record (texts.needed "monitors" :: bool.field "readOnly" :: named.field "secretRef" ::
     text.fields ["path", "secretFile", "user"])).field "cephfs",
   (record (fileSystem ++ [named.field "secretRef", text.needed "volumeID"])).field
     "cinder",
   (record (fileSystem ++ [text.needed "driver", named.field "nodePublishSecretRef",
     labels.field "volumeAttributes"])).field "csi",
   (record [int32.field "defaultMode", downwardFile.list.field "items"]).field "downwardAPI",
   (record [text.field "medium", quantity.field "sizeLimit"]).field "emptyDir",
   (record [(record [ObjectMeta.passive.field "metadata",
     claimSpec.needed "spec"]).field "volumeClaimTemplate"]).field "ephemeral",
   (record (fileSystem ++ int32.field "lun" :: texts.fields ["targetWWNs", "wwids"])).field "fc",
   (record (fileSystem ++ [text.needed "driver", labels.field "options",
     named.field "secretRef"])).field "flexVolume",
   (record (text.fields ["datasetName", "datasetUUID"])).field "flocker",
   (record (fileSystem ++ [int32.field "partition", text.needed "pdName"])).field
     "gcePersistentDisk",
   (record (text.needed "repository" :: text.fields ["directory", "revision"])).field "gitRepo",
   (record (bool.field "readOnly" :: text.neededs ["endpoints", "path"])).field "glusterfs",
   (record [text.needed "path", text.field "type"]).field "hostPath",
   (record (text.fields ["pullPolicy", "reference"])).field "image",
   (record (fileSystem ++ bool.fields ["chapAuthDiscovery", "chapAuthSession"] ++
     text.fields ["initiatorName", "iscsiInterface"] ++ text.neededs ["iqn", "targetPortal"] ++
     [int32.needed "lun", texts.field "portals", named.field "secretRef"])).field "iscsi",
   (record (bool.field "readOnly" :: text.neededs ["path", "server"])).field "nfs",
   (record [text.needed "claimName", bool.field "readOnly"]).field "persistentVolumeClaim",
   (record [text.field "fsType", text.needed "pdID"]).field "photonPersistentDisk",
   (record (fileSystem ++ [text.needed "volumeID"])).field "portworxVolume",
   (record [int32.field "defaultMode", projection.list.field "sources"]).field "projected",
   (record (bool.field "readOnly" :: text.fields ["group", "tenant", "user"] ++
     text.neededs ["registry", "volume"])).field "quobyte",
   (record (fileSystem ++ text.fields ["keyring", "pool", "user"] ++ [text.needed "image",
     texts.needed "monitors", named.field "secretRef"])).field "rbd",
   (record (fileSystem ++ text.neededs ["gateway", "system"] ++
     text.fields ["protectionDomain", "storageMode", "storagePool", "volumeName"] ++
     [named.needed "secretRef", bool.field "sslEnabled"])).field "scaleIO",
   (record (fileSystem ++ named.field "secretRef" ::
     text.fields ["volumeName", "volumeNamespace"])).field "storageos",
   (record (text.needed "volumePath" ::
     text.fields ["fsType", "storagePolicyID", "storagePolicyName"])).field "vsphereVolume"]

/-! ### Pods -/

/-- A requirement on the labels or fields of a node. -/
def nodeRequirement : Passive :=
  record (text.neededs ["key", "operator"] ++ [texts.field "values"])

/-- Requirements on a node. -/
def nodeTerm : Passive := record (nodeRequirement.list.fields ["matchExpressions", "matchFields"])

/-- Requirements on the other pods of a node. -/
def podTerm : Passive :=
  record <|
    LabelSelector.passive.fields ["labelSelector", "namespaceSelector"] ++
    texts.fields ["matchLabelKeys", "mismatchLabelKeys", "namespaces"] ++
    [text.needed "topologyKey"]

/-- Which pods should or must be near. -/
def podAffinity : Passive :=
  record
    [(record [podTerm.needed "podAffinityTerm", int32.needed "weight"]).list.field
       "preferredDuringSchedulingIgnoredDuringExecution",
     podTerm.list.field "requiredDuringSchedulingIgnoredDuringExecution"]

/-- Which nodes and pods should or must be near. -/
def affinity : Passive :=
  record <|
    (record
      [(record [nodeTerm.needed "preference", int32.needed "weight"]).list.field
         "preferredDuringSchedulingIgnoredDuringExecution",
       (record [nodeTerm.list.needed "nodeSelectorTerms"]).field
         "requiredDuringSchedulingIgnoredDuringExecution"]).field "nodeAffinity" ::
    podAffinity.fields ["podAffinity", "podAntiAffinity"]

/-- The security context of a pod. -/
def podSecurityContext : Passive :=
  record <|
    profile.fields ["appArmorProfile", "seccompProfile"] ++
    int64.fields ["fsGroup", "runAsGroup", "runAsUser"] ++
    text.fields ["fsGroupChangePolicy", "seLinuxChangePolicy", "supplementalGroupsPolicy"] ++
    [bool.field "runAsNonRoot", selinuxOptions.field "seLinuxOptions",
     int64.list.field "supplementalGroups",
     (record (text.neededs ["name", "value"])).list.field "sysctls",
     windowsOptions.field "windowsOptions"]

/-- How pods spread over nodes. -/
def topologySpread : Passive :=
  record <|
    [LabelSelector.passive.field "labelSelector", texts.field "matchLabelKeys",
     int32.needed "maxSkew", int32.field "minDomains"] ++
    text.fields ["nodeAffinityPolicy", "nodeTaintsPolicy"] ++
    text.neededs ["topologyKey", "whenUnsatisfiable"]

/-- The members of a pod that are carried along, containers and volumes apart. -/
def podFields : List PassiveField :=
  int64.fields ["activeDeadlineSeconds", "terminationGracePeriodSeconds"] ++
  bool.fields
    ["automountServiceAccountToken", "enableServiceLinks", "hostIPC", "hostNetwork", "hostPID",
     "hostUsers", "setHostnameAsFQDN", "shareProcessNamespace"] ++
  text.fields
    ["dnsPolicy", "hostname", "nodeName", "preemptionPolicy", "priorityClassName",
     "restartPolicy", "runtimeClassName", "schedulerName", "serviceAccount",
     "serviceAccountName", "subdomain"] ++
  [affinity.field "affinity",
   (record (texts.fields ["nameservers", "searches"] ++
     [(record (text.fields ["name", "value"])).list.field "options"])).field "dnsConfig",
   ephemeralContainer.list.field "ephemeralContainers",
   (record [texts.field "hostnames", text.needed "ip"]).list.field "hostAliases",
   named.list.field "imagePullSecrets", labels.field "nodeSelector",
   named.field "os", quantities.field "overhead", int32.field "priority",
   (record [text.needed "conditionType"]).list.field "readinessGates",
   (record (text.needed "name" ::
     text.fields ["resourceClaimName", "resourceClaimTemplateName"])).list.field "resourceClaims",
   resources.field "resources", named.list.field "schedulingGates",
   podSecurityContext.field "securityContext",
   (record (int64.field "tolerationSeconds" ::
     text.fields ["effect", "key", "operator", "value"])).list.field "tolerations",
   topologySpread.list.field "topologySpreadConstraints"]

end Passive

end ReplicaSetOperator
