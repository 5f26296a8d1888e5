import ReplicaSetOperator.Object.PodSchema

/-!
# Pods

The template of a pod, as far as something here looks into it: the volumes with the secret or
config map behind them, and the containers with their ports and the mounts of volumes. Every type
carries the members that nothing looks into along in `other`.
-/

namespace ReplicaSetOperator

/-- A volume at a path of a container. -/
structure VolumeMount where
  name : String
  mountPath : String
  readOnly : Option Bool := none
  other : Json.Members := []
deriving DecidableEq, Inhabited

namespace VolumeMount

/-- The members that are carried along. -/
def otherFields : List PassiveField :=
  Passive.text.fields ["mountPropagation", "recursiveReadOnly", "subPath", "subPathExpr"]

/-- The name and the path are written always. -/
def format : Format VolumeMount where
  fault := Lenient.fault <|
    [Format.string.lenient "name", Format.string.lenient "mountPath",
     Format.bool.lenient "readOnly"] ++ Passive.rules otherFields
  read j :=
    { name := Format.string.presentD "name" "" j
      mountPath := Format.string.presentD "mountPath" "" j
      readOnly := Format.bool.present? "readOnly" j
      other := Passive.collect otherFields j }
  write m := Json.recordWith
    [("name", some (.string m.name)), ("mountPath", some (.string m.mountPath)),
     ("readOnly", m.readOnly.map .bool)]
    m.other

end VolumeMount

/-- The entries of a config map as files. -/
structure ConfigMapSource where
  name : String
  other : Json.Members := []
deriving DecidableEq, Inhabited

namespace ConfigMapSource

/-- The members that are carried along. -/
def otherFields : List PassiveField :=
  [Passive.int32.field "defaultMode", Passive.keyToPath.list.field "items",
   Passive.bool.field "optional"]

/-- The name is written always. -/
def format : Format ConfigMapSource where
  fault := Lenient.fault (Format.string.lenient "name" :: Passive.rules otherFields)
  read j :=
    { name := Format.string.presentD "name" "" j
      other := Passive.collect otherFields j }
  write s := Json.recordWith [("name", some (.string s.name))] s.other

end ConfigMapSource

/-- The entries of a secret as files. -/
structure SecretSource where
  secretName : Option String := none
  other : Json.Members := []
deriving DecidableEq, Inhabited

namespace SecretSource

/-- The members that are carried along. -/
def otherFields : List PassiveField := ConfigMapSource.otherFields

/-- Every member may be absent. -/
def format : Format SecretSource where
  fault := Lenient.fault (Format.string.lenient "secretName" :: Passive.rules otherFields)
  read j :=
    { secretName := Format.string.present? "secretName" j
      other := Passive.collect otherFields j }
  write s := Json.recordWith [("secretName", s.secretName.map .string)] s.other

end SecretSource

/-- A volume of a pod. -/
structure Volume where
  name : String
  configMap : Option ConfigMapSource := none
  secret : Option SecretSource := none
  other : Json.Members := []
deriving DecidableEq, Inhabited

/-- The name is written always. -/
def Volume.format : Format Volume where
  fault := Lenient.fault <|
    [Format.string.lenient "name", ConfigMapSource.format.lenient "configMap",
     SecretSource.format.lenient "secret"] ++ Passive.rules Passive.volumeFields
  read j :=
    { name := Format.string.presentD "name" "" j
      configMap := ConfigMapSource.format.present? "configMap" j
      secret := SecretSource.format.present? "secret" j
      other := Passive.collect Passive.volumeFields j }
  write v := Json.recordWith
    [("name", some (.string v.name)), ("configMap", v.configMap.map ConfigMapSource.format.write),
     ("secret", v.secret.map SecretSource.format.write)]
    v.other

/-- A port that a container listens on. -/
structure ContainerPort where
  name : Option String := none
  containerPort : Int32
  other : Json.Members := []
deriving DecidableEq, Inhabited

namespace ContainerPort

/-- The members that are carried along. -/
def otherFields : List PassiveField :=
  Passive.int32.field "hostPort" :: Passive.text.fields ["hostIP", "protocol"]

/-- The port is written always. -/
def format : Format ContainerPort where
  fault := Lenient.fault <|
    [Format.string.lenient "name", Format.int32.lenient "containerPort"] ++
    Passive.rules otherFields
  read j :=
    { name := Format.string.present? "name" j
      containerPort := Format.int32.presentD "containerPort" 0 j
      other := Passive.collect otherFields j }
  write p := Json.recordWith
    [("name", p.name.map .string),
     ("containerPort", some (Format.int32.write p.containerPort))]
    p.other

end ContainerPort

/-- A container of a pod. -/
structure Container where
  name : String
  image : Option String := none
  command : Option (List String) := none
  ports : Option (List ContainerPort) := none
  volumeMounts : Option (List VolumeMount) := none
  other : Json.Members := []
deriving DecidableEq, Inhabited

/-- The name is written always. -/
def Container.format : Format Container where
  fault := Lenient.fault <|
    [Format.string.lenient "name", Format.string.lenient "image",
     Format.string.list.lenient "command", ContainerPort.format.list.lenient "ports",
     VolumeMount.format.list.lenient "volumeMounts"] ++ Passive.rules Passive.containerFields
  read j :=
    { name := Format.string.presentD "name" "" j
      image := Format.string.present? "image" j
      command := Format.string.list.present? "command" j
      ports := ContainerPort.format.list.present? "ports" j
      volumeMounts := VolumeMount.format.list.present? "volumeMounts" j
      other := Passive.collect Passive.containerFields j }
  write c := Json.recordWith
    [("name", some (.string c.name)), ("image", c.image.map .string),
     ("command", c.command.map Format.string.list.write),
     ("ports", c.ports.map ContainerPort.format.list.write),
     ("volumeMounts", c.volumeMounts.map VolumeMount.format.list.write)]
    c.other

/-- What a pod consists of. -/
structure PodSpec where
  containers : List Container
  initContainers : Option (List Container) := none
  volumes : Option (List Volume) := none
  other : Json.Members := []
deriving DecidableEq, Inhabited

/-- The containers are written always. -/
def PodSpec.format : Format PodSpec where
  fault := Lenient.fault <|
    [Container.format.list.lenient "containers", Container.format.list.lenient "initContainers",
     Volume.format.list.lenient "volumes"] ++ Passive.rules Passive.podFields
  read j :=
    { containers := Container.format.list.presentD "containers" [] j
      initContainers := Container.format.list.present? "initContainers" j
      volumes := Volume.format.list.present? "volumes" j
      other := Passive.collect Passive.podFields j }
  write p := Json.recordWith
    [("containers", some (Container.format.list.write p.containers)),
     ("initContainers", p.initContainers.map Container.format.list.write),
     ("volumes", p.volumes.map Volume.format.list.write)]
    p.other

/-- The pods that are made from a template. -/
structure PodTemplate where
  metadata : Option ObjectMeta := none
  spec : Option PodSpec := none
deriving DecidableEq, Inhabited

/-- Every member may be absent. -/
def PodTemplate.format : Format PodTemplate where
  fault := Lenient.fault [ObjectMeta.format.lenient "metadata", PodSpec.format.lenient "spec"]
  read j :=
    { metadata := ObjectMeta.format.present? "metadata" j
      spec := PodSpec.format.present? "spec" j }
  write t := Json.record
    [("metadata", t.metadata.map ObjectMeta.format.write),
     ("spec", t.spec.map PodSpec.format.write)]

end ReplicaSetOperator
