import ReplicaSetOperator.Object.Pod
import ReplicaSetOperator.Object.StatefulSet
import ReplicaSetOperator.Tls.Paths

/-!
# Mounting the TLS files

A `VolumePlan` holds the volumes with the TLS files and their mounts. Merging it into a pod
replaces what has the same name in its place and adds the rest at the end.
-/

namespace ReplicaSetOperator

/-- Puts an item in place of the first one with the same name, or at the end if there is none. -/
def Named.put {α : Type} (name : α → String) (item : α) : List α → List α
  | [] => [item]
  | x :: xs => if name x = name item then item :: xs else x :: put name item xs

/-- Puts several items one after another. -/
def Named.putAll {α : Type} (name : α → String) (items xs : List α) : List α :=
  items.foldl (fun xs item => Named.put name item xs) xs

namespace Tls

/-- The volume with the CA certificate. -/
def caVolumeName : String := "tls-ca"

/-- The volume with the certificate and its key. -/
def secretVolumeName : String := "tls-secret"

end Tls

/-- Volumes and their mounts. -/
structure VolumePlan where
  volumes : List Volume
  mounts : List VolumeMount
deriving DecidableEq, Inhabited

namespace VolumePlan

/-- The plan for the files of a config map and a secret. -/
def tls (caConfigMap operatorSecret : String) : VolumePlan where
  volumes :=
    [{ name := Tls.caVolumeName, configMap := some { name := caConfigMap } },
     { name := Tls.secretVolumeName, secret := some { secretName := some operatorSecret } }]
  mounts :=
    [{ name := Tls.caVolumeName, mountPath := Tls.caMountPath, readOnly := some true },
     { name := Tls.secretVolumeName, mountPath := Tls.secretMountPath, readOnly := some true }]

/-- Merges the mounts of a plan into a container. -/
def mountInto (p : VolumePlan) (c : Container) : Container :=
  { c with volumeMounts := some (Named.putAll (·.name) p.mounts (c.volumeMounts.getD [])) }

/-- Merges a plan into a pod, mounting into the containers of the given names. -/
def applyTo (p : VolumePlan) (names : List String) (pod : PodSpec) : PodSpec :=
  { pod with
    volumes := some (Named.putAll (·.name) p.volumes (pod.volumes.getD []))
    containers := pod.containers.map fun c => if c.name ∈ names then p.mountInto c else c }

end VolumePlan

/-- Whether the pods of a stateful set have both volumes with TLS files. -/
def StatefulSet.carriesTls (s : StatefulSet) : Bool :=
  [Tls.caVolumeName, Tls.secretVolumeName].all fun name => s.volumes.any (·.name == name)

end ReplicaSetOperator
