import ReplicaSetOperator.Operator.Event

/-!
# Reconciliation

`Cluster.reconcile` brings the world up to what a cluster asks for: the TLS material, the
document, the workload, the rollout marker and the status, in this order. It does as much as is
possible now and says when to go on.

`Cluster.reconcileGuarded` guards that work by a finalizer: the finalizer is put on a cluster
before anything is done for it, and taken away after the cleanup when the cluster is deleted.
-/

namespace ReplicaSetOperator

/-- When a reconciliation is to be done again. -/
inductive Action where
  | requeue (milliseconds : Nat)
  | awaitChange
deriving DecidableEq, Inhabited

/-- The time after which missing material is looked for again. -/
def missingMaterialRequeue : Nat := 10000

/-- The time after which the rollout of a template is looked at again. -/
def rolloutRequeue : Nat := 10000

/-- The time after which a cluster is looked at again after its marker has been set. -/
def markerRequeue : Nat := 1000

/-- The time after which a cluster is looked at again anyway. -/
def idleRequeue : Nat := 300000

/-- The finalizer that keeps a deleted cluster until the cleanup is done. -/
def finalizerName : String := "mongodb-cluster.mongodb.molnett.org"

/-- The failure that comes of missing material, with its cause; no other failure does. -/
def Failure.missingMaterial? : Failure → Option Cause
  | .plain (.materialMissing what) => some (.materialMissing what)
  | _ => none

namespace Cluster

/-- Sets or clears the rollout marker, and tells so. -/
def markRollout (c : Cluster) (complete : Bool) : Program Failure Unit := do
  let ns ← .ofExcept c.namespaced
  let value := if complete then Json.string "true" else .null
  let annotations := Json.record [(rolloutMarker, some value)]
  let body :=
    Json.record [("metadata", some (Json.record [("annotations", some annotations)]))]
  let _ ← (Client.merge resource ns c.name body).requesting
  let event : Event :=
    if complete then
      ⟨"TLSRolledOut", "TLS material is mounted on every member", "Reconciling"⟩
    else ⟨"TLSRolloutReset", "TLS is disabled", "Reconciling"⟩
  event.publish c

/-- Reports that the TLS material is missing, and fails with that, to be tried again soon. Any
other failure is passed on. -/
def reportMissing {α : Type} (c : Cluster) (failure : Failure) : Program Failure α := do
  match failure.missingMaterial? with
  | none => .fail failure
  | some cause =>
    let message := cause.message?.getD ""
    Status.setCondition c tlsCondition ⟨false, .tlsConfigInvalid, message⟩
    Status.updatePhase c .pending (some message)
    .fail (.retry cause missingMaterialRequeue)

/-- The change of the document that TLS asks for. -/
def tlsChange (c : Cluster) (d : TlsDescriptor) : Program Failure Change := do
  match ← (Material.change d).attempt with
  | .ok change => pure change
  | .error failure => reportMissing c failure

/-- Reports how far the workload is, once the marker is right. -/
def reportProgress (c : Cluster) (d : TlsDescriptor) (rolledOut : Bool) (version : Int64) :
    Program Failure Action := do
  Status.setCondition c tlsCondition (d.report d.mode)
  Program.count (.tlsMode (c.metadata.namespace.getD "") c.name d.mode)
  if rolledOut then
    Status.recordMembers c c.spec.members version
    Status.setCondition c readyCondition ⟨true, .membersReady, "All members are ready"⟩
    Status.updatePhase c .running none
    pure (.requeue idleRequeue)
  else
    Status.setCondition c readyCondition
      ⟨false, .membersUpdating, "Waiting for all members to run the latest template"⟩
    Status.updatePhase c .creating (some "members are being updated")
    pure (.requeue rolloutRequeue)

/-- Brings the world up to what a cluster asks for. -/
def reconcile (c : Cluster) (images : Images) : Program Failure Action := do
  if c.status.isNone then
    Status.updatePhase c .pending none
    Status.updatePhase c .creating none
  let ns ← .ofExcept c.namespaced
  let d := c.descriptor ns
  let change ← c.tlsChange d
  let document ← Configuration.push c change.apply
  let statefulSet ← Deployment.apply c images
  let rolledOut := statefulSet.rolledOut c.spec.members
  match MarkerTransition.decide d.enabled d.rolloutComplete
      (rolledOut && statefulSet.carriesTls) with
  | .set =>
    c.markRollout true
    pure (.requeue markerRequeue)
  | .clear =>
    c.markRollout false
    c.reportProgress d rolledOut document.version
  | .keep => c.reportProgress d rolledOut document.version

/-- What remains to be done for a deleted cluster. What it owns goes away with it. -/
def cleanup (c : Cluster) : Program Failure Action := do
  Program.count (.forget (c.metadata.namespace.getD "") c.name)
  Event.publish ⟨"DeleteRequested", String.join ["Delete `", c.name, "`"], "Deleting"⟩ c
  pure .awaitChange

/-! ### The finalizer -/

/-- The place of the finalizers in a cluster. -/
def finalizersPath : List String := ["metadata", "finalizers"]

/-- The operations that put the finalizer on a cluster, if the finalizers are still the same. -/
def addFinalizer : List String → List PatchOperation
  | [] =>
    [.test finalizersPath .null, .add finalizersPath (.array [.string finalizerName])]
  | finalizers =>
    [.test finalizersPath (.array (finalizers.map .string)),
     .add (finalizersPath ++ ["-"]) (.string finalizerName)]

/-- The operations that take the finalizer of a given rank away, if it is still there. -/
def removeFinalizer (i : Nat) : List PatchOperation :=
  let path := finalizersPath ++ [toString i]
  [.test path (.string finalizerName), .remove path]

/-- Does the work that the state of the finalizer calls for. -/
def finalize (c : Cluster) («namespace» : String) (images : Images) :
    Program FinalizerFailure Action := do
  let finalizers := c.metadata.finalizers.getD []
  let deleting := c.metadata.deletionTimestamp.isSome
  match finalizers.idxOf? finalizerName, deleting with
  | some _, false => (c.reconcile images).mapFailure .apply
  | some i, true =>
    let some name := c.metadata.name | .fail .unnamed
    let action ← c.cleanup.mapFailure .cleanup
    let _ ← (Client.patch resource «namespace» name (removeFinalizer i)).mapFailure .remove
    pure action
  | none, false =>
    let some name := c.metadata.name | .fail .unnamed
    let _ ← (Client.patch resource «namespace» name (addFinalizer finalizers)).mapFailure .add
    pure .awaitChange
  | none, true => pure .awaitChange

/-- What the work around the finalizer comes to: a failure that asks for another try is no
failure. -/
def finalizeOutcome : Except FinalizerFailure Action → Except Failure Action
  | .ok action => .ok action
  | .error (.apply (.retry _ milliseconds)) => .ok (.requeue milliseconds)
  | .error failure => .error (.plain (.finalizer failure))

/-- Reconciles a cluster, guarded by its finalizer, and measures it. -/
def reconcileGuarded (c : Cluster) (images : Images) : Program Failure Action := do
  Program.count (.reconciliation "mongodbcluster")
  let ns ← .ofExcept c.namespaced
  .ofExcept (finalizeOutcome (← (c.finalize ns images).attempt))

end Cluster

end ReplicaSetOperator
