import ReplicaSetOperator.Automation.Document

/-!
# The rollout of TLS

TLS is turned on in two phases. While the rollout marker is absent the material is only mounted
and the members run without TLS; once it is there they all switch to the wanted mode together.
The marker is set when every member carries the material, and cleared when TLS is turned off.
-/

namespace ReplicaSetOperator

/-- The mode that every member has to run. -/
def TlsMode.resolve (enabled optional rolloutComplete : Bool) : TlsMode :=
  if !enabled || !rolloutComplete then .disabled
  else if optional then .preferred
  else .required

/-- What happens to the rollout marker. -/
inductive MarkerTransition where
  | keep
  | set
  | clear
deriving DecidableEq, Inhabited

/-- What happens to the marker, given whether TLS is wanted, whether the marker is there, and
whether every member has been restarted with the material. -/
def MarkerTransition.decide (enabled rolloutComplete membersCarryMaterial : Bool) :
    MarkerTransition :=
  if enabled && !rolloutComplete && membersCarryMaterial then .set
  else if !enabled && rolloutComplete then .clear
  else .keep

end ReplicaSetOperator
