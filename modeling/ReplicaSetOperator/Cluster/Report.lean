import ReplicaSetOperator.Tls.Descriptor

/-!
# What a status says

The phases of a cluster, the conditions it reports, and the reasons they give.
`TlsDescriptor.report` says where the rollout of TLS stands.
-/

namespace ReplicaSetOperator

/-- The state of a cluster as a whole. -/
inductive Phase where
  | pending
  | creating
  | running
deriving DecidableEq, Inhabited

/-- The name of a phase. -/
def Phase.label : Phase → String
  | .pending => "Pending"
  | .creating => "Creating"
  | .running => "Running"

/-- Why a condition holds or not. -/
inductive Reason where
  | membersUpdating
  | membersReady
  | tlsDisabled
  | tlsStaged
  | tlsEnabled
  | tlsConfigInvalid
deriving DecidableEq, Inhabited

namespace Reason

/-- The name of a reason. -/
def label : Reason → String
  | .membersUpdating => "MembersUpdating"
  | .membersReady => "MembersReady"
  | .tlsDisabled => "TLSDisabled"
  | .tlsStaged => "TLSStaged"
  | .tlsEnabled => "TLSEnabled"
  | .tlsConfigInvalid => "TLSConfigInvalid"

/-- Every reason. -/
def all : List Reason :=
  [.membersUpdating, .membersReady, .tlsDisabled, .tlsStaged, .tlsEnabled, .tlsConfigInvalid]

end Reason

/-- The type of the condition that all members are ready. -/
def readyCondition : String := "Ready"

/-- The type of the condition that the members run with TLS. -/
def tlsCondition : String := "TLSConfigured"

/-- What a condition is to say. -/
structure Report where
  holds : Bool
  reason : Reason
  message : String
deriving DecidableEq, Inhabited

/-- Where the rollout of TLS stands when the members run a given mode. -/
def TlsDescriptor.report (d : TlsDescriptor) (mode : TlsMode) : Report :=
  if !d.enabled then ⟨false, .tlsDisabled, "TLS is disabled"⟩
  else
    match mode with
    | .disabled => ⟨false, .tlsStaged, "TLS material is being mounted on all members"⟩
    | mode => ⟨true, .tlsEnabled, "Members run TLS mode " ++ mode.label⟩

/-- The condition of a type that says what is to be reported, at a given time and generation. -/
def Report.condition (r : Report) (type : String) (now : Timestamp) (generation : Option Int64) :
    Condition where
  lastTransitionTime := now
  message := r.message
  observedGeneration := generation
  reason := r.reason.label
  status := if r.holds then "True" else "False"
  type := type

end ReplicaSetOperator
