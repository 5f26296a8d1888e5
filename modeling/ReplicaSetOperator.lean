import ReplicaSetOperator.Main
import ReplicaSetOperator.Operator.Reconcile
import ReplicaSetOperator.Proofs.Operator.ConcurrentPushes
import ReplicaSetOperator.Proofs.Operator.ConcurrentSyntheses
import ReplicaSetOperator.Server.World
import ReplicaSetOperator.Proofs.Text.Times
import ReplicaSetOperator.Proofs.Cluster.Workload
import ReplicaSetOperator.Proofs.Operator.Agreement
import ReplicaSetOperator.Proofs.Operator.Convergence
import ReplicaSetOperator.Proofs.Operator.TlsFiles
import ReplicaSetOperator.Proofs.Operator.MissingMaterial
import ReplicaSetOperator.Proofs.Operator.StagedRollout
import ReplicaSetOperator.Proofs.Operator.InterruptedReset
import ReplicaSetOperator.Proofs.Operator.Recognition
import ReplicaSetOperator.Proofs.Operator.StatusCalls
import ReplicaSetOperator.Proofs.Operator.Chronicles
import ReplicaSetOperator.Proofs.Operator.Lifetimes
import ReplicaSetOperator.Proofs.Automation.Switches
import ReplicaSetOperator.Proofs.Automation.Chains
import ReplicaSetOperator.Proofs.Object.ConditionHistory
import ReplicaSetOperator.Proofs.Operator.Pods
import ReplicaSetOperator.Proofs.Automation.Consistency
import ReplicaSetOperator.Proofs.Cluster.VolumePlans
import ReplicaSetOperator.Proofs.Tls.FileNames
import ReplicaSetOperator.Proofs.Operator.Scaling
import ReplicaSetOperator.Proofs.Operator.Hosts
import ReplicaSetOperator.Proofs.Operator.Forgetting
import ReplicaSetOperator.Proofs.Operator.Deletion
import ReplicaSetOperator.Proofs.Operator.FittingStatus
