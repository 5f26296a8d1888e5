import ReplicaSetOperator.Cluster.Definition

/-!
# Command line

Prints the definition of clusters, ready to be given to a server of the API.
-/

/-- Prints the definition of clusters. -/
def main : IO Unit :=
  IO.print ReplicaSetOperator.Definition.text
