import ReplicaSetOperator.Api.Program
import ReplicaSetOperator.Text.Fingerprint

/-!
# Metrics

What the operator counts: reconciliations and their durations, failures by cluster and cause, and
the TLS mode of every cluster. A series is found by the fingerprint of its label values, taken in
one after the other, so that label values that are equal when they are joined share one series. It
has the labels that it was begun with.

`Metrics.families` is what is gathered: families in the order of their names, each with its series
in the order of the label values, where labels stand in the order of their names. A family without
series is left out.
-/

namespace ReplicaSetOperator

/-- What the number of a series is. -/
inductive SeriesKind where
  | counter
  | gauge
  | observations
deriving DecidableEq, Inhabited

/-- One number with its labels. -/
structure Series where
  labels : List (String × String)
  kind : SeriesKind
  value : Nat
deriving DecidableEq, Inhabited

/-- The numbers of one name. -/
structure Family where
  name : String
  help : String
  series : List Series
deriving DecidableEq, Inhabited

/-- The label values of series, in the order in which the labels are declared, each with its
number. -/
abbrev SeriesTable := List (List String × Nat)

namespace SeriesTable

/-- What a series is found by. -/
def key (values : List String) : UInt64 :=
  (Bytes.ofText (String.join values)).fingerprint

/-- Changes the number of the series of some label values; it begins with zero. -/
def alter (values : List String) (f : Nat → Nat) : SeriesTable → SeriesTable
  | [] => [(values, f 0)]
  | (known, n) :: rest =>
    if key known = key values then (known, f n) :: rest else (known, n) :: alter values f rest

/-- Drops the series of some label values. -/
def drop (values : List String) (t : SeriesTable) : SeriesTable :=
  t.filter fun entry => key entry.1 != key values

/-- Label values that are equal when they are joined share one series. -/
theorem key_eq_of_join {v w : List String} (joined : String.join v = String.join w) :
    key v = key w := by
  rw [key, key, joined]

end SeriesTable

namespace Series

/-- Puts an item in front of the first one that it may precede. -/
def insertBy {α : Type} (precedes : α → α → Bool) (a : α) : List α → List α
  | [] => [a]
  | b :: rest => if precedes a b then a :: b :: rest else b :: insertBy precedes a rest

/-- The items of a list in order. -/
def sortBy {α : Type} (precedes : α → α → Bool) (items : List α) : List α :=
  items.foldr (insertBy precedes) []

/-- The series of label values, with the labels in the order of their names. -/
def ofValues (names : List String) (kind : SeriesKind) (values : List String) (n : Nat) :
    Series where
  labels := sortBy (fun a b => a.1 < b.1) (names.zip values)
  kind := kind
  value := n

/-- The values of the labels. -/
def values (s : Series) : List String := s.labels.map (·.2)

/-- The series of a table, in the order of their label values. -/
def ofTable (names : List String) (kind : SeriesKind) (t : SeriesTable) : List Series :=
  sortBy (fun a b => a.values < b.values) (t.map fun entry => ofValues names kind entry.1 entry.2)

theorem perm_insertBy {α : Type} (precedes : α → α → Bool) (a : α) (l : List α) :
    (insertBy precedes a l).Perm (a :: l) := by
  induction l with
  | nil => exact .refl _
  | cons b l ih =>
    rw [insertBy]
    split
    · exact .refl _
    · exact (ih.cons b).trans (.swap a b l)

/-- Sorting loses nothing and adds nothing. -/
theorem perm_sortBy {α : Type} (precedes : α → α → Bool) (l : List α) :
    (sortBy precedes l).Perm l := by
  induction l with
  | nil => exact .refl _
  | cons a l ih => exact (perm_insertBy precedes a _).trans (ih.cons a)

end Series

/-- Everything that has been counted. -/
structure Metrics where
  reconciliations : Nat := 0
  /-- By controller. -/
  durations : SeriesTable := []
  /-- By cluster and cause. -/
  failures : SeriesTable := []
  /-- By namespace and cluster. -/
  tlsModes : SeriesTable := []
deriving DecidableEq, Inhabited

/-- The number of a mode. -/
def TlsMode.number : TlsMode → Nat
  | .disabled => 0
  | .preferred => 1
  | .required => 2

namespace Metrics

/-- Counts a measurement. A mode replaces the one before it, and a cluster that is gone has no
mode any more. -/
def record (metrics : Metrics) : Measurement → Metrics
  | .reconciliation controller =>
    { metrics with
      reconciliations := metrics.reconciliations + 1
      durations := metrics.durations.alter [controller] (· + 1) }
  | .tlsMode ns cluster mode =>
    { metrics with tlsModes := metrics.tlsModes.alter [ns, cluster] fun _ => mode.number }
  | .forget ns cluster => { metrics with tlsModes := metrics.tlsModes.drop [ns, cluster] }
  | .failure cluster label =>
    { metrics with failures := metrics.failures.alter [cluster, label] (· + 1) }

/-- The names of the families. -/
def names : List String :=
  ["controller_reconcile_duration_seconds", "controller_reconciliation_errors_total",
   "mongodb_cluster_tls_mode", "reconciliations_total"]

/-- The families, those without series included. -/
def allFamilies (metrics : Metrics) : List Family :=
  [⟨"controller_reconcile_duration_seconds", "The duration of reconcile to complete in seconds",
     Series.ofTable ["instance"] .observations metrics.durations⟩,
   ⟨"controller_reconciliation_errors_total", "reconciliation errors",
     Series.ofTable ["instance", "error"] .counter metrics.failures⟩,
   ⟨"mongodb_cluster_tls_mode",
     "TLS mode pushed to the members (0 disabled, 1 preferred, 2 required)",
     Series.ofTable ["namespace", "cluster"] .gauge metrics.tlsModes⟩,
   ⟨"reconciliations_total", "reconciliations", [⟨[], .counter, metrics.reconciliations⟩]⟩]

/-- What is gathered. -/
def families (metrics : Metrics) : List Family :=
  metrics.allFamilies.filter fun f => !f.series.isEmpty

end Metrics

/-- The names that families have been registered under. -/
abbrev Registry := List String

/-- Why families were not registered. -/
inductive RegistryError where
  | alreadyRegistered (name : String)
deriving DecidableEq, Inhabited

/-- Registers the families of the metrics, each name once. -/
def Registry.register (r : Registry) : Except RegistryError Registry :=
  Metrics.names.foldlM
    (fun r name => if name ∈ r then .error (.alreadyRegistered name) else .ok (name :: r)) r

end ReplicaSetOperator
