import ReplicaSetOperator.Operator.Metrics

/-!
# What is left of a forgotten cluster

A cluster that is gone is to leave nothing behind in what is gathered, and nothing of any other
cluster is to go with it (`Metrics.Forgets`).

What really goes are the series of one family, of the TLS modes, and there all those that are found
where the one of the cluster is (`Metrics.gathers_forget`). So there are two ways to miss the aim:
the failures of a cluster are counted under its name in another family, and two clusters can have
one series. `Metrics.forget_tells` is that there is no third one, after whatever has been counted.
-/

namespace ReplicaSetOperator

namespace SeriesTable

/-- Label values that an alteration leaves are those before, or those that it was about. -/
theorem values_alter {values : List String} {f : Nat → Nat} {t : SeriesTable}
    {entry : List String × Nat} (mem : entry ∈ t.alter values f) :
    entry.1 = values ∨ ∃ n, (entry.1, n) ∈ t := by
  induction t with
  | nil =>
    obtain rfl := List.mem_singleton.1 mem
    exact .inl rfl
  | cons first rest ih =>
    obtain ⟨known, n⟩ := first
    rw [alter] at mem
    split at mem
    · -- the number has changed, and the values have not
      rcases List.mem_cons.1 mem with rfl | mem
      · exact .inr ⟨n, List.mem_cons_self⟩
      · exact .inr ⟨entry.2, List.mem_cons_of_mem _ mem⟩
    · rcases List.mem_cons.1 mem with rfl | mem
      · exact .inr ⟨n, List.mem_cons_self⟩
      · rcases ih mem with same | ⟨n', there⟩
        · exact .inl same
        · exact .inr ⟨n', List.mem_cons_of_mem _ there⟩

/-- What is left are the entries with other keys. -/
theorem mem_drop {values : List String} {t : SeriesTable} {entry : List String × Nat} :
    entry ∈ t.drop values ↔ entry ∈ t ∧ key entry.1 ≠ key values := by
  rw [drop, List.mem_filter, bne_iff_ne]

end SeriesTable

/-- The series of a table stand for its entries. -/
theorem Series.mem_ofTable {names : List String} {kind : SeriesKind} {t : SeriesTable}
    {s : Series} :
    s ∈ ofTable names kind t ↔ ∃ entry ∈ t, ofValues names kind entry.1 entry.2 = s := by
  rw [ofTable, (perm_sortBy _ _).mem_iff, List.mem_map]

namespace Metrics

/-! ### What is gathered -/

/-- The name of the family of TLS modes. -/
def modeFamily : String := "mongodb_cluster_tls_mode"

/-- The name of the family of failures. -/
def failureFamily : String := "controller_reconciliation_errors_total"

/-- A series is gathered in the family of a name. -/
def Gathers (m : Metrics) (family : String) (s : Series) : Prop :=
  ∃ f ∈ m.families, f.name = family ∧ s ∈ f.series

/-- A series of a family is labelled with a cluster. Modes have its namespace and its name, and
failures have the name only. -/
def Speaks (family : String) (s : Series) («namespace» cluster : String) : Prop :=
  family = modeFamily ∧ s.labels.lookup "namespace" = some «namespace» ∧
      s.labels.lookup "cluster" = some cluster ∨
    family = failureFamily ∧ s.labels.lookup "instance" = some cluster

/-- After a cluster has been forgotten, no series is labelled with it, and the series of all others
are the ones that were there before. -/
structure Forgets (m : Metrics) («namespace» cluster : String) : Prop where
  gone : ∀ family s, (m.record (.forget «namespace» cluster)).Gathers family s →
    ¬ Speaks family s «namespace» cluster
  kept : ∀ family s ns' cluster', (ns' ≠ «namespace» ∨ cluster' ≠ cluster) →
    Speaks family s ns' cluster' →
      ((m.record (.forget «namespace» cluster)).Gathers family s ↔ m.Gathers family s)

/-- What has been counted in all. -/
def counted (calls : List Measurement) : Metrics := calls.foldl record {}

variable {m : Metrics} {family «namespace» cluster ns' cluster' : String} {s : Series}

/-- A family without series is left out, which makes no difference. -/
theorem gathers_iff :
    m.Gathers family s ↔ ∃ f ∈ m.allFamilies, f.name = family ∧ s ∈ f.series := by
  refine exists_congr fun f => ?_
  rw [families, List.mem_filter]
  constructor
  · rintro ⟨⟨mem, -⟩, isNamed, there⟩
    exact ⟨mem, isNamed, there⟩
  · rintro ⟨mem, isNamed, there⟩
    refine ⟨⟨mem, ?_⟩, isNamed, there⟩
    cases isEmpty : f.series with
    | nil => rw [isEmpty] at there; cases there
    | cons => rfl

/-- What is gathered of the modes are the entries of that gauge. -/
theorem gathers_mode : m.Gathers modeFamily s ↔
    ∃ entry ∈ m.tlsModes,
      Series.ofValues ["namespace", "cluster"] .gauge entry.1 entry.2 = s := by
  rw [gathers_iff, ← Series.mem_ofTable]
  simp [allFamilies, modeFamily]

/-- Other families do not change when a cluster is forgotten. -/
theorem gathers_forget_of_ne (other : family ≠ modeFamily) :
    (m.record (.forget «namespace» cluster)).Gathers family s ↔ m.Gathers family s := by
  have apart : "mongodb_cluster_tls_mode" ≠ family := Ne.symm other
  rw [gathers_iff, gathers_iff]
  simp [allFamilies, record, apart]

/-! ### Modes -/

/-- Every mode is that of a cluster by its namespace and its name. -/
def Placed (m : Metrics) : Prop := ∀ entry ∈ m.tlsModes, ∃ ns cluster, entry.1 = [ns, cluster]

/-- What is counted leaves it so. -/
theorem Placed.record (h : m.Placed) (measurement : Measurement) :
    (m.record measurement).Placed := by
  cases measurement with
  | reconciliation controller => exact h
  | failure cluster label => exact h
  | tlsMode ns cluster mode =>
    intro entry mem
    rcases SeriesTable.values_alter mem with same | ⟨n, there⟩
    · exact ⟨ns, cluster, same⟩
    · exact h (entry.1, n) there
  | «forget» ns cluster => exact fun entry mem => h entry (SeriesTable.mem_drop.1 mem).1

/-- Every entry of the gauge is about one cluster. -/
theorem placed_counted (calls : List Measurement) : (counted calls).Placed := by
  have run (m : Metrics) (h : m.Placed) : (calls.foldl Metrics.record m).Placed := by
    induction calls generalizing m with
    | nil => exact h
    | cons call calls ih => exact ih _ (h.record call)
  exact run {} fun entry mem => absurd mem List.not_mem_nil

/-- Two labels of a series change places if their names are not in order. -/
theorem labels_ofValues {first second : String} (order : ¬ first < second) (kind : SeriesKind)
    (x y : String) (n : Nat) :
    (Series.ofValues [first, second] kind [x, y] n).labels = [(second, y), (first, x)] :=
  if_neg fun before => order (of_decide_eq_true before)

/-- The series of a mode is labelled with the cluster that it is of, and with no other. -/
theorem speaks_mode {kind : SeriesKind} {n : Nat} :
    Speaks modeFamily (Series.ofValues ["namespace", "cluster"] kind [«namespace», cluster] n)
      ns' cluster' ↔ ns' = «namespace» ∧ cluster' = cluster := by
  have labels : (Series.ofValues ["namespace", "cluster"] kind [«namespace», cluster] n).labels =
      [("cluster", cluster), ("namespace", «namespace»)] :=
    labels_ofValues (by decide) kind «namespace» cluster n
  have apart : modeFamily ≠ failureFamily := by decide
  rw [Speaks, labels]
  constructor
  · rintro (⟨-, ns, name⟩ | ⟨same, -⟩)
    · exact ⟨(Option.some.inj ns).symm, (Option.some.inj name).symm⟩
    · exact absurd same apart
  · rintro ⟨rfl, rfl⟩
    exact .inl ⟨rfl, rfl, rfl⟩

/-- A cluster that is forgotten takes the modes along that are found where its own is. All else
stays. -/
theorem gathers_forget (h : m.Placed) :
    (m.record (.forget «namespace» cluster)).Gathers family s ↔ m.Gathers family s ∧
      ¬ ∃ ns' cluster', family = modeFamily ∧ Speaks family s ns' cluster' ∧
        SeriesTable.key [ns', cluster'] = SeriesTable.key [«namespace», cluster] := by
  by_cases isMode : family = modeFamily
  · -- the series of modes are the entries of the table, from which some are dropped
    subst isMode
    rw [gathers_mode, gathers_mode]
    constructor
    · rintro ⟨⟨values, n⟩, mem, rfl⟩
      obtain ⟨there, apart⟩ := SeriesTable.mem_drop.1 mem
      obtain ⟨ns, name, rfl⟩ := h _ there
      refine ⟨⟨_, there, rfl⟩, ?_⟩
      rintro ⟨ns', cluster', -, speaks, same⟩
      obtain ⟨rfl, rfl⟩ := speaks_mode.1 speaks
      exact apart same
    · rintro ⟨⟨⟨values, n⟩, there, rfl⟩, spared⟩
      obtain ⟨ns, name, rfl⟩ := h _ there
      refine ⟨_, SeriesTable.mem_drop.2 ⟨there, fun same => spared ?_⟩, rfl⟩
      exact ⟨ns, name, rfl, speaks_mode.2 ⟨rfl, rfl⟩, same⟩
  · rw [gathers_forget_of_ne isMode]
    exact ⟨fun there => ⟨there, fun ⟨_, _, same, _⟩ => isMode same⟩, And.left⟩

/-- Whatever has been counted, a cluster that is forgotten takes those modes along that are found
where its own is, and nothing else. So nothing of it is left exactly if none of its failures is
gathered, or of another cluster of its name, and nothing of another cluster goes with it exactly if
no mode of another cluster is found where its own is. -/
theorem forget_tells (calls : List Measurement) («namespace» cluster : String) :
    (∀ family s, ((counted calls).record (.forget «namespace» cluster)).Gathers family s ↔
      (counted calls).Gathers family s ∧
        ¬ ∃ ns' cluster', family = modeFamily ∧ Speaks family s ns' cluster' ∧
          SeriesTable.key [ns', cluster'] = SeriesTable.key [«namespace», cluster]) ∧
    ((counted calls).Forgets «namespace» cluster ↔
      (∀ s, (counted calls).Gathers failureFamily s →
        ¬ Speaks failureFamily s «namespace» cluster) ∧
      ∀ s ns' cluster', (counted calls).Gathers modeFamily s → Speaks modeFamily s ns' cluster' →
        SeriesTable.key [ns', cluster'] = SeriesTable.key [«namespace», cluster] →
          ns' = «namespace» ∧ cluster' = cluster) := by
  have left (family : String) (s : Series) :=
    @gathers_forget (counted calls) family «namespace» cluster s (placed_counted calls)
  have apart : failureFamily ≠ modeFamily := by decide
  refine ⟨left, fun forgets => ⟨fun s there => ?_, fun s ns' cluster' there speaks same => ?_⟩, ?_⟩
  · exact forgets.gone _ s ((gathers_forget_of_ne apart).2 there)
  · -- the mode of another cluster would have to stay, and goes
    refine Decidable.byContradiction fun other => ?_
    have distinct : ns' ≠ «namespace» ∨ cluster' ≠ cluster := by
      rwa [Decidable.not_and_iff_or_not] at other
    have kept := (forgets.kept _ s ns' cluster' distinct speaks).2 there
    exact ((left _ s).1 kept).2 ⟨ns', cluster', rfl, speaks, same⟩
  · rintro ⟨noFailure, noOther⟩
    constructor
    · -- what is left of the cluster is no mode, so it would be a failure
      intro family s there speaks
      obtain ⟨before, spared⟩ := (left family s).1 there
      rcases speaks with speaks | ⟨rfl, speaks⟩
      · exact spared ⟨«namespace», cluster, speaks.1, .inl speaks, rfl⟩
      · exact noFailure s before (.inr ⟨rfl, speaks⟩)
    · -- only a mode of the cluster itself is found where its own is
      intro family s ns' cluster' distinct speaks
      refine (left family s).trans ⟨And.left, fun there => ⟨there, ?_⟩⟩
      rintro ⟨ns₁, cluster₁, rfl, speaks₁, same⟩
      obtain ⟨rfl, rfl⟩ := noOther s ns₁ cluster₁ there speaks₁ same
      -- a mode is labelled with one cluster only
      obtain ⟨⟨values, n⟩, mem, rfl⟩ := gathers_mode.1 there
      obtain ⟨ns, name, rfl⟩ := placed_counted calls _ mem
      obtain ⟨rfl, rfl⟩ := speaks_mode.1 speaks
      obtain ⟨rfl, rfl⟩ := speaks_mode.1 speaks₁
      exact distinct.elim (· rfl) (· rfl)

/-- A failure of a cluster is still gathered after the cluster has been forgotten. -/
theorem exists_unforgotten :
    ¬ (counted [.tlsMode "prod" "db" .required, .failure "db" "kubeerror"]).Forgets "prod"
      "db" := by
  intro forgets
  have left : ((counted [.tlsMode "prod" "db" .required, .failure "db" "kubeerror"]).record
      (.forget "prod" "db")).Gathers failureFamily
        (Series.ofValues ["instance", "error"] .counter ["db", "kubeerror"] 1) := by
    rw [gathers_iff]
    exact ⟨_, .tail _ (.head _), rfl,
      Series.mem_ofTable.2 ⟨(["db", "kubeerror"], 1), .head _, rfl⟩⟩
  refine forgets.gone _ _ left (.inr ⟨rfl, ?_⟩)
  rw [labels_ofValues (by decide)]
  rfl

end Metrics

end ReplicaSetOperator
