import ReplicaSetOperator.Proofs.Operator.Scaling

/-!
# Hosts of different clusters

The host of a member is made of the name of its cluster, its rank, the name once more and the
namespace. Nothing marks where one ends and the next begins: the name of a cluster may hold dots,
hyphens and digits, and so it may look like another name with a rank behind it. Yet a host belongs
to one member of one cluster only (`Cluster.host_eq_iff`). The namespace is what follows the last
dot in front of the domain, and what is before it has the name on both sides of the rank
(`eq_of_mirrored`).

`Cluster.hosts_identify` is that no host stands in the lists or the documents of two clusters.
-/

namespace ReplicaSetOperator

/-! ### Texts that are put together -/

/-- What follows the last of some marks begins at one place only. -/
theorem append_cons_inj_of_last {α : Type} {mark : α} {front front' back back' : List α}
    (last : mark ∉ back) (last' : mark ∉ back')
    (same : front ++ mark :: back = front' ++ mark :: back') : front = front' ∧ back = back' := by
  rcases List.append_eq_append_iff.1 same with ⟨w, rfl, rest⟩ | ⟨w, rfl, rest⟩
  · cases w with
    | nil => exact ⟨(List.append_nil _).symm, (List.cons.inj rest).2⟩
    | cons a w => exact absurd (by simp [(List.cons.inj rest).2]) last
  · cases w with
    | nil => exact ⟨List.append_nil _, (List.cons.inj rest).2.symm⟩
    | cons a w => exact absurd (by simp [(List.cons.inj rest).2]) last'

section

variable {name name' number number' : List Char}

/-- Where a text stands before and after a number, no longer text can do so too. -/
theorem length_le_of_mirrored (plain : '-' ∉ number)
    (same : name ++ '-' :: (number ++ '.' :: name) =
      name' ++ '-' :: (number' ++ '.' :: name')) : name'.length ≤ name.length := by
  refine Nat.le_of_not_lt fun longer => ?_
  -- the longer text begins with the shorter one and with the hyphen after that
  have front : name <+: name' ++ '-' :: (number' ++ '.' :: name') :=
    same ▸ List.prefix_append _ _
  obtain ⟨w, rfl⟩ :=
    List.prefix_of_prefix_length_le front (List.prefix_append _ _) (Nat.le_of_lt longer)
  rw [List.append_assoc, List.append_cancel_left_eq] at same
  cases w with
  | nil => simp at longer
  | cons a w =>
    have rest : number ++ '.' :: name = w ++ '-' :: (number' ++ '.' :: (name ++ a :: w)) :=
      (List.cons.inj same).2
    -- its own hyphen stands where the number of the other one goes on
    have inside : w.length < number.length := by
      have lengths := congrArg List.length rest
      simp only [List.length_append, List.length_cons] at lengths
      omega
    have there := congrArg (·[w.length]?) rest
    simp only [List.getElem?_append_left inside, List.getElem?_append_right (Nat.le_refl _),
      Nat.sub_self, List.getElem?_cons_zero] at there
    exact plain (List.mem_of_getElem? there)

/-- A text on both sides of a number and the number can be told from the whole, if a hyphen follows
the first and none is in the number. -/
theorem eq_of_mirrored (plain : '-' ∉ number) (plain' : '-' ∉ number')
    (same : name ++ '-' :: (number ++ '.' :: name) =
      name' ++ '-' :: (number' ++ '.' :: name')) : name = name' ∧ number = number' := by
  have lengths : name.length = name'.length :=
    Nat.le_antisymm (length_le_of_mirrored plain' same.symm) (length_le_of_mirrored plain same)
  obtain ⟨rfl, rest⟩ := List.append_inj same lengths
  exact ⟨rfl, List.append_cancel_right (List.cons.inj rest).2⟩

end

/-- A number has no hyphen in it. -/
theorem hyphen_notMem_toString (n : Nat) : '-' ∉ (toString n).toList := by
  rw [Nat.toString_eq_repr, Nat.toList_repr]
  intro mem
  cases Nat.isDigit_of_mem_toDigits (by decide) (by decide) mem

/-! ### Hosts -/

namespace Cluster

variable {c c' : Cluster} {«namespace» ns' : String} {i j : Nat}

/-- The characters of a host, grouped by what they are made of. -/
theorem toList_host (c : Cluster) («namespace» : String) (i : Nat) :
    (c.host «namespace» i).toList =
      (((c.name.toList ++ '-' :: ((toString i).toList ++ '.' :: c.name.toList)) ++
        "-svc".toList) ++ '.' :: «namespace».toList) ++ ".svc.cluster.local".toList := by
  have parts : c.host «namespace» i = c.name ++ "-" ++ toString i ++ "." ++ (c.name ++ "-svc") ++
      "." ++ «namespace» ++ ".svc.cluster.local" := rfl
  simp [parts]

/-- A host belongs to one member of one cluster, whatever the clusters are called. -/
theorem host_eq_iff (plain : '.' ∉ «namespace».toList) (plain' : '.' ∉ ns'.toList) :
    c.host «namespace» i = c'.host ns' j ↔ c.name = c'.name ∧ «namespace» = ns' ∧ i = j := by
  constructor
  · intro same
    have texts := congrArg String.toList same
    rw [toList_host, toList_host] at texts
    -- the namespaces are behind the last dots, and in front of them is what the services are called
    obtain ⟨members, namespaces⟩ :=
      append_cons_inj_of_last plain plain' (List.append_cancel_right texts)
    obtain ⟨names, ranks⟩ := eq_of_mirrored (hyphen_notMem_toString i) (hyphen_notMem_toString j)
      (List.append_cancel_right members)
    exact ⟨String.toList_inj.1 names, String.toList_inj.1 namespaces,
      Nat.toString_inj.1 (String.toList_inj.1 ranks)⟩
  · rintro ⟨names, rfl, rfl⟩
    rw [host, host, serviceName, serviceName, names]

end Cluster

namespace Configuration

variable {c : Cluster} {«namespace» : String} {mode : TlsMode} {file : String} {d : Document}
  {p : Process}

/-- Every process of a document has the name and the host of a member. -/
theorem Built.exists_rank (h : Built c «namespace» mode file d) (mem : p ∈ d.processes) :
    ∃ i : Nat, p.name = s!"{c.name}-{i}" ∧ p.hostName = c.host «namespace» i := by
  obtain ⟨previous, build⟩ := h
  rw [processes_of_build build] at mem
  obtain ⟨i, -, rfl⟩ := List.mem_map.1 mem
  exact ⟨i, rfl, rfl⟩

end Configuration

namespace Cluster

open ReplicaSetOperator.Configuration (Built)

variable {c c' : Cluster} {«namespace» ns' : String}

/-- Members have the same host exactly if their clusters have the same name and namespace and they
have the same rank. So no document of one cluster names a host that one of another cluster names. -/
theorem hosts_identify (plain : '.' ∉ «namespace».toList) (plain' : '.' ∉ ns'.toList) :
    (∀ (i j : Nat) (h h' : String), (c.hosts «namespace»)[i]? = some h →
      (c'.hosts ns')[j]? = some h' →
        (h = h' ↔ c.name = c'.name ∧ «namespace» = ns' ∧ i = j)) ∧
    ∀ (mode mode' : TlsMode) (file file' : String) (d d' : Document),
      Built c «namespace» mode file d → Built c' ns' mode' file' d' →
        ∀ p ∈ d.processes, ∀ p' ∈ d'.processes, p.hostName = p'.hostName →
          c.name = c'.name ∧ «namespace» = ns' ∧ p.name = p'.name := by
  refine ⟨fun i j h h' there there' => ?_, ?_⟩
  · rw [hosts, List.getElem?_map, Option.map_eq_some_iff] at there there'
    obtain ⟨_, isRank, rfl⟩ := there
    obtain ⟨_, isRank', rfl⟩ := there'
    obtain ⟨inside, rfl⟩ := List.getElem?_eq_some_iff.1 isRank
    obtain ⟨inside', rfl⟩ := List.getElem?_eq_some_iff.1 isRank'
    rw [List.getElem_range, List.getElem_range]
    exact host_eq_iff plain plain'
  · intro mode mode' file file' d d' built built' p mem p' mem' same
    -- name and host of a process come from its rank
    obtain ⟨i, called, placed⟩ := built.exists_rank mem
    obtain ⟨j, called', placed'⟩ := built'.exists_rank mem'
    rw [placed, placed'] at same
    obtain ⟨names, namespaces, rfl⟩ := (host_eq_iff plain plain').1 same
    exact ⟨names, namespaces, by rw [called, called', names]⟩

/-- A cluster, in an example, that is called as if it was a member of another one. -/
def lookalike : Cluster :=
  { joining with metadata := { joining.metadata with name := some "db-0.db" } }

/-- The document of the one names no host that the document of the other names. -/
theorem hosts_identify_lookalike : ∃ d d',
    '.' ∉ "prod".toList ∧
    (joining.hosts "prod")[0]? = some "db-0.db-svc.prod.svc.cluster.local" ∧
    (lookalike.hosts "prod")[0]? = some "db-0.db-0.db-0.db-svc.prod.svc.cluster.local" ∧
    Built joining "prod" .required "a.pem" d ∧ Built lookalike "prod" .disabled "" d' ∧
    d.processes.length = 3 ∧ d'.processes.length = 3 ∧
    ∀ p ∈ d.processes, ∀ p' ∈ d'.processes, p.hostName ≠ p'.hostName := by
  have plain : '.' ∉ "prod".toList := by decide
  have apart : joining.name ≠ lookalike.name := by decide
  have builds (c : Cluster) (mode : TlsMode) (file : String) :
      ∃ d, Built c "prod" mode file d ∧ d.processes.length = c.spec.members.toInt.toNat := by
    rcases @Configuration.overflows_or_exists_build c "prod" mode file none with
      ⟨⟨p, there, -⟩, -⟩ | ⟨d, build, -⟩
    · cases there
    · exact ⟨d, ⟨none, build⟩, Configuration.length_processes_of_build build⟩
  obtain ⟨d, built, many⟩ := builds joining .required "a.pem"
  obtain ⟨d', built', many'⟩ := builds lookalike .disabled ""
  obtain ⟨-, documents⟩ := @hosts_identify joining lookalike "prod" "prod" plain plain
  refine ⟨d, d', plain, by decide, by decide, built, built', many, many', ?_⟩
  intro p mem p' mem' same
  exact apart (documents _ _ _ _ d d' built built' p mem p' mem' same).1

end Cluster

end ReplicaSetOperator
