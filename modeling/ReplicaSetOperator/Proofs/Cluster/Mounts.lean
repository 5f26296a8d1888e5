import ReplicaSetOperator.Proofs.Cluster.Workload

/-!
# What the containers mount

A container mounts volumes by their names, which are those of its pod or of the claims by which a
stateful set gives every pod volumes of its own. Nothing in the format ties the two together. A pod
is `PodSpec.Complete` if no two volumes have one name and every mount leads to one of them.

A plan of new volumes that mounts nothing else keeps that (`VolumePlan.Fresh.complete_applyTo`), and
it leaves what the containers mounted before where it was (`VolumePlan.Fresh.paths_mountInto`,
`VolumePlan.Fresh.sees_applyTo`). So the pods of a cluster are complete with the TLS files and
without them (`Workload.complete_pod`).
-/

namespace ReplicaSetOperator

/-! ### Volumes and mounts -/

/-- The paths at which a container mounts a volume. -/
def Container.paths (k : Container) (volume : String) : List String :=
  ((k.volumeMounts.getD []).filter (·.name = volume)).map (·.mountPath)

/-- What follows a flag in the words of a command. -/
def Container.optionsIn (flag : String) (command : List String) : List String :=
  ((command.flatMap fun line => line.toList.splitOn ' ').filter (flag.toList.isPrefixOf ·)).map
    fun word => String.ofList (word.drop flag.length)

/-- What follows a flag in the command of a container. -/
def Container.options (k : Container) (flag : String) : List String :=
  optionsIn flag (k.command.getD [])

/-- The ports on which a container listens. -/
def Container.listens (k : Container) : List Int32 := (k.ports.getD []).map (·.containerPort)

namespace PodSpec

/-- The containers of a pod, of which those that run before the others come first. -/
def everyContainer (pod : PodSpec) : List Container := pod.initContainers.getD [] ++ pod.containers

/-- The names under which the containers of a pod can mount a volume, if there are claims of some
names besides. -/
def volumeNames (pod : PodSpec) (claims : List String) : List String :=
  (pod.volumes.getD []).map (·.name) ++ claims

/-- Every mount of a pod leads to one volume. -/
structure Complete (pod : PodSpec) (claims : List String) : Prop where
  distinct : (pod.volumeNames claims).Nodup
  mounted : ∀ k ∈ pod.everyContainer, ∀ m ∈ k.volumeMounts.getD [],
    m.name ∈ pod.volumeNames claims

end PodSpec

namespace Named

variable {α : Type} {name : α → String}

/-- An item that is put takes the place of its name, or a new one at the end. -/
theorem map_put (item : α) (xs : List α) : (put name item xs).map name =
    if name item ∈ xs.map name then xs.map name else xs.map name ++ [name item] := by
  induction xs with
  | nil => rfl
  | cons x xs ih =>
    rw [put]
    by_cases same : name x = name item
    · -- the item comes in the place of `x`, under the same name
      rw [if_pos same, List.map_cons, List.map_cons, same, if_pos List.mem_cons_self]
    · rw [if_neg same, List.map_cons, List.map_cons, ih]
      by_cases mem : name item ∈ xs.map name
      · rw [if_pos mem, if_pos (List.mem_cons_of_mem _ mem)]
      · have notMem : name item ∉ name x :: xs.map name := by
          rw [List.mem_cons, not_or]
          exact ⟨Ne.symm same, mem⟩
        rw [if_neg mem, if_neg notMem, List.cons_append]

/-- Only the name of the item can be new. -/
theorem mem_map_put {n : String} {item : α} {xs : List α} :
    n ∈ (put name item xs).map name ↔ n = name item ∨ n ∈ xs.map name := by
  rw [map_put]
  -- the name of the item is among the old ones already, or it comes behind them
  split
  · next mem =>
    constructor
    · intro there
      exact .inr there
    · rintro (rfl | there)
      · exact mem
      · exact there
  · rw [List.mem_append, List.mem_singleton, or_comm]

/-- The names after items have been put are theirs and those that were there before. -/
theorem mem_map_putAll {n : String} {items xs : List α} :
    n ∈ (putAll name items xs).map name ↔ n ∈ items.map name ∨ n ∈ xs.map name := by
  induction items generalizing xs with
  | nil => simp [putAll]
  | cons item rest ih =>
    have step : n ∈ (putAll name rest (put name item xs)).map name ↔
        n ∈ rest.map name ∨ n ∈ (put name item xs).map name := ih
    rw [mem_map_put, or_left_comm, ← or_assoc] at step
    rw [List.map_cons, List.mem_cons]
    exact step

/-- Items that are put make no name double. -/
theorem nodup_putAll {items xs : List α} (distinct : (xs.map name).Nodup) :
    ((putAll name items xs).map name).Nodup := by
  induction items generalizing xs with
  | nil => exact distinct
  | cons item rest ih =>
    show ((putAll name rest (put name item xs)).map name).Nodup
    refine ih ?_
    rw [map_put]
    split
    · exact distinct
    · next notMem =>
      -- a name that comes in at the end is new
      refine List.nodup_append.2 ⟨distinct, List.pairwise_singleton _ _, fun n there m isItem => ?_⟩
      obtain rfl := List.mem_singleton.1 isItem
      rintro rfl
      exact notMem there

/-- What has another name than the item stays as it is. -/
theorem filter_put {q : String → Bool} {item : α} {xs : List α}
    (apart : q (name item) = false) :
    (put name item xs).filter (q <| name ·) = xs.filter (q <| name ·) := by
  induction xs with
  | nil => simp [put, apart]
  | cons x xs ih =>
    rw [put]
    split
    · next same =>
      -- neither the item nor the one whose place it takes is looked for
      have other : q (name x) = false := same ▸ apart
      simp [apart, other]
    · rw [List.filter_cons, List.filter_cons, ih]

/-- What has another name than the items stays as it is. -/
theorem filter_putAll {q : String → Bool} {items xs : List α}
    (apart : ∀ item ∈ items, q (name item) = false) :
    (putAll name items xs).filter (q <| name ·) = xs.filter (q <| name ·) := by
  induction items generalizing xs with
  | nil => rfl
  | cons item rest ih =>
    obtain ⟨first, others⟩ := List.forall_mem_cons.1 apart
    have step : (putAll name rest (put name item xs)).filter (q <| name ·) =
        (put name item xs).filter (q <| name ·) := ih others
    rw [filter_put first] at step
    exact step

end Named

/-! ### Plans -/

namespace VolumePlan

/-- A plan mounts its own volumes only, and they are new where other names are taken. -/
structure Fresh (p : VolumePlan) (taken : List String) : Prop where
  own : ∀ m ∈ p.mounts, m.name ∈ p.volumes.map (·.name)
  new : ∀ n ∈ p.volumes.map (·.name), n ∉ taken

variable {p : VolumePlan} {pod : PodSpec} {names claims taken : List String}

/-- The containers keep whatever does not depend on what is mounted. -/
theorem map_containers_applyTo {β : Type} {f : Container → β}
    (keeps : ∀ k ∈ pod.containers, f (p.mountInto k) = f k) :
    (p.applyTo names pod).containers.map f = pod.containers.map f := by
  rw [applyTo, List.map_map]
  -- a container is mounted into or left alone
  refine List.map_congr_left fun k mem => ?_
  show f (if k.name ∈ names then p.mountInto k else k) = f k
  split
  · exact keeps k mem
  · rfl

/-- So do the containers that run before the others, into which nothing is mounted. -/
theorem map_everyContainer_applyTo {β : Type} {f : Container → β}
    (keeps : ∀ k ∈ pod.containers, f (p.mountInto k) = f k) :
    (p.applyTo names pod).everyContainer.map f = pod.everyContainer.map f := by
  rw [PodSpec.everyContainer, PodSpec.everyContainer, List.map_append, List.map_append,
    map_containers_applyTo keeps]
  rfl

namespace Fresh

/-- A name that is taken is none under which a plan mounts something. -/
theorem notMem_mounts (h : p.Fresh taken) {n : String} (isTaken : n ∈ taken) :
    n ∉ p.mounts.map (·.name) := by
  intro mem
  obtain ⟨m, isMount, rfl⟩ := List.mem_map.1 mem
  exact h.new _ (h.own m isMount) isTaken

/-- Under a name that is taken a container has the mounts that it had. -/
theorem paths_mountInto (h : p.Fresh taken) {volume : String} (isTaken : volume ∈ taken)
    (k : Container) : (p.mountInto k).paths volume = k.paths volume := by
  have apart : ∀ m ∈ p.mounts, decide (m.name = volume) = false := fun m isMount =>
    decide_eq_false fun same => h.notMem_mounts isTaken (List.mem_map.2 ⟨m, isMount, same⟩)
  have kept : (Named.putAll (·.name) p.mounts (k.volumeMounts.getD [])).filter
      (·.name = volume) = (k.volumeMounts.getD []).filter (·.name = volume) :=
    Named.filter_putAll (q := fun n => decide (n = volume)) apart
  exact congrArg (List.map (·.mountPath)) kept

/-- A complete pod stays complete. -/
theorem complete_applyTo (h : p.Fresh (pod.volumeNames claims)) (complete : pod.Complete claims) :
    (p.applyTo names pod).Complete claims := by
  obtain ⟨volumes, isClaims, apart⟩ := List.nodup_append.1 complete.distinct
  have mem_volumeNames {n : String} : n ∈ (p.applyTo names pod).volumeNames claims ↔
      n ∈ p.volumes.map (·.name) ∨ n ∈ pod.volumeNames claims := by
    rw [PodSpec.volumeNames, PodSpec.volumeNames, List.mem_append, List.mem_append, ← or_assoc]
    exact or_congr_left Named.mem_map_putAll
  constructor
  -- a planned volume has a new name, and the others are those from before
  · refine List.nodup_append.2 ⟨Named.nodup_putAll volumes, isClaims, fun n there claim mem => ?_⟩
    rcases Named.mem_map_putAll.1 there with planned | before
    · rintro rfl
      exact h.new n planned (List.mem_append_right _ mem)
    · exact apart n before claim mem
  · intro k isContainer m isMount
    refine mem_volumeNames.2 ?_
    rcases List.mem_append.1 isContainer with first | mem
    · -- the containers that run before the others are left as they are
      exact .inr (complete.mounted k (List.mem_append_left _ first) m isMount)
    · obtain ⟨k, there, rfl⟩ := List.mem_map.1 mem
      have old : ∀ m ∈ k.volumeMounts.getD [], m.name ∈ pod.volumeNames claims :=
        complete.mounted k (List.mem_append_right _ there)
      split at isMount
      · rcases Named.mem_putAll isMount with planned | before
        · exact .inl (h.own m planned)
        · exact .inr (old m before)
      · exact .inr (old m isMount)

/-- What a container sees, it goes on to see. -/
theorem sees_applyTo (h : p.Fresh (pod.volumeNames claims)) {container path : String}
    {source : String → Volume} (named : ∀ n, (source n).name = n)
    (sees : pod.Sees container path source) :
    (p.applyTo names pod).Sees container path source := by
  obtain ⟨k, isContainer, isNamed, m, isMount, isPath, readOnly, whole, isVolume⟩ := sees
  have taken : m.name ∈ pod.volumeNames claims :=
    List.mem_append_left _ (List.mem_map.2 ⟨_, isVolume, named m.name⟩)
  -- nothing planned has the name of the volume, so that volume and mount are not replaced
  have volume : source m.name ∈ (p.applyTo names pod).volumes.getD [] := by
    refine Named.mem_putAll_of_notMem isVolume ?_
    rw [named]
    intro planned
    exact h.new _ planned taken
  refine ⟨_, List.mem_map_of_mem isContainer, ?_, m, ?_, isPath, readOnly, whole, volume⟩
  · split <;> exact isNamed
  · split
    · exact Named.mem_putAll_of_notMem isMount (h.notMem_mounts taken)
    · exact isMount

end Fresh

end VolumePlan

/-! ### The pods of a cluster -/

namespace Workload

variable (c : Cluster) («namespace» : String) (images : Images)

/-- The volume with the data is the only one that is claimed. -/
def claims : List String := [dataVolume]

/-- The names of the volumes without the TLS files. -/
theorem volumeNames_basePod : (basePod c images).volumeNames claims =
    [documentVolume, healthVolume, hooksVolume, dataVolume] := rfl

/-- Without the TLS files every mount leads to one volume. -/
theorem complete_basePod : (basePod c images).Complete claims := by
  constructor
  · rw [volumeNames_basePod]
    decide
  · rw [volumeNames_basePod]
    simp [PodSpec.everyContainer, basePod, hook, agent, database, mount]

/-- The TLS files need no volume that is there already. -/
theorem fresh_volumePlan :
    (c.descriptor «namespace»).volumePlan.Fresh ((basePod c images).volumeNames claims) := by
  constructor
  · simp [TlsDescriptor.volumePlan, VolumePlan.tls]
  · rw [volumeNames_basePod]
    show ∀ n ∈ [Tls.caVolumeName, Tls.secretVolumeName], _
    decide

/-- What holds of the pods without the TLS files and is kept when these are mounted holds of the
pods of every cluster. -/
theorem pod_cases {motive : PodSpec → Prop} (base : motive (basePod c images))
    (mounted : ∀ p names, VolumePlan.Fresh p ((basePod c images).volumeNames claims) →
      motive (p.applyTo names (basePod c images))) : motive (pod c «namespace» images) := by
  by_cases enabled : c.spec.tls.enabled = true
  · rw [c.pod_eq «namespace» images enabled]
    exact mounted _ _ (fresh_volumePlan c «namespace» images)
  · have plain : pod c «namespace» images = basePod c images := if_neg enabled
    rw [plain]
    exact base

/-- Every mount of the pods leads to one volume. -/
theorem complete_pod : (pod c «namespace» images).Complete claims :=
  pod_cases c «namespace» images (motive := fun pod => pod.Complete claims)
    (complete_basePod c images) fun _ _ fresh => fresh.complete_applyTo (complete_basePod c images)

/-- The agent sees the secret with the document. -/
theorem pod_sees_document : (pod c «namespace» images).Sees agentContainer documentPath
    fun v => { name := v, secret := some { secretName := some c.configSecretName } } := by
  have base : (basePod c images).Sees agentContainer documentPath
      fun v => { name := v, secret := some { secretName := some c.configSecretName } } :=
    ⟨_, List.mem_cons_self, rfl, _, List.mem_cons_self, rfl, rfl, rfl, List.mem_cons_self⟩
  exact pod_cases c «namespace» images
    (motive := fun pod => pod.Sees agentContainer documentPath _) base
    fun _ _ fresh => fresh.sees_applyTo (fun _ => rfl) base

/-- Both containers have the claimed volume where the members keep their data. -/
theorem pod_paths : (pod c «namespace» images).containers.map (fun k =>
      (k.name, k.paths dataVolume)) =
    [(agentContainer, [databasePath]), (databaseContainer, [databasePath])] := by
  refine pod_cases c «namespace» images (motive := fun pod => pod.containers.map _ = _) rfl
    fun p names fresh => ?_
  have taken : dataVolume ∈ (basePod c images).volumeNames claims :=
    List.mem_append_right _ (List.mem_singleton_self _)
  rw [VolumePlan.map_containers_applyTo]
  · rfl
  · intro k _
    -- the plan mounts other volumes
    rw [fresh.paths_mountInto taken]
    rfl

theorem options_agentCommand :
    Container.optionsIn "-cluster=" ["/bin/bash", "-c", agentCommand] =
      [documentPath ++ "/" ++ documentKey] := by
  decide +kernel

theorem options_databaseCommand :
    Container.optionsIn "-cluster=" ["/bin/sh", "-c", databaseCommand] = [] := by
  decide +kernel

/-- The agent is told to take its cluster from the entry with the document. -/
theorem pod_options : (pod c «namespace» images).containers.map (fun k =>
      (k.name, k.options "-cluster=")) =
    [(agentContainer, [documentPath ++ "/" ++ documentKey]), (databaseContainer, [])] := by
  have base : (basePod c images).containers.map (fun k => (k.name, k.options "-cluster=")) =
      [(agentContainer, [documentPath ++ "/" ++ documentKey]), (databaseContainer, [])] := by
    show [(agentContainer, Container.optionsIn "-cluster=" ["/bin/bash", "-c", agentCommand]),
      (databaseContainer, Container.optionsIn "-cluster=" ["/bin/sh", "-c", databaseCommand])] = _
    rw [options_agentCommand, options_databaseCommand]
  refine pod_cases c «namespace» images (motive := fun pod => pod.containers.map _ = _) base
    fun p names fresh => ?_
  exact (VolumePlan.map_containers_applyTo fun _ _ => rfl).trans base

/-- The port of the members is the only one on which the containers listen. -/
theorem pod_listens :
    (pod c «namespace» images).everyContainer.flatMap Container.listens = [databasePort] := by
  refine pod_cases c «namespace» images
    (motive := fun pod => pod.everyContainer.flatMap Container.listens = _) rfl
    fun p names fresh => ?_
  rw [List.flatMap_def, VolumePlan.map_everyContainer_applyTo fun _ _ => rfl]
  rfl

end Workload

end ReplicaSetOperator
