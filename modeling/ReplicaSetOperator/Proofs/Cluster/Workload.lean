import ReplicaSetOperator.Cluster.Workload
import ReplicaSetOperator.Proofs.Object.Sound

/-!
# The workload as it is written

Service and stateful set of a cluster are written without fault (`Cluster.service_faultless`,
`Cluster.statefulSet_faultless`), and the volumes that are read from the stateful set are those that
it was written with (`Cluster.readVolumes_names`), so that it carries the TLS files exactly if TLS
is wanted (`Cluster.carriesTls_of_spec`). Both containers see the files then
(`Cluster.sees_of_spec`).
-/

namespace ReplicaSetOperator

/-! ### Parts of pods -/

/-- A mount is written without fault, with what is carried along in it. -/
theorem VolumeMount.faultless {m : VolumeMount}
    (carried : format.fault .value (.object m.other) = none) : format.Faultless m := by
  refine Lenient.fault_recordWith ?_ carried
  refine Lenient.fits_cons rfl (Format.string_faultless _).always ?_
  refine Lenient.fits_cons rfl (Format.string_faultless _).always ?_
  exact Lenient.fits_cons rfl (Format.flag_faultless _) Lenient.fits_nil

theorem ConfigMapSource.faultless {s : ConfigMapSource}
    (carried : format.fault .value (.object s.other) = none) : format.Faultless s := by
  refine Lenient.fault_recordWith ?_ carried
  exact Lenient.fits_cons rfl (Format.string_faultless _).always Lenient.fits_nil

theorem SecretSource.faultless {s : SecretSource}
    (carried : format.fault .value (.object s.other) = none) : format.Faultless s := by
  refine Lenient.fault_recordWith ?_ carried
  exact Lenient.fits_cons rfl (Format.text_faultless _) Lenient.fits_nil

/-- A volume is written without fault if its sources are. -/
theorem Volume.faultless {v : Volume}
    (configMap : ∀ s ∈ v.configMap, ConfigMapSource.format.Faultless s)
    (secret : ∀ s ∈ v.secret, SecretSource.format.Faultless s)
    (carried : format.fault .value (.object v.other) = none) : format.Faultless v := by
  refine Lenient.fault_recordWith ?_ carried
  refine Lenient.fits_cons rfl (Format.string_faultless _).always ?_
  refine Lenient.fits_cons rfl (Format.Faultless.member configMap) ?_
  exact Lenient.fits_cons rfl (Format.Faultless.member secret) Lenient.fits_nil

theorem ContainerPort.faultless {p : ContainerPort}
    (carried : format.fault .value (.object p.other) = none) : format.Faultless p := by
  refine Lenient.fault_recordWith ?_ carried
  refine Lenient.fits_cons rfl (Format.text_faultless _) ?_
  exact Lenient.fits_cons rfl (Format.int32_faultless _).always Lenient.fits_nil

/-- A container is written without fault if its ports and its mounts are. -/
theorem Container.faultless {c : Container}
    (ports : ∀ ps ∈ c.ports, ∀ p ∈ ps, ContainerPort.format.Faultless p)
    (mounts : ∀ ms ∈ c.volumeMounts, ∀ m ∈ ms, VolumeMount.format.Faultless m)
    (carried : format.fault .value (.object c.other) = none) : format.Faultless c := by
  refine Lenient.fault_recordWith ?_ carried
  refine Lenient.fits_cons rfl (Format.string_faultless _).always ?_
  refine Lenient.fits_cons rfl (Format.text_faultless _) ?_
  refine Lenient.fits_cons rfl (Format.Faultless.member fun words _ =>
    Format.list_faultless fun s _ => Format.string_faultless s) ?_
  refine Lenient.fits_cons rfl (Format.Faultless.member fun ps there =>
    Format.list_faultless (ports ps there)) ?_
  exact Lenient.fits_cons rfl (Format.Faultless.member fun ms there =>
    Format.list_faultless (mounts ms there)) Lenient.fits_nil

/-- A pod is written without fault if its containers and its volumes are. -/
theorem PodSpec.faultless {p : PodSpec}
    (containers : ∀ c ∈ p.containers, Container.format.Faultless c)
    (initContainers : ∀ cs ∈ p.initContainers, ∀ c ∈ cs, Container.format.Faultless c)
    (volumes : ∀ vs ∈ p.volumes, ∀ v ∈ vs, Volume.format.Faultless v)
    (carried : format.fault .value (.object p.other) = none) : format.Faultless p := by
  refine Lenient.fault_recordWith ?_ carried
  refine Lenient.fits_cons rfl (Format.list_faultless containers : _).always ?_
  refine Lenient.fits_cons rfl (Format.Faultless.member fun cs there =>
    Format.list_faultless (initContainers cs there)) ?_
  exact Lenient.fits_cons rfl (Format.Faultless.member fun vs there =>
    Format.list_faultless (volumes vs there)) Lenient.fits_nil

theorem PodTemplate.faultless {t : PodTemplate}
    (metadata : ∀ m ∈ t.metadata, ObjectMeta.format.Faultless m)
    (spec : ∀ s ∈ t.spec, PodSpec.format.Faultless s) : format.Faultless t := by
  refine Lenient.fault_record ?_ rfl
  refine Lenient.fits_cons rfl (Format.Faultless.member metadata) ?_
  exact Lenient.fits_cons rfl (Format.Faultless.member spec) Lenient.fits_nil

theorem LabelSelector.faultless {s : LabelSelector}
    (carried : format.fault .value (.object s.other) = none) : format.Faultless s := by
  refine Lenient.fault_recordWith ?_ carried
  exact Lenient.fits_cons rfl (Format.Faultless.member fun l _ => Format.labels_faultless l)
    Lenient.fits_nil

/-! ### Stateful sets and services -/

theorem VolumeClaim.faultless {c : VolumeClaim} (sound : c.metadata.Sound)
    (carried : format.fault .value (.object c.other) = none) : format.Faultless c := by
  refine Lenient.fault_recordWith ?_ carried
  -- its two texts that say what kind of object it is are fixed
  refine Lenient.fits_cons rfl (by rintro v ⟨⟩; rfl) ?_
  refine Lenient.fits_cons rfl (by rintro v ⟨⟩; rfl) ?_
  exact Lenient.fits_cons rfl sound.faultless.always Lenient.fits_nil

/-- What a stateful set is to be is written without fault, part by part. -/
theorem StatefulSetSpec.faultless {s : StatefulSetSpec}
    (selector : LabelSelector.format.Faultless s.selector)
    (template : PodTemplate.format.Faultless s.template)
    (claims : ∀ cs ∈ s.volumeClaimTemplates, ∀ c ∈ cs, VolumeClaim.format.Faultless c)
    (carried : format.fault .value (.object s.other) = none) : format.Faultless s := by
  refine Lenient.fault_recordWith ?_ carried
  refine Lenient.fits_cons rfl (Format.Faultless.member fun i _ => Format.int32_faultless i) ?_
  refine Lenient.fits_cons rfl selector.always ?_
  refine Lenient.fits_cons rfl (Format.text_faultless _) ?_
  refine Lenient.fits_cons rfl template.always ?_
  exact Lenient.fits_cons rfl (Format.Faultless.member fun cs there =>
    Format.list_faultless (claims cs there)) Lenient.fits_nil

/-- A stateful set is written without fault, and so is the status that it may have. -/
theorem StatefulSet.faultless {s : StatefulSet} (sound : s.metadata.Sound)
    (spec : ∀ x ∈ s.spec, StatefulSetSpec.format.Faultless x)
    (status : ∀ x ∈ s.status, StatefulSetStatus.format.Faultless x) : format.Faultless s := by
  refine Lenient.fault_record ?_ rfl
  refine Lenient.fits_cons rfl (by rintro v ⟨⟩; rfl) ?_
  refine Lenient.fits_cons rfl (by rintro v ⟨⟩; rfl) ?_
  refine Lenient.fits_cons rfl sound.faultless.always ?_
  refine Lenient.fits_cons rfl (Format.Faultless.member spec) ?_
  exact Lenient.fits_cons rfl (Format.Faultless.member status) Lenient.fits_nil

theorem ServicePort.faultless {p : ServicePort}
    (target : ∀ v ∈ p.targetPort, Passive.intOrText.fault .value v = none)
    (carried : format.fault .value (.object p.other) = none) : format.Faultless p := by
  refine Lenient.fault_recordWith ?_ carried
  refine Lenient.fits_cons rfl (Format.text_faultless _) ?_
  refine Lenient.fits_cons rfl (Format.int32_faultless _).always ?_
  refine Lenient.fits_cons rfl target ?_
  exact Lenient.fits_cons rfl (Format.text_faultless _) Lenient.fits_nil

/-- A service is written without fault if its ports are. -/
theorem ServiceSpec.faultless {s : ServiceSpec}
    (ports : ∀ ps ∈ s.ports, ∀ p ∈ ps, ServicePort.format.Faultless p)
    (carried : format.fault .value (.object s.other) = none) : format.Faultless s := by
  refine Lenient.fault_recordWith ?_ carried
  refine Lenient.fits_cons rfl (Format.text_faultless _) ?_
  refine Lenient.fits_cons rfl (Format.Faultless.member fun ps there =>
    Format.list_faultless (ports ps there)) ?_
  refine Lenient.fits_cons rfl (Format.flag_faultless _) ?_
  exact Lenient.fits_cons rfl (Format.Faultless.member fun l _ => Format.labels_faultless l)
    Lenient.fits_nil

theorem Service.faultless {s : Service} (sound : s.metadata.Sound)
    (spec : ∀ x ∈ s.spec, ServiceSpec.format.Faultless x)
    (carried : format.fault .value (.object s.other) = none) : format.Faultless s := by
  refine Lenient.fault_recordWith ?_ carried
  refine Lenient.fits_cons rfl (by rintro v ⟨⟩; rfl) ?_
  refine Lenient.fits_cons rfl (by rintro v ⟨⟩; rfl) ?_
  refine Lenient.fits_cons rfl sound.faultless.always ?_
  exact Lenient.fits_cons rfl (Format.Faultless.member spec) Lenient.fits_nil

/-! ### The pods -/

namespace Named

variable {α : Type} {name : α → String}

/-- An item that is put is the only new one. -/
theorem mem_put {item x : α} {xs : List α} (h : x ∈ put name item xs) : x = item ∨ x ∈ xs := by
  induction xs with
  | nil => exact .inl (List.mem_singleton.1 h)
  | cons y ys ih =>
    rw [put] at h
    split at h
    · exact (List.mem_cons.1 h).imp_right (List.mem_cons_of_mem y)
    · rcases List.mem_cons.1 h with rfl | rest
      · exact .inr List.mem_cons_self
      · exact (ih rest).imp_right (List.mem_cons_of_mem y)

/-- Nothing is there after items have been put that is not one of them or was there before. -/
theorem mem_putAll {items : List α} {x : α} {xs : List α} (h : x ∈ putAll name items xs) :
    x ∈ items ∨ x ∈ xs := by
  induction items generalizing xs with
  | nil => exact .inr h
  | cons item rest ih =>
    rcases ih h with mem | mem
    · exact .inl (List.mem_cons_of_mem item mem)
    · rcases mem_put mem with rfl | mem
      · exact .inl List.mem_cons_self
      · exact .inr mem

/-- It is there afterwards. -/
theorem item_mem_put (item : α) (xs : List α) : item ∈ put name item xs := by
  induction xs with
  | nil => exact List.mem_singleton_self item
  | cons y ys ih =>
    rw [put]
    split
    · exact List.mem_cons_self
    · exact List.mem_cons_of_mem y ih

/-- Whatever has another name stays there. -/
theorem mem_put_of_ne {item x : α} {xs : List α} (mem : x ∈ xs) (apart : name x ≠ name item) :
    x ∈ put name item xs := by
  induction xs with
  | nil => cases mem
  | cons y ys ih =>
    rw [put]
    rcases List.mem_cons.1 mem with rfl | mem
    · rw [if_neg apart]
      exact List.mem_cons_self
    · split
      · exact List.mem_cons_of_mem item mem
      · exact List.mem_cons_of_mem y (ih mem)

/-- What is there already stays there under the other names. -/
theorem mem_putAll_of_notMem {items xs : List α} {x : α} (mem : x ∈ xs)
    (apart : name x ∉ items.map name) : x ∈ putAll name items xs := by
  induction items generalizing xs with
  | nil => exact mem
  | cons item rest ih =>
    rw [List.map_cons, List.mem_cons, not_or] at apart
    exact ih (mem_put_of_ne mem apart.1) apart.2

/-- Items of different names are all there once they have been put. -/
theorem mem_putAll_of_mem {items : List α} {x : α} {xs : List α} (mem : x ∈ items)
    (distinct : (items.map name).Nodup) : x ∈ putAll name items xs := by
  induction items generalizing xs with
  | nil => cases mem
  | cons item rest ih =>
    rw [List.map_cons, List.nodup_cons] at distinct
    rcases List.mem_cons.1 mem with rfl | mem
    -- the items that follow have other names, so that they leave the first one in its place
    · show x ∈ putAll name rest (put name x xs)
      exact mem_putAll_of_notMem (item_mem_put x xs) distinct.1
    · exact ih mem distinct.2

end Named

/-- Mounts that carry nothing along are written without fault. -/
theorem VolumeMount.all_faultless {ms : List VolumeMount} (new : ∀ m ∈ ms, m.other = []) :
    ∀ m ∈ ms, format.Faultless m :=
  fun m mem => faultless (new m mem ▸ rfl)

namespace VolumePlan

variable {p : VolumePlan}

/-- A container into which something is mounted is written without fault. -/
theorem mountInto_faultless (mounts : ∀ m ∈ p.mounts, VolumeMount.format.Faultless m)
    {c : Container}
    (ports : ∀ ps ∈ c.ports, ∀ p ∈ ps, ContainerPort.format.Faultless p)
    (present : ∀ ms ∈ c.volumeMounts, ∀ m ∈ ms, VolumeMount.format.Faultless m)
    (carried : Container.format.fault .value (.object c.other) = none) :
    Container.format.Faultless (p.mountInto c) := by
  refine Container.faultless ports ?_ carried
  rintro ms ⟨⟩ m mem
  -- a mount is a planned one, or the container had it before
  rcases Named.mem_putAll mem with new | old
  · exact mounts m new
  · cases there : c.volumeMounts with
    | none =>
      rw [there] at old
      cases old
    | some before =>
      rw [there] at old
      exact present before there m old

end VolumePlan

namespace Workload

variable (c : Cluster) («namespace» : String) (images : Images)

theorem agent_mounts :
    ∀ ms ∈ (agent images).volumeMounts, ∀ m ∈ ms, VolumeMount.format.Faultless m := by
  rintro ms ⟨⟩
  exact VolumeMount.all_faultless (by simp [mount])

theorem database_ports :
    ∀ ps ∈ (database images).ports, ∀ p ∈ ps, ContainerPort.format.Faultless p := by
  rintro ps ⟨⟩ p mem
  obtain rfl := List.mem_singleton.1 mem
  exact ContainerPort.faultless rfl

theorem database_mounts :
    ∀ ms ∈ (database images).volumeMounts, ∀ m ∈ ms, VolumeMount.format.Faultless m := by
  rintro ms ⟨⟩
  exact VolumeMount.all_faultless (by simp [mount])

/-- The container that runs before the others is written without fault. -/
theorem hook_faultless : Container.format.Faultless (hook images) := by
  refine Container.faultless (by rintro ps ⟨⟩) ?_ rfl
  rintro ms ⟨⟩
  exact VolumeMount.all_faultless (by simp [mount])

theorem emptyVolume_faultless (name : String) : Volume.format.Faultless (emptyVolume name) :=
  Volume.faultless (by rintro s ⟨⟩) (by rintro s ⟨⟩) rfl

theorem secretVolume_faultless (name secret : String) :
    Volume.format.Faultless { name := name, secret := some { secretName := some secret } } := by
  refine Volume.faultless (by rintro s ⟨⟩) ?_ rfl
  rintro s ⟨⟩
  exact SecretSource.faultless rfl

theorem configMapVolume_faultless (name configMap : String) :
    Volume.format.Faultless { name := name, configMap := some { name := configMap } } := by
  refine Volume.faultless ?_ (by rintro s ⟨⟩) rfl
  rintro s ⟨⟩
  exact ConfigMapSource.faultless rfl

theorem baseVolumes_faultless :
    ∀ vs ∈ (basePod c images).volumes, ∀ v ∈ vs, Volume.format.Faultless v := by
  rintro vs ⟨⟩
  refine List.forall_mem_cons.2 ⟨secretVolume_faultless _ _, ?_⟩
  refine List.forall_mem_cons.2 ⟨emptyVolume_faultless _, ?_⟩
  exact List.forall_mem_singleton.2 (emptyVolume_faultless _)

theorem initContainers_faultless :
    ∀ cs ∈ (basePod c images).initContainers, ∀ x ∈ cs, Container.format.Faultless x := by
  rintro cs ⟨⟩
  exact List.forall_mem_singleton.2 (hook_faultless images)

/-- The pods without the TLS files are written without fault. -/
theorem basePod_faultless : PodSpec.format.Faultless (basePod c images) := by
  refine PodSpec.faultless ?_ (initContainers_faultless c images) (baseVolumes_faultless c images)
    rfl
  refine List.forall_mem_cons.2 ⟨?_, List.forall_mem_singleton.2 ?_⟩
  · exact Container.faultless (by rintro ps ⟨⟩) (agent_mounts images) rfl
  · exact Container.faultless (database_ports images) (database_mounts images) rfl

/-- The pods with the TLS files. -/
theorem mounted_faultless (configMap secret : String) :
    PodSpec.format.Faultless ((VolumePlan.tls configMap secret).applyTo
      [agentContainer, databaseContainer] (basePod c images)) := by
  have mounts : ∀ m ∈ (VolumePlan.tls configMap secret).mounts,
      VolumeMount.format.Faultless m := VolumeMount.all_faultless (by simp [VolumePlan.tls])
  refine PodSpec.faultless ?_ (initContainers_faultless c images) ?_ rfl
  -- the containers get two mounts each, and the pod two volumes
  · refine List.forall_mem_cons.2 ⟨?_, List.forall_mem_singleton.2 ?_⟩
    · exact VolumePlan.mountInto_faultless mounts (by rintro ps ⟨⟩) (agent_mounts images) rfl
    · exact VolumePlan.mountInto_faultless mounts (database_ports images) (database_mounts images)
        rfl
  · rintro vs ⟨⟩ v mem
    rcases Named.mem_putAll mem with new | old
    · have planned := List.forall_mem_cons.2 ⟨configMapVolume_faultless Tls.caVolumeName configMap,
        List.forall_mem_singleton.2 (secretVolume_faultless Tls.secretVolumeName secret)⟩
      exact planned v new
    · exact baseVolumes_faultless c images _ rfl v old

/-- The pods of a cluster are written without fault, whether they have the TLS files or not. -/
theorem pod_faultless : PodSpec.format.Faultless (pod c «namespace» images) := by
  show PodSpec.format.Faultless (if (c.descriptor «namespace»).enabled then _ else _)
  split
  · exact mounted_faultless c images _ _
  · exact basePod_faultless c images

/-- The claim of the volume with the data is written without fault. -/
theorem dataClaim_faultless : VolumeClaim.format.Faultless dataClaim :=
  VolumeClaim.faultless (ObjectMeta.sound_of_new rfl rfl rfl) rfl

end Workload

/-! ### What is read of the pods -/

/-- A mount with nothing that is carried along is read as it was written. -/
theorem VolumeMount.read_write {m : VolumeMount} (new : m.other = []) :
    format.read (format.write m) = m := by
  obtain ⟨name, path, readOnly, other⟩ := m
  obtain rfl : other = [] := new
  let members : List (String × Option Json) :=
    [("name", some (.string name)), ("mountPath", some (.string path)),
     ("readOnly", readOnly.map .bool)]
  have there (k : String) : (Json.recordWith members []).get? k = (members.lookup k).join :=
    Json.get?_recordWith_of_notMem (by simp [members]) List.not_mem_nil
  -- each member is read from the one that was written, and nothing is carried along
  have isName : Format.string.present? "name" (Json.recordWith members []) = some name :=
    Format.present?_of_get? (there "name") (by rintro ⟨⟩)
  have isPath : Format.string.present? "mountPath" (Json.recordWith members []) = some path :=
    Format.present?_of_get? (there "mountPath") (by rintro ⟨⟩)
  have isReadOnly : Format.bool.present? "readOnly" (Json.recordWith members []) = readOnly :=
    Format.present?_of_same (there "readOnly") (by rintro b ⟨⟩) fun _ => rfl
  have others : Passive.collect otherFields (Json.recordWith members []) = [] :=
    Passive.collect_recordWith (by simp [members]) (by simp [otherFields, members]; decide)
  show VolumeMount.mk (Format.string.presentD "name" "" (Json.recordWith members []))
    (Format.string.presentD "mountPath" "" (Json.recordWith members []))
    (Format.bool.present? "readOnly" (Json.recordWith members []))
    (Passive.collect otherFields (Json.recordWith members [])) = _
  rw [Format.presentD, Format.presentD, isName, isPath, isReadOnly, others]
  rfl

/-- The source of a volume that is a config map is read as it was written. -/
theorem ConfigMapSource.read_write {s : ConfigMapSource} (new : s.other = []) :
    format.read (format.write s) = s := by
  obtain ⟨name, other⟩ := s
  obtain rfl : other = [] := new
  let members : List (String × Option Json) := [("name", some (.string name))]
  have there : (Json.recordWith members []).get? "name" = some (.string name) :=
    Json.get?_recordWith_of_notMem (by simp [members]) List.not_mem_nil
  have isName : Format.string.present? "name" (Json.recordWith members []) = some name :=
    Format.present?_of_get? there (by rintro ⟨⟩)
  have others : Passive.collect otherFields (Json.recordWith members []) = [] :=
    Passive.collect_recordWith (by simp [members]) (by simp [otherFields, members]; decide)
  show ConfigMapSource.mk (Format.string.presentD "name" "" (Json.recordWith members []))
    (Passive.collect otherFields (Json.recordWith members [])) = _
  rw [Format.presentD, isName, others]
  rfl

theorem SecretSource.read_write {s : SecretSource} (new : s.other = []) :
    format.read (format.write s) = s := by
  obtain ⟨name, other⟩ := s
  obtain rfl : other = [] := new
  let members : List (String × Option Json) := [("secretName", name.map .string)]
  have isName : Format.string.present? "secretName" (Json.recordWith members []) = name :=
    Format.present?_of_same
      (Json.get?_recordWith_of_notMem (by simp [members]) List.not_mem_nil) (by rintro t ⟨⟩)
      fun _ => rfl
  have others : Passive.collect otherFields (Json.recordWith members []) = [] :=
    Passive.collect_recordWith (by simp [members])
      (by simp [otherFields, ConfigMapSource.otherFields, members]; decide)
  show SecretSource.mk (Format.string.present? "secretName" (Json.recordWith members []))
    (Passive.collect otherFields (Json.recordWith members [])) = _
  rw [isName, others]

/-- A volume with a secret or config map and nothing else is read as it was written. -/
theorem Volume.read_write {v : Volume} (configMap : ∀ s ∈ v.configMap, s.other = [])
    (secret : ∀ s ∈ v.secret, s.other = []) (new : v.other = []) :
    format.read (format.write v) = v := by
  obtain ⟨name, configMap?, secret?, other⟩ := v
  obtain rfl : other = [] := new
  -- each part of the volume is found under its name among the members that are written
  let members : List (String × Option Json) :=
    [("name", some (.string name)),
     ("configMap", configMap?.map ConfigMapSource.format.write),
     ("secret", secret?.map SecretSource.format.write)]
  have there (k : String) : (Json.recordWith members []).get? k = (members.lookup k).join :=
    Json.get?_recordWith_of_notMem (by simp [members]) List.not_mem_nil
  have isName : Format.string.present? "name" (Json.recordWith members []) = some name :=
    Format.present?_of_get? (there "name") (by rintro ⟨⟩)
  have isConfigMap : ConfigMapSource.format.present? "configMap" (Json.recordWith members []) =
      configMap? :=
    (Format.present?_of_written (there "configMap") (by rintro s ⟨⟩)).trans <|
      (Option.map_congr fun s mem => ConfigMapSource.read_write (configMap s mem)).trans
        Option.map_id'
  have isSecret : SecretSource.format.present? "secret" (Json.recordWith members []) = secret? :=
    (Format.present?_of_written (there "secret") (by rintro s ⟨⟩)).trans <|
      (Option.map_congr fun s mem => SecretSource.read_write (secret s mem)).trans Option.map_id'
  have others : Passive.collect Passive.volumeFields (Json.recordWith members []) = [] :=
    Passive.collect_recordWith (by simp [members]) (by
      have fields : ∀ f ∈ Passive.volumeFields,
        f.required = false ∧ f.name ∉ ["name", "configMap", "secret"] := by decide
      simpa [members] using fields)
  -- reading puts together what has been found
  show Volume.mk (Format.string.presentD "name" "" (Json.recordWith members []))
    (ConfigMapSource.format.present? "configMap" (Json.recordWith members []))
    (SecretSource.format.present? "secret" (Json.recordWith members []))
    (Passive.collect Passive.volumeFields (Json.recordWith members [])) = _
  rw [Format.presentD, isName, isConfigMap, isSecret, others]
  rfl

/-- Name and mounts of a container are read as they were written. -/
theorem Container.read_write {c : Container} (new : c.other = [])
    (mounts : ∀ m ∈ c.volumeMounts.getD [], m.other = []) :
    (format.read (format.write c)).name = c.name ∧
      (format.read (format.write c)).volumeMounts = c.volumeMounts := by
  -- with nothing carried along, these five are all that can be found
  have there {name : String} {v? : Option Json} (h : ([("name", some (.string c.name)),
      ("image", c.image.map .string), ("command", c.command.map Format.string.list.write),
      ("ports", c.ports.map ContainerPort.format.list.write),
      ("volumeMounts", c.volumeMounts.map VolumeMount.format.list.write)].lookup name).join = v?) :
      (format.write c).get? name = v? :=
    (Json.get?_recordWith_of_notMem (by simp) (new ▸ List.not_mem_nil)).trans h
  constructor
  · show (Format.string.present? "name" (format.write c)).getD "" = _
    rw [Format.present?_of_get? (there rfl) (by rintro ⟨⟩)]
    rfl
  · show VolumeMount.format.list.present? "volumeMounts" (format.write c) = _
    rw [Format.present?_of_written (there rfl) (by rintro ms ⟨⟩)]
    refine (Option.map_congr fun ms isMounts => ?_).trans Option.map_id'
    show (ms.map VolumeMount.format.write).map VolumeMount.format.read = ms
    rw [isMounts] at mounts
    rw [List.map_map]
    exact (List.map_congr_left fun m mem => VolumeMount.read_write (mounts m mem)).trans
      (List.map_id ms)

/-- The name of a volume is read back if nothing else is carried along under that word. -/
theorem Volume.name_read_write {v : Volume} (apart : "name" ∉ v.other.map Prod.fst) :
    (format.read (format.write v)).name = v.name := by
  have there : (format.write v).get? "name" = some (.string v.name) :=
    Json.get?_recordWith_of_notMem (by simp) apart
  show (Format.string.present? "name" (format.write v)).getD "" = _
  rw [Format.present?_of_get? there (by rintro ⟨⟩)]
  rfl

theorem PodSpec.volumes_read_write {p : PodSpec} (apart : "volumes" ∉ p.other.map Prod.fst) :
    (format.read (format.write p)).volumes =
      p.volumes.map fun vs => vs.map fun v => Volume.format.read (Volume.format.write v) := by
  have there : (format.write p).get? "volumes" = p.volumes.map Volume.format.list.write :=
    Json.get?_recordWith_of_notMem (by simp) apart
  show Volume.format.list.present? "volumes" (format.write p) = _
  cases volumes : p.volumes with
  | none => exact Format.present?_of_absent (there.trans (by rw [volumes]; rfl))
  | some vs =>
    rw [volumes] at there
    rw [Format.present?_of_get? there (by rintro ⟨⟩)]
    exact congrArg some List.map_map

theorem PodSpec.containers_read_write {p : PodSpec} (apart : "containers" ∉ p.other.map Prod.fst) :
    (format.read (format.write p)).containers =
      p.containers.map fun c => Container.format.read (Container.format.write c) := by
  have there : (format.write p).get? "containers" =
      some (Container.format.list.write p.containers) :=
    Json.get?_recordWith_of_notMem (by simp) apart
  show (Container.format.list.present? "containers" (format.write p)).getD [] = _
  rw [Format.present?_of_get? there (by rintro ⟨⟩)]
  exact List.map_map

/-- A container of a pod has a volume, which there is one of for each name, mounted read-only at a
path. -/
def PodSpec.Sees (pod : PodSpec) (container path : String) (source : String → Volume) : Prop :=
  ∃ k ∈ pod.containers, k.name = container ∧
    ∃ m ∈ k.volumeMounts.getD [], m.mountPath = path ∧ m.readOnly = some true ∧ m.other = [] ∧
      source m.name ∈ pod.volumes.getD []

theorem PodTemplate.spec_read_write (t : PodTemplate) :
    (format.read (format.write t)).spec =
      t.spec.map fun p => PodSpec.format.read (PodSpec.format.write p) := by
  have there : (format.write t).get? "spec" = t.spec.map PodSpec.format.write :=
    Json.get?_record "spec" (by simp)
  show PodSpec.format.present? "spec" (format.write t) = _
  cases spec : t.spec with
  | none => exact Format.present?_of_absent (there.trans (by rw [spec]; rfl))
  | some p =>
    rw [spec] at there
    exact Format.present?_of_get? there (by rintro ⟨⟩)

/-- Of what a stateful set is to be, the template of its pods is read back. -/
theorem StatefulSetSpec.template_read_write {s : StatefulSetSpec}
    (apart : "template" ∉ s.other.map Prod.fst) :
    (format.read (format.write s)).template =
      PodTemplate.format.read (PodTemplate.format.write s.template) := by
  have there : (format.write s).get? "template" = some (PodTemplate.format.write s.template) :=
    Json.get?_recordWith_of_notMem (by simp) apart
  show (PodTemplate.format.present? "template" (format.write s)).getD {} = _
  rw [Format.present?_of_get? there (by rintro ⟨⟩)]
  rfl

namespace Cluster

variable (c : Cluster) («namespace» : String) (images : Images)

/-- The stateful set of a cluster is written without fault. -/
theorem statefulSet_faultless :
    StatefulSet.format.Faultless (c.statefulSet «namespace» images) := by
  refine StatefulSet.faultless (ObjectMeta.sound_of_new rfl rfl rfl) ?_ (by rintro s ⟨⟩)
  rintro s ⟨⟩
  refine StatefulSetSpec.faultless (LabelSelector.faultless rfl) (PodTemplate.faultless ?_ ?_) ?_
    rfl
  · rintro m ⟨⟩
    exact (ObjectMeta.sound_of_new rfl rfl rfl).faultless
  · rintro p ⟨⟩
    exact Workload.pod_faultless c «namespace» images
  · rintro cs ⟨⟩
    exact List.forall_mem_singleton.2 Workload.dataClaim_faultless

theorem service_faultless : Service.format.Faultless (c.service «namespace») := by
  refine Service.faultless (ObjectMeta.sound_of_new rfl rfl rfl) ?_ rfl
  rintro s ⟨⟩
  refine ServiceSpec.faultless ?_ rfl
  rintro ps ⟨⟩
  refine List.forall_mem_singleton.2 (ServicePort.faultless ?_ rfl)
  rintro v ⟨⟩
  rfl

/-! ### Which volumes the pods have -/

/-- The volumes of the pods, with names that nothing else is written under. -/
theorem pod_volumes :
    (((Workload.pod c «namespace» images).volumes.getD []).map (·.name) =
      if c.spec.tls.enabled then
        [Workload.documentVolume, Workload.healthVolume, Workload.hooksVolume, Tls.caVolumeName,
          Tls.secretVolumeName]
      else [Workload.documentVolume, Workload.healthVolume, Workload.hooksVolume]) ∧
    (∀ v ∈ (Workload.pod c «namespace» images).volumes.getD [],
      "name" ∉ v.other.map Prod.fst) ∧
    "volumes" ∉ (Workload.pod c «namespace» images).other.map Prod.fst := by
  have base : ∀ v ∈ (Workload.basePod c images).volumes.getD [],
      "name" ∉ v.other.map Prod.fst := by
    simp [Workload.basePod, Workload.emptyVolume]
  have carried : "volumes" ∉ (Workload.basePod c images).other.map Prod.fst := by
    simp [Workload.basePod]
  cases enabled : c.spec.tls.enabled with
  | true =>
    have pod : Workload.pod c «namespace» images =
        (c.descriptor «namespace»).volumePlan.applyTo
          [Workload.agentContainer, Workload.databaseContainer] (Workload.basePod c images) :=
      if_pos enabled
    have planned : ∀ v ∈ (c.descriptor «namespace»).volumePlan.volumes,
        "name" ∉ v.other.map Prod.fst := by
      simp [TlsDescriptor.volumePlan, VolumePlan.tls]
    rw [pod]
    exact ⟨rfl, fun v mem => (Named.mem_putAll mem).elim (planned v) (base v), carried⟩
  | false =>
    have pod : Workload.pod c «namespace» images = Workload.basePod c images :=
      if_neg (ne_true_of_eq_false enabled)
    rw [pod]
    exact ⟨rfl, base, carried⟩

/-- What the stateful set is to be is one member of it. -/
theorem get?_statefulSet_spec :
    (StatefulSet.format.write (c.statefulSet «namespace» images)).get? "spec" =
      (c.statefulSet «namespace» images).spec.map StatefulSetSpec.format.write :=
  Json.get?_record "spec" (by simp [ObjectType.members])

/-- The pods that are read from a stateful set with what was asked for. -/
theorem pod_of_spec {j : Json}
    (same : j.get? "spec" =
      (StatefulSet.format.write (c.statefulSet «namespace» images)).get? "spec") :
    (StatefulSet.format.read j).spec.bind (·.template.spec) =
      some (PodSpec.format.read (PodSpec.format.write (Workload.pod c «namespace» images))) := by
  have there := same.trans (c.get?_statefulSet_spec «namespace» images)
  have spec : (StatefulSet.format.read j).spec =
      (c.statefulSet «namespace» images).spec.map fun s =>
        StatefulSetSpec.format.read (StatefulSetSpec.format.write s) :=
    Format.present?_of_get? there (by rintro ⟨⟩)
  rw [spec]
  show PodTemplate.spec _ = _
  rw [StatefulSetSpec.template_read_write (by rintro ⟨⟩), PodTemplate.spec_read_write]
  rfl

/-- The volumes that are read from the pods. -/
theorem readVolumes_eq :
    (PodSpec.format.read (PodSpec.format.write (Workload.pod c «namespace» images))).volumes.getD
      [] = ((Workload.pod c «namespace» images).volumes.getD []).map fun v =>
        Volume.format.read (Volume.format.write v) := by
  obtain ⟨-, -, carried⟩ := c.pod_volumes «namespace» images
  rw [PodSpec.volumes_read_write carried]
  cases (Workload.pod c «namespace» images).volumes <;> rfl

/-- They have the names that they were written with. -/
theorem readVolumes_names :
    ((PodSpec.format.read (PodSpec.format.write (Workload.pod c «namespace» images))).volumes.getD
      []).map (·.name) = ((Workload.pod c «namespace» images).volumes.getD []).map (·.name) := by
  obtain ⟨-, apart, -⟩ := c.pod_volumes «namespace» images
  rw [readVolumes_eq, List.map_map]
  exact List.map_congr_left fun v mem => Volume.name_read_write (apart v mem)

/-- Whether a stateful set carries the TLS files depends on what it is to be only. -/
theorem carriesTls_congr {i j : Json} (same : i.get? "spec" = j.get? "spec") :
    (StatefulSet.format.read i).carriesTls = (StatefulSet.format.read j).carriesTls := by
  have spec : (StatefulSet.format.read i).spec = (StatefulSet.format.read j).spec :=
    Format.present?_congr _ same
  rw [StatefulSet.carriesTls, StatefulSet.carriesTls, StatefulSet.volumes, StatefulSet.volumes,
    spec]

/-- A stateful set with what was asked for carries the TLS files exactly if TLS is wanted. -/
theorem carriesTls_of_spec {j : Json}
    (same : j.get? "spec" =
      (StatefulSet.format.write (c.statefulSet «namespace» images)).get? "spec") :
    (StatefulSet.format.read j).carriesTls = c.spec.tls.enabled := by
  have volumes : (StatefulSet.format.read j).volumes.map (·.name) =
      ((Workload.pod c «namespace» images).volumes.getD []).map (·.name) := by
    rw [StatefulSet.volumes, c.pod_of_spec «namespace» images same, Option.bind_some,
      readVolumes_names]
  -- whether it carries the files is asked of the names of its volumes only
  have any (name : String) : (StatefulSet.format.read j).volumes.any (·.name == name) =
      ((StatefulSet.format.read j).volumes.map (·.name)).any (· == name) := by
    rw [List.any_map]
    rfl
  rw [StatefulSet.carriesTls]
  simp only [any, volumes, (c.pod_volumes «namespace» images).1]
  cases c.spec.tls.enabled <;> decide

section

variable (enabled : c.spec.tls.enabled = true)

include enabled

/-- With TLS the pods have the planned volumes, which agent and database mount. -/
theorem pod_eq : Workload.pod c «namespace» images =
    (c.descriptor «namespace»).volumePlan.applyTo
      [Workload.agentContainer, Workload.databaseContainer] (Workload.basePod c images) :=
  if_pos enabled

/-- Agent and database have the mounts of the TLS files. -/
theorem pod_mounts :
    ∀ name ∈ [Workload.agentContainer, Workload.databaseContainer],
      ∃ k ∈ (Workload.pod c «namespace» images).containers, k.name = name ∧ k.other = [] ∧
        (∀ m ∈ k.volumeMounts.getD [], m.other = []) ∧
        ∀ m ∈ (c.descriptor «namespace»).volumePlan.mounts, m ∈ k.volumeMounts.getD [] := by
  obtain ⟨plan, isPlan⟩ : ∃ p, (c.descriptor «namespace»).volumePlan = p := ⟨_, rfl⟩
  have new : ∀ m ∈ plan.mounts, m.other = [] := by
    rw [← isPlan]
    simp [TlsDescriptor.volumePlan, VolumePlan.tls]
  have distinct : (plan.mounts.map (·.name)).Nodup := by
    rw [← isPlan]
    show [Tls.caVolumeName, Tls.secretVolumeName].Nodup
    decide
  -- what is mounted by plan is there next to the mounts from before
  have mounted (k : Container) (present : ∀ m ∈ k.volumeMounts.getD [], m.other = []) :
      (∀ m ∈ (plan.mountInto k).volumeMounts.getD [], m.other = []) ∧
        ∀ m ∈ plan.mounts, m ∈ (plan.mountInto k).volumeMounts.getD [] :=
    ⟨fun m mem => (Named.mem_putAll mem).elim (new m) (present m),
      fun m mem => Named.mem_putAll_of_mem mem distinct⟩
  rw [c.pod_eq «namespace» images enabled, isPlan]
  simp only [List.forall_mem_cons, List.not_mem_nil, false_imp_iff, implies_true, and_true]
  refine ⟨⟨plan.mountInto (Workload.agent images), List.mem_cons_self, rfl, rfl, mounted _ ?_⟩,
    ⟨plan.mountInto (Workload.database images), List.mem_cons_of_mem _ List.mem_cons_self, rfl, rfl,
      mounted _ ?_⟩⟩
  · simp [Workload.agent, Workload.mount]
  · simp [Workload.database, Workload.mount]

/-- A planned volume is read as it was planned. -/
theorem pod_volumes_read {v : Volume}
    (mem : v ∈ (c.descriptor «namespace»).volumePlan.volumes) :
    v ∈ (PodSpec.format.read (PodSpec.format.write
      (Workload.pod c «namespace» images))).volumes.getD [] := by
  rw [readVolumes_eq]
  have there : v ∈ (Workload.pod c «namespace» images).volumes.getD [] := by
    rw [c.pod_eq «namespace» images enabled]
    refine Named.mem_putAll_of_mem mem ?_
    show [Tls.caVolumeName, Tls.secretVolumeName].Nodup
    decide
  have plain : (∀ s ∈ v.configMap, s.other = []) ∧ (∀ s ∈ v.secret, s.other = []) ∧
      v.other = [] := by
    simp only [TlsDescriptor.volumePlan, VolumePlan.tls, List.mem_cons, List.not_mem_nil,
      or_false] at mem
    rcases mem with rfl | rfl <;> simp
  exact List.mem_map.2 ⟨v, there, Volume.read_write plain.1 plain.2.1 plain.2.2⟩

/-- In a stateful set with what was asked for, agent and database see the operator's secret and the
user's config map at the paths that the document names, and no two volumes have one name. -/
theorem sees_of_spec {j : Json}
    (same : j.get? "spec" =
      (StatefulSet.format.write (c.statefulSet «namespace» images)).get? "spec") :
    ∃ pod, (StatefulSet.format.read j).spec.bind (·.template.spec) = some pod ∧
      ((pod.volumes.getD []).map (·.name)).Nodup ∧
      ∀ name ∈ [Workload.agentContainer, Workload.databaseContainer],
        pod.Sees name Tls.secretMountPath
          (fun v => { name := v, secret := some { secretName := some c.operatorSecretName } }) ∧
        pod.Sees name Tls.caMountPath
          (fun v => { name := v, configMap := some { name := c.spec.tls.caConfigMap } }) := by
  have carried : "containers" ∉ (Workload.pod c «namespace» images).other.map Prod.fst := by
    rw [c.pod_eq «namespace» images enabled]
    show "containers" ∉ ["securityContext"]
    decide
  refine ⟨_, c.pod_of_spec «namespace» images same, ?_, fun name mem => ?_⟩
  · rw [readVolumes_names, (c.pod_volumes «namespace» images).1, if_pos enabled]
    decide
  · obtain ⟨k, isContainer, named, new, plain, mounts⟩ :=
      c.pod_mounts «namespace» images enabled name mem
    obtain ⟨isName, isMounts⟩ := Container.read_write new plain
    -- a container is read with its name and its mounts, and each mount finds its volume
    have container : Container.format.read (Container.format.write k) ∈
        (PodSpec.format.read (PodSpec.format.write
          (Workload.pod c «namespace» images))).containers := by
      rw [PodSpec.containers_read_write carried]
      exact List.mem_map_of_mem isContainer
    have sees {m : VolumeMount} {source : String → Volume}
        (isMount : m ∈ (c.descriptor «namespace»).volumePlan.mounts)
        (readOnly : m.readOnly = some true) (isNew : m.other = [])
        (isVolume : source m.name ∈ (c.descriptor «namespace»).volumePlan.volumes) :
        (PodSpec.format.read (PodSpec.format.write (Workload.pod c «namespace» images))).Sees name
          m.mountPath source :=
      ⟨_, container, isName.trans named, m, isMounts.symm ▸ mounts m isMount, rfl, readOnly, isNew,
        c.pod_volumes_read «namespace» images enabled isVolume⟩
    refine ⟨?_, ?_⟩
    · exact sees (List.mem_cons_of_mem _ List.mem_cons_self) rfl rfl
        (List.mem_cons_of_mem _ List.mem_cons_self)
    · exact sees List.mem_cons_self rfl rfl List.mem_cons_self

end

end Cluster

end ReplicaSetOperator
