import Mathlib.Data.List.Forall2
import ReplicaSetOperator.Proofs.Cluster.Mounts

/-!
# Merging volume plans

A plan is merged into lists in which anything may be there already, several things of one name
included. `Named.Merged` says what becomes of such a list: the first item of each planned name is
the planned one, and everything else stays what it is and where it is. `VolumePlan.Merged` says the
same of a pod and of the containers that are named.

A merge looks at the names of a list only, and leaves them where they are. So a plan that has the
same names takes the places of an earlier one, whatever the lists were like
(`Named.putAll_putAll`). The main statement is `VolumePlan.applyTo_supersedes`: of two plans with
TLS files the later one makes the same pod with the earlier one and without it.
-/

namespace ReplicaSetOperator

/-! ### Lists -/

namespace Named

variable {α : Type} {name : α → String}

/-- What becomes of a list when items are merged into it. The first item of each of their names is
the one that was merged, and behind it the later ones of that name are the same as before. What has
other names stays as it is, in its order. The names stay in their places, with new ones behind
them. -/
structure Merged (name : α → String) (items xs ys : List α) : Prop where
  first : ∀ item ∈ items, ys.find? (name · = name item) = some item
  later : ∀ item ∈ items,
    (ys.filter (name · = name item)).tail = (xs.filter (name · = name item)).tail
  others : ys.filter (name · ∉ items.map name) = xs.filter (name · ∉ items.map name)
  places : xs.map name <+: ys.map name
  distinct : (xs.map name).Nodup → (ys.map name).Nodup

/-- An item that is put comes first under its name, and takes the place of one. -/
theorem filter_put_self (item : α) (xs : List α) :
    (put name item xs).filter (name · = name item) =
      item :: (xs.filter (name · = name item)).tail := by
  induction xs with
  | nil => simp [put]
  | cons x xs ih =>
    rw [put]
    by_cases same : name x = name item
    · simp [same]
    · simp [same, ih]

/-- All items that are put come first under their names, as none of them has the name of another. -/
theorem filter_putAll_self {item : α} {items : List α} (mem : item ∈ items)
    (distinct : (items.map name).Nodup) (xs : List α) :
    (putAll name items xs).filter (name · = name item) =
      item :: (xs.filter (name · = name item)).tail := by
  induction items generalizing xs with
  | nil => cases mem
  | cons first rest ih =>
    rw [List.map_cons, List.nodup_cons] at distinct
    show (putAll name rest (put name first xs)).filter _ = _
    rcases List.mem_cons.1 mem with rfl | mem
    · -- the items that follow have other names
      have apart : ∀ later ∈ rest, decide (name later = name item) = false := fun later isLater =>
        decide_eq_false fun same => distinct.1 (List.mem_map.2 ⟨later, isLater, same⟩)
      rw [filter_putAll (q := fun n => decide (n = name item)) apart, filter_put_self]
    · have apart : decide (name first = name item) = false :=
        decide_eq_false fun same => distinct.1 (List.mem_map.2 ⟨item, mem, same.symm⟩)
      rw [ih mem distinct.2, filter_put (q := fun n => decide (n = name item)) apart]

/-- The names that are there stay in their places. -/
theorem map_isPrefix_putAll (items xs : List α) :
    xs.map name <+: (putAll name items xs).map name := by
  induction items generalizing xs with
  | nil => exact List.prefix_rfl
  | cons item rest ih =>
    have first : xs.map name <+: (put name item xs).map name := by
      rw [map_put]
      split
      · exact List.prefix_rfl
      · exact List.prefix_append _ _
    exact first.trans (ih (put name item xs))

/-- To put items of different names is to merge them. -/
theorem merged_putAll {items : List α} (distinct : (items.map name).Nodup) (xs : List α) :
    Merged name items xs (putAll name items xs) where
  first item mem := by
    rw [← List.head?_filter, filter_putAll_self mem distinct]
    rfl
  later item mem := by
    rw [filter_putAll_self mem distinct]
    rfl
  others := by
    refine filter_putAll (q := fun n => decide (n ∉ items.map name)) fun item mem => ?_
    exact decide_eq_false fun strange => strange (List.mem_map_of_mem mem)
  places := map_isPrefix_putAll items xs
  distinct := nodup_putAll

/-! ### One merge after another -/

/-- The later one of two items of one name takes the place of the earlier one. -/
theorem put_put {a b : α} (same : name a = name b) (xs : List α) :
    put name b (put name a xs) = put name b xs := by
  induction xs with
  | nil =>
    show put name b [a] = [b]
    rw [put, if_pos same]
  | cons x xs ih =>
    rw [put, put]
    -- both go to the first place of the name that they share
    by_cases here : name x = name a
    · rw [if_pos here, if_pos (here.trans same), put, if_pos same]
    · have elsewhere : name x ≠ name b := fun there => here (there.trans same.symm)
      rw [if_neg here, if_neg elsewhere, put, if_neg elsewhere, ih]

/-- An item that has its place already may as well be put first. -/
theorem put_comm {a b : α} (apart : name a ≠ name b) {xs : List α} (there : name a ∈ xs.map name) :
    put name a (put name b xs) = put name b (put name a xs) := by
  induction xs with
  | nil => cases there
  | cons x xs ih =>
    rw [put, put]
    by_cases isA : name x = name a
    · -- here `a` has its place, and `b` goes to one further back
      have notB : name x ≠ name b := isA ▸ apart
      rw [if_neg notB, if_pos isA, put, if_pos isA, put, if_neg apart]
    · rw [if_neg isA]
      by_cases isB : name x = name b
      · -- here `b` has its place, and `a` must have its own further back
        rw [if_pos isB, put, if_neg (Ne.symm apart), put, if_pos isB]
      · have inRest : name a ∈ xs.map name :=
          (List.mem_cons.1 there).resolve_left (Ne.symm isA)
        rw [if_neg isB, put, if_neg isA, put, if_neg isB, ih inRest]

/-- Nor does it matter for an item that has its place whether several others are put before it or
after it. -/
theorem put_putAll {a : α} {items : List α} (apart : name a ∉ items.map name) {xs : List α}
    (there : name a ∈ xs.map name) :
    put name a (putAll name items xs) = putAll name items (put name a xs) := by
  induction items generalizing xs with
  | nil => rfl
  | cons item rest ih =>
    rw [List.map_cons, List.mem_cons, not_or] at apart
    show put name a (putAll name rest (put name item xs)) =
      putAll name rest (put name item (put name a xs))
    rw [ih apart.2 (mem_map_put.2 (.inr there)), put_comm apart.1 there]

/-- Items that are put under the names of earlier ones take their places. -/
theorem putAll_putAll {items items' : List α} (names : items.map name = items'.map name)
    (distinct : (items.map name).Nodup) (xs : List α) :
    putAll name items' (putAll name items xs) = putAll name items' xs := by
  induction items generalizing items' xs with
  | nil =>
    obtain rfl : items' = [] := List.map_eq_nil_iff.1 names.symm
    rfl
  | cons a rest ih =>
    obtain ⟨b, rest', rfl, same, names⟩ := List.map_eq_cons_iff.1 names.symm
    rw [List.map_cons, List.nodup_cons, ← same] at distinct
    show putAll name rest' (put name b (putAll name rest (put name a xs))) =
      putAll name rest' (put name b xs)
    -- the first of the later items comes right behind the first of the earlier ones
    have there : name b ∈ (put name a xs).map name := mem_map_put.2 (.inl same)
    rw [put_putAll distinct.1 there, put_put same.symm, ih names.symm distinct.2]

end Named

/-! ### Pods -/

namespace VolumePlan

/-- What becomes of a pod when a plan is merged into it for the containers of some names: its
volumes and the mounts of those containers are merged with those of the plan, and nothing else
changes. -/
structure Merged (p : VolumePlan) (names : List String) (pod pod' : PodSpec) : Prop where
  volumes : ∃ vs, pod'.volumes = some vs ∧
    Named.Merged (·.name) p.volumes (pod.volumes.getD []) vs
  containers : List.Forall₂
    (fun k k' =>
      if k.name ∈ names then
        ∃ ms, k' = { k with volumeMounts := some ms } ∧
          Named.Merged (·.name) p.mounts (k.volumeMounts.getD []) ms
      else k' = k)
    pod.containers pod'.containers
  rest : pod' = { pod with volumes := pod'.volumes, containers := pod'.containers }

/-- The names of a plan are pairwise distinct. -/
structure Distinct (p : VolumePlan) : Prop where
  volumes : (p.volumes.map (·.name)).Nodup
  mounts : (p.mounts.map (·.name)).Nodup

variable {p p' : VolumePlan}

/-- The plan for the TLS files names its two volumes and its two mounts differently. -/
theorem distinct_tls (caConfigMap operatorSecret : String) :
    (tls caConfigMap operatorSecret).Distinct := by
  constructor
  · show [Tls.caVolumeName, Tls.secretVolumeName].Nodup
    decide
  · show [Tls.caVolumeName, Tls.secretVolumeName].Nodup
    decide

/-- To apply a plan is to merge it. -/
theorem merged_applyTo (distinct : p.Distinct) (names : List String) (pod : PodSpec) :
    p.Merged names pod (p.applyTo names pod) where
  volumes := ⟨_, rfl, Named.merged_putAll distinct.volumes _⟩
  containers := by
    refine List.forall₂_map_right_iff.2 (List.forall₂_same.2 fun k _ => ?_)
    split
    · exact ⟨_, rfl, Named.merged_putAll distinct.mounts _⟩
    · rfl
  rest := rfl

/-- A second plan with the names of the first one replaces what that one has mounted. -/
theorem mountInto_mountInto (distinct : p.Distinct)
    (same : p.mounts.map (·.name) = p'.mounts.map (·.name)) (k : Container) :
    p'.mountInto (p.mountInto k) = p'.mountInto k := by
  rw [mountInto, mountInto, mountInto, Option.getD_some,
    Named.putAll_putAll same distinct.mounts]

/-- A plan with the names of an earlier one, for the same containers and perhaps others, takes its
place. -/
theorem applyTo_applyTo (distinct : p.Distinct)
    (volumes : p.volumes.map (·.name) = p'.volumes.map (·.name))
    (mounts : p.mounts.map (·.name) = p'.mounts.map (·.name)) {names names' : List String}
    (contained : names ⊆ names') (pod : PodSpec) :
    p'.applyTo names' (p.applyTo names pod) = p'.applyTo names' pod := by
  have container (k : Container) :
      (fun k : Container => if k.name ∈ names' then p'.mountInto k else k)
          (if k.name ∈ names then p.mountInto k else k) =
        if k.name ∈ names' then p'.mountInto k else k := by
    by_cases early : k.name ∈ names
    · -- what the earlier plan was mounted into is called as before, so the later one finds it
      have late : (p.mountInto k).name ∈ names' := contained early
      simp only [early, contained early, late, if_true, mountInto_mountInto distinct mounts]
    · simp only [early, if_false]
  rw [applyTo, applyTo, applyTo, Option.getD_some, Named.putAll_putAll volumes distinct.volumes,
    List.map_map]
  simp only [Function.comp_def, container]

/-- A plan with TLS files makes of a pod what it makes of it after an earlier one that was mounted
into no other containers. The volumes of the plan and their mounts in the containers that are named
are the first of their names, and everything else stays as it was. -/
theorem applyTo_supersedes (caConfigMap operatorSecret caConfigMap' operatorSecret' : String)
    {names names' : List String} (contained : names ⊆ names') (pod : PodSpec) :
    (tls caConfigMap' operatorSecret').applyTo names'
        ((tls caConfigMap operatorSecret).applyTo names pod) =
      (tls caConfigMap' operatorSecret').applyTo names' pod ∧
    (tls caConfigMap operatorSecret).Merged names pod
      ((tls caConfigMap operatorSecret).applyTo names pod) := by
  have distinct := distinct_tls caConfigMap operatorSecret
  -- whatever the files come from, the plans call their volumes and mounts alike
  have volumes : (tls caConfigMap operatorSecret).volumes.map (·.name) =
      (tls caConfigMap' operatorSecret').volumes.map (·.name) := rfl
  have mounts : (tls caConfigMap operatorSecret).mounts.map (·.name) =
      (tls caConfigMap' operatorSecret').mounts.map (·.name) := rfl
  exact ⟨applyTo_applyTo distinct volumes mounts contained pod, merged_applyTo distinct names pod⟩

/-! ### A pod with volumes of the same names -/

/-- A pod, in an example, that has two volumes of one planned name, and a container that mounts
something under the other one. -/
def crowded : PodSpec where
  containers :=
    [{ name := "mongodb-agent", volumeMounts := some
        [{ name := Tls.secretVolumeName, mountPath := "/old" },
         { name := "logs", mountPath := "/" }] },
     { name := "mongod" }, { name := "sidecar" }]
  volumes := some
    [{ name := Tls.caVolumeName }, { name := "logs" },
     { name := Tls.caVolumeName, secret := some { secretName := some "spare" } }]

/-- The volumes after two plans are those of the second one, with the spare one in its place, and
the container that is not named mounts nothing. -/
theorem applyTo_supersedes_crowded :
    ["mongodb-agent"] ⊆ ["mongod", "mongodb-agent"] ∧
    (tls "new-ca" "db-key").applyTo ["mongod", "mongodb-agent"]
        ((tls "old-ca" "spare").applyTo ["mongodb-agent"] crowded) =
      (tls "new-ca" "db-key").applyTo ["mongod", "mongodb-agent"] crowded ∧
    ((tls "new-ca" "db-key").applyTo ["mongod", "mongodb-agent"] crowded).volumes = some
      [{ name := Tls.caVolumeName, configMap := some { name := "new-ca" } }, { name := "logs" },
       { name := Tls.caVolumeName, secret := some { secretName := some "spare" } },
       { name := Tls.secretVolumeName, secret := some { secretName := some "db-key" } }] ∧
    ((tls "old-ca" "spare").applyTo ["mongodb-agent"] crowded).containers.map
        (fun k => (k.volumeMounts.getD []).map (·.name)) =
      [[Tls.secretVolumeName, "logs", Tls.caVolumeName], [], []] ∧
    (tls "old-ca" "spare").Merged ["mongodb-agent"] crowded
      ((tls "old-ca" "spare").applyTo ["mongodb-agent"] crowded) := by
  have contained : ["mongodb-agent"] ⊆ ["mongod", "mongodb-agent"] := by decide
  obtain ⟨superseded, merged⟩ :=
    applyTo_supersedes "old-ca" "spare" "new-ca" "db-key" contained crowded
  exact ⟨contained, superseded, rfl, rfl, merged⟩

end VolumePlan

end ReplicaSetOperator
