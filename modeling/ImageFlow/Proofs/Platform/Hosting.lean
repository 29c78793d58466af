import ImageFlow.Proofs.Platform.Registrations
import ImageFlow.Proofs.Stateful
import Mathlib.Order.Bounds.Defs

/-!
# Every registered kernel has a host

A context keeps its kernels apart from the targets that host them, and only the way in which
contexts come about ties the two together. A registration that succeeds enters one new name and
hosts it on a target that is there; one that fails does neither. A target is added behind the others
and under a new name, and none is ever taken away. So the names of targets stay different, the
default target stays first and every registered name stays hosted. The lowest index that hosts a
name is therefore there to be chosen.
-/

namespace ImageFlow

/-! ## Targets -/

namespace Target

variable {targets : List Target} {target : Target} {kernel name : String} {index host : Nat}

/-- The target at an index hosts a kernel. -/
def HostsAt (targets : List Target) (kernel : String) (index : Nat) : Prop :=
  ∃ target, targets[index]? = some target ∧ target.supports kernel = true

theorem hostsAt_iff_any :
    HostsAt targets kernel index ↔ (targets[index]?).any (·.supports kernel) = true := by
  rw [HostsAt, Option.any_eq_true]

theorem supports_addKernel :
    (target.addKernel kernel).supports name = true ↔
      name = kernel ∨ target.supports name = true := by
  simp only [supports, addKernel, Ordered.contains_iff]
  exact Ordered.mem_insert

/-- Hosting a kernel renames no target. -/
theorem names_modify (targets : List Target) (host : Nat) (kernel : String) :
    (targets.modify host (·.addKernel kernel)).map Target.name = targets.map Target.name := by
  apply List.ext_getElem?
  intro place
  rw [List.getElem?_map, List.getElem?_modify, List.getElem?_map]
  cases targets[place]? with
  | none => rfl
  | some target =>
    dsimp only [Functor.map, Option.map]
    split <;> rfl

theorem HostsAt.modify (h : HostsAt targets name index) (host : Nat) (kernel : String) :
    HostsAt (targets.modify host (·.addKernel kernel)) name index := by
  obtain ⟨target, htarget, hsupports⟩ := h
  by_cases hsame : host = index
  · refine ⟨target.addKernel kernel, ?_, supports_addKernel.2 (.inr hsupports)⟩
    rw [List.getElem?_modify, htarget, hsame]
    simp
  · refine ⟨target, ?_, hsupports⟩
    rw [List.getElem?_modify, htarget]
    simp [hsame]

theorem hostsAt_modify_self (h : host < targets.length) (kernel : String) :
    HostsAt (targets.modify host (·.addKernel kernel)) kernel host := by
  refine ⟨targets[host].addKernel kernel, ?_, supports_addKernel.2 (.inl rfl)⟩
  rw [List.getElem?_modify_eq, List.getElem?_eq_getElem h]
  rfl

theorem HostsAt.append (h : HostsAt targets name index) (others : List Target) :
    HostsAt (targets ++ others) name index := by
  obtain ⟨target, htarget, hsupports⟩ := h
  refine ⟨target, ?_, hsupports⟩
  rw [List.getElem?_append_left (List.getElem?_eq_some_iff.1 htarget).1, htarget]

end Target

/-! ## Policies -/

namespace TargetPolicy

variable {targets : List Target} {kernel : String} {index : Nat}

/-- What a configured policy is to choose for a kernel. -/
def Chooses (targets : List Target) (kernel : String) : TargetPolicy → Nat → Prop
  | lowestIndex, index => IsLeast {place | Target.HostsAt targets kernel place} index
  | named name, index =>
    ∃ target, targets[index]? = some target ∧ target.name = name ∧ target.supports kernel = true

theorem Chooses.hostsAt {policy : TargetPolicy} (h : policy.Chooses targets kernel index) :
    Target.HostsAt targets kernel index := by
  cases policy with
  | lowestIndex => exact h.1
  | named name =>
    obtain ⟨target, htarget, -, hsupports⟩ := h
    exact ⟨target, htarget, hsupports⟩

theorem assign_lowestIndex_eq_some_iff :
    lowestIndex.assign kernel targets = some index ↔ lowestIndex.Chooses targets kernel index := by
  rw [assign, List.findIdx?_eq_some_iff_getElem]
  constructor
  · rintro ⟨hindex, hsupports, hbefore⟩
    refine ⟨⟨targets[index], List.getElem?_eq_getElem hindex, hsupports⟩, ?_⟩
    rintro place ⟨target, htarget, htargetSupports⟩
    by_contra hlt
    obtain ⟨hplace, rfl⟩ := List.getElem?_eq_some_iff.1 htarget
    exact hbefore place (Nat.lt_of_not_le hlt) htargetSupports
  · rintro ⟨⟨target, htarget, hsupports⟩, hleast⟩
    obtain ⟨hindex, rfl⟩ := List.getElem?_eq_some_iff.1 htarget
    refine ⟨hindex, hsupports, fun place hplace hearlier ↦ ?_⟩
    have hhosts : Target.HostsAt targets kernel place :=
      ⟨_, List.getElem?_eq_getElem (Nat.lt_trans hplace hindex), hearlier⟩
    exact absurd (hleast hhosts) (Nat.not_le.2 hplace)

/-- If names differ, a name that is looked for is found at its only place. -/
theorem findIdx?_name_eq_some_iff (hnodup : (targets.map Target.name).Nodup) {name : String} :
    targets.findIdx? (·.name == name) = some index ↔
      ∃ target, targets[index]? = some target ∧ target.name = name := by
  rw [List.findIdx?_eq_some_iff_getElem]
  constructor
  · rintro ⟨hindex, hname, -⟩
    exact ⟨targets[index], List.getElem?_eq_getElem hindex, beq_iff_eq.1 hname⟩
  · rintro ⟨target, htarget, rfl⟩
    obtain ⟨hindex, rfl⟩ := List.getElem?_eq_some_iff.1 htarget
    refine ⟨hindex, beq_self_eq_true _, fun place hplace hearlier ↦ ?_⟩
    have hinside : place < targets.length := Nat.lt_trans hplace hindex
    have hsame : (targets.map Target.name)[place]? = (targets.map Target.name)[index]? := by
      rw [List.getElem?_map, List.getElem?_map, List.getElem?_eq_getElem hinside,
        List.getElem?_eq_getElem hindex, Option.map_some, Option.map_some, beq_iff_eq.1 hearlier]
    have hlength : place < (targets.map Target.name).length := by
      rw [List.length_map]
      exact hinside
    exact absurd ((List.getElem?_inj hlength hnodup).1 hsame) (Nat.ne_of_lt hplace)

/-- A named policy finds its target first, and then asks whether the kernel is hosted there. -/
theorem assign_named_eq_some_iff_findIdx? {name : String} :
    (named name).assign kernel targets = some index ↔
      targets.findIdx? (·.name == name) = some index ∧ Target.HostsAt targets kernel index := by
  rw [assign, Target.hostsAt_iff_any]
  cases targets.findIdx? (·.name == name) with
  | none => simp
  | some place =>
    dsimp only
    rw [Option.ite_none_right_eq_some]
    constructor
    · rintro ⟨hany, ⟨⟩⟩
      exact ⟨rfl, hany⟩
    · rintro ⟨⟨⟩, hany⟩
      exact ⟨hany, rfl⟩

theorem assign_named_eq_some_iff (hnodup : (targets.map Target.name).Nodup) {name : String} :
    (named name).assign kernel targets = some index ↔
      (named name).Chooses targets kernel index := by
  rw [assign_named_eq_some_iff_findIdx?, findIdx?_name_eq_some_iff hnodup]
  constructor
  · rintro ⟨⟨target, htarget, hname⟩, other, hother, hsupports⟩
    obtain rfl : target = other := Option.some.inj (htarget.symm.trans hother)
    exact ⟨target, htarget, hname, hsupports⟩
  · rintro ⟨target, htarget, hname, hsupports⟩
    exact ⟨⟨target, htarget, hname⟩, target, htarget, hsupports⟩

/-- A configured policy makes its choice, and makes none only if there is nothing to choose. -/
theorem assign_eq_some_iff (hnodup : (targets.map Target.name).Nodup) (policy : TargetPolicy) :
    policy.assign kernel targets = some index ↔ policy.Chooses targets kernel index := by
  cases policy with
  | lowestIndex => exact assign_lowestIndex_eq_some_iff
  | named name => exact assign_named_eq_some_iff hnodup

/-- If a kernel is hosted anywhere, there is a lowest index for it. -/
theorem exists_lowestIndex_chooses (h : Target.HostsAt targets kernel index) :
    ∃ least, lowestIndex.Chooses targets kernel least := by
  obtain ⟨target, htarget, hsupports⟩ := h
  have hsome : (lowestIndex.assign kernel targets).isSome = true := by
    rw [assign, List.findIdx?_isSome, List.any_eq_true]
    exact ⟨target, List.mem_of_getElem? htarget, hsupports⟩
  obtain ⟨least, hleast⟩ := Option.isSome_iff_exists.1 hsome
  exact ⟨least, assign_lowestIndex_eq_some_iff.1 hleast⟩

end TargetPolicy

/-! ## Registries -/

theorem Context.lt_of_targetIndexIn {targets : List Target} {name : String} {index : Nat}
    (h : Context.targetIndexIn targets name = .ok index) : index < targets.length := by
  unfold targetIndexIn at h
  split at h
  · next hfound =>
    cases h
    exact (List.findIdx?_eq_some_iff_getElem.1 hfound).1
  · cases h

namespace Registry

variable {registry changed : Registry} {targets : List Target} {kernel : Kernel} {id : KernelId}

theorem kernels_of_register (h : registry.register kernel = .ok (id, changed)) :
    changed.kernels = Ordered.set kernel.name { id, kernel } registry.kernels := by
  obtain ⟨-, -, rfl⟩ := register_eq_ok_iff.1 h
  rfl

theorem contains_of_lookup {name : String} {entry : RegisteredKernel}
    (h : registry.lookup name = .ok entry) : registry.contains name = true := by
  rw [contains, lookup_eq_ok_iff.1 h]
  rfl

/-- Targets with different names, the default one first, host all kernels of a registry. -/
structure HostedOn (registry : Registry) (targets : List Target) : Prop where
  /-- A kernel is registered under its own name. -/
  keyed : ∀ entry ∈ registry.kernels, entry.2.name = entry.1
  names_nodup : (targets.map Target.name).Nodup
  default_first : (targets.map Target.name).head? = some Kernels.defaultTargetName
  hosted : ∀ name, registry.contains name = true → ∃ index, Target.HostsAt targets name index

namespace HostedOn

/-- At first there is nothing to host. -/
theorem empty : Registry.empty.HostedOn [.empty Kernels.defaultTargetName] where
  keyed _ hentry := nomatch hentry
  names_nodup := List.nodup_singleton _
  default_first := rfl
  hosted _ hname := nomatch hname

theorem pos (h : registry.HostedOn targets) : 0 < targets.length := by
  rw [List.length_pos_iff]
  rintro rfl
  cases h.default_first

theorem name_of_lookup (h : registry.HostedOn targets) {name : String} {entry : RegisteredKernel}
    (hentry : registry.lookup name = .ok entry) : entry.name = name :=
  h.keyed _ (Ordered.mem_of_find?_eq_some (lookup_eq_ok_iff.1 hentry))

/-- A kernel is registered and hosted on a target that is there. -/
theorem register (h : registry.HostedOn targets)
    (hregister : registry.register kernel = .ok (id, changed)) {host : Nat}
    (hhost : host < targets.length) :
    changed.HostedOn (targets.modify host (·.addKernel kernel.name)) where
  keyed entry hentry := by
    rw [kernels_of_register hregister] at hentry
    rcases Ordered.mem_of_mem_set hentry with rfl | hold
    · rfl
    · exact h.keyed entry hold
  names_nodup := by
    rw [Target.names_modify]
    exact h.names_nodup
  default_first := by
    rw [Target.names_modify]
    exact h.default_first
  hosted name hname := by
    by_cases hnew : name = kernel.name
    · exact ⟨host, hnew ▸ Target.hostsAt_modify_self hhost kernel.name⟩
    · have hold : registry.contains name = true := by
        rw [contains, ← Ordered.find?_alter_of_ne hnew, ← Ordered.set,
          ← kernels_of_register hregister]
        exact hname
      obtain ⟨index, hindex⟩ := h.hosted name hold
      exact ⟨index, hindex.modify host kernel.name⟩

/-- A target with a new name is added. -/
theorem append (h : registry.HostedOn targets) {target : Target}
    (hnew : targets.any (·.name == target.name) = false) :
    registry.HostedOn (targets ++ [target]) where
  keyed := h.keyed
  names_nodup := by
    rw [List.map_append, List.map_singleton, List.nodup_append]
    refine ⟨h.names_nodup, List.nodup_singleton _, ?_⟩
    rintro name hname _ hsame rfl
    obtain ⟨other, hother, hsame'⟩ := List.mem_map.1 hname
    have hdiffers := List.any_eq_false.1 hnew other hother
    exact hdiffers (beq_iff_eq.2 (hsame'.trans (List.mem_singleton.1 hsame)))
  default_first := by
    rw [List.map_append, List.head?_append, h.default_first, Option.some_or]
  hosted name hname := by
    obtain ⟨index, hindex⟩ := h.hosted name hname
    exact ⟨index, hindex.append [target]⟩

theorem registerAll {target : Target} (h : registry.HostedOn [target]) (kernels : List Kernel) :
    (registry.registerAll target kernels).2.1.HostedOn
      [(registry.registerAll target kernels).2.2] := by
  induction kernels generalizing registry target with
  | nil => exact h
  | cons kernel rest ih =>
    rw [Registry.registerAll]
    split
    · exact h
    · next changed hregister => exact ih (h.register hregister Nat.zero_lt_one)

theorem addTargets (h : registry.HostedOn targets) {others all : List Target}
    (hadd : Context.addTargets targets others = .ok all) : registry.HostedOn all := by
  induction others generalizing targets with
  | nil =>
    cases hadd
    exact h
  | cons target rest ih =>
    rw [Context.addTargets] at hadd
    split at hadd
    · cases hadd
    · next hnew => exact ih (h.append (Bool.eq_false_iff.2 hnew)) hadd

theorem addKernels (h : registry.HostedOn targets) {kernels : List (Kernel × Option String)}
    {all : List Target} (hadd : Context.addKernels registry targets kernels = .ok (changed, all)) :
    changed.HostedOn all := by
  induction kernels generalizing registry targets with
  | nil =>
    cases hadd
    exact h
  | cons entry rest ih =>
    obtain ⟨kernel, host⟩ := entry
    obtain ⟨index, hindex, hadd⟩ : ∃ index, index < targets.length ∧
        (registry.register kernel >>= fun registered ↦ Context.addKernels registered.2
          (targets.modify index (·.addKernel kernel.name)) rest) = .ok (changed, all) := by
      cases host with
      | none => exact ⟨0, h.pos, hadd⟩
      | some name =>
        obtain ⟨index, hindex, hadd⟩ := exists_of_bind_eq_ok hadd
        exact ⟨index, Context.lt_of_targetIndexIn hindex, hadd⟩
    obtain ⟨⟨id, registered⟩, hregister, hadd⟩ := exists_of_bind_eq_ok hadd
    exact ih (h.register hregister hindex) hadd

end HostedOn

end Registry

/-! ## Contexts -/

namespace Context

variable {spec : ContextSpec} {context changed : Context} {kernel : Kernel} {id : KernelId}

theorem hostedOn_build (h : build spec = .ok context) :
    context.registry.HostedOn context.targets ∧ context.policy = spec.policy := by
  have hfirst := Registry.HostedOn.empty.registerAll
    (if spec.standardKernels then Kernels.standard spec.boxFilter else [])
  unfold build at h
  generalize Registry.empty.registerAll _ _ = begun at h hfirst
  obtain ⟨result, registry, target⟩ := begun
  obtain ⟨_, -, h⟩ := exists_of_bind_eq_ok h
  obtain ⟨targets, htargets, h⟩ := exists_of_bind_eq_ok h
  obtain ⟨⟨_, _⟩, hkernels, h⟩ := exists_of_bind_eq_ok h
  cases h
  exact ⟨(hfirst.addTargets htargets).addKernels hkernels, rfl⟩

theorem hostedOn_register (h : context.registry.HostedOn context.targets)
    (hregister : context.register kernel = .ok (id, changed)) :
    changed.registry.HostedOn changed.targets ∧ changed.policy = context.policy := by
  obtain ⟨⟨_, registry⟩, hregistry, hregister⟩ := exists_of_bind_eq_ok hregister
  cases hregister
  have hpos := h.pos
  have hkept := h.register hregistry hpos
  refine ⟨?_, rfl⟩
  cases htargets : context.targets with
  | nil => simp [htargets] at hpos
  | cons first others =>
    rw [htargets] at hkept
    exact hkept

/-- The context after some kernels have been registered, but for those whose name is taken. -/
def registerEach (context : Context) (kernels : List Kernel) : Context :=
  kernels.foldl (fun context kernel ↦
    match context.register kernel with
    | .ok (_, changed) => changed
    | .error _ => context) context

theorem hostedOn_registerEach (h : context.registry.HostedOn context.targets)
    (kernels : List Kernel) :
    (context.registerEach kernels).registry.HostedOn (context.registerEach kernels).targets ∧
      (context.registerEach kernels).policy = context.policy := by
  induction kernels generalizing context with
  | nil => exact ⟨h, rfl⟩
  | cons kernel rest ih =>
    rw [registerEach, List.foldl_cons]
    split
    · next hregister =>
      obtain ⟨hhosted, hpolicy⟩ := hostedOn_register h hregister
      obtain ⟨hlast, hsame⟩ := ih hhosted
      exact ⟨hlast, hsame.trans hpolicy⟩
    · exact ih h

end Context

end ImageFlow
