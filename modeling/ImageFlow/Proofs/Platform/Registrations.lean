import ImageFlow.Platform.Context
import ImageFlow.Proofs.Ordered

/-!
# A registry is what its history has left

Kernels can be registered and given up in any order, one at a time or in batches that end at the
first name that is taken. What a registry holds then is told by the requests that were successful:
a name is registered if nothing has happened to it since it was registered last, and it stands for
the kernel and the number of that registration. One more success changes this for its own name only,
and so it does in the registry. Numbers are given out from zero on without a gap, and giving up a
name gives no number back, so the next number is the count of all registrations so far. A batch is
no more than some single registrations, one after the other.
-/

namespace ImageFlow

namespace Registry

/-! ## Requests and what they achieve -/

/-- What clients can ask of a registry in order to change it. -/
inductive Request
  | register (kernel : Kernel)
  /-- A batch, whose kernels are hosted on a target. -/
  | registerAll (target : Target) (kernels : List Kernel)
  | unregister (name : String)

/-- A registration that was made, or a name that was given up. -/
inductive Success
  | registered (entry : RegisteredKernel)
  | unregistered (name : String)

namespace Success

/-- The name to which something has happened. -/
def name : Success → String
  | registered entry => entry.name
  | unregistered name => name

/-- The registration, if it was one. -/
def entry? : Success → Option RegisteredKernel
  | registered entry => some entry
  | unregistered _ => none

end Success

/-- The registry after a request. -/
def apply (registry : Registry) : Request → Registry
  | .register kernel =>
    match registry.register kernel with
    | .ok (_, changed) => changed
    | .error _ => registry
  | .registerAll target kernels => (registry.registerAll target kernels).2.1
  | .unregister name => (registry.unregister name).2

/-- The registry after a list of requests. -/
def applyAll (registry : Registry) (requests : List Request) : Registry :=
  requests.foldl apply registry

/-- The registrations that are made of a batch: those before the first one that fails. -/
def entered (registry : Registry) : List Kernel → List RegisteredKernel
  | [] => []
  | kernel :: rest =>
    match registry.register kernel with
    | .ok (id, changed) => { id, kernel } :: changed.entered rest
    | .error _ => []

/-- What a request achieves. -/
def achieved (registry : Registry) : Request → List Success
  | .register kernel =>
    match registry.register kernel with
    | .ok (id, _) => [.registered { id, kernel }]
    | .error _ => []
  | .registerAll _ kernels => (registry.entered kernels).map .registered
  | .unregister name => if (registry.unregister name).1 then [.unregistered name] else []

/-- What a list of requests achieves, in order. -/
def history (registry : Registry) : List Request → List Success
  | [] => []
  | request :: rest => registry.achieved request ++ (registry.apply request).history rest

/-- All registrations of a history, in order. -/
def registrations (history : List Success) : List RegisteredKernel :=
  history.filterMap Success.entry?

/-- A registration is the last thing that has happened to a name. -/
def Stands (history : List Success) (name : String) (entry : RegisteredKernel) : Prop :=
  ∃ before after, history = before ++ .registered entry :: after ∧ entry.name = name ∧
    ∀ success ∈ after, success.name ≠ name

variable {registry changed : Registry} {past : List Success} {success : Success} {name : String}
  {entry other : RegisteredKernel} {kernel : Kernel} {id : KernelId} {target : Target}

/-! ## Histories -/

theorem not_stands_nil : ¬ Stands [] name entry := by
  rintro ⟨before, after, hsplit, -⟩
  cases before <;> cases hsplit

/-- One more success decides about its own name and about no other. -/
theorem stands_concat_iff : Stands (past ++ [success]) name entry ↔
    success = .registered entry ∧ entry.name = name ∨
      success.name ≠ name ∧ Stands past name entry := by
  constructor
  · rintro ⟨before, after, hsplit, hentry, hafter⟩
    rcases List.eq_nil_or_concat after with rfl | ⟨after, last, rfl⟩
    · exact .inl ⟨List.singleton_inj.1 (List.append_inj' hsplit rfl).2, hentry⟩
    · rw [List.concat_eq_append, ← List.cons_append, ← List.append_assoc] at hsplit
      obtain ⟨rfl, hlast⟩ := List.append_inj' hsplit rfl
      obtain rfl := List.singleton_inj.1 hlast
      exact .inr ⟨hafter success (by simp), before, after, rfl, hentry,
        fun other hother ↦ hafter other (by simp [hother])⟩
  · rintro (⟨rfl, hentry⟩ | ⟨hname, before, after, rfl, hentry, hafter⟩)
    · exact ⟨past, [], rfl, hentry, fun _ hnone ↦ nomatch hnone⟩
    · refine ⟨before, after ++ [success], by simp, hentry, fun other hother ↦ ?_⟩
      rcases List.mem_append.1 hother with hold | hnew
      · exact hafter other hold
      · exact List.mem_singleton.1 hnew ▸ hname

theorem stands_registered_iff : Stands (past ++ [.registered entry]) entry.name other ↔
    entry = other := by
  rw [stands_concat_iff]
  constructor
  · rintro (⟨⟨⟩, -⟩ | ⟨hne, -⟩)
    · rfl
    · exact absurd rfl hne
  · rintro rfl
    exact .inl ⟨rfl, rfl⟩

theorem not_stands_unregistered : ¬ Stands (past ++ [.unregistered name]) name entry := by
  rw [stands_concat_iff]
  rintro (⟨⟨⟩, -⟩ | ⟨hne, -⟩)
  exact absurd rfl hne

theorem stands_concat_of_ne (h : success.name ≠ name) :
    Stands (past ++ [success]) name entry ↔ Stands past name entry := by
  rw [stands_concat_iff]
  constructor
  · rintro (⟨rfl, hentry⟩ | ⟨-, hstands⟩)
    · exact absurd hentry h
    · exact hstands
  · exact fun hstands ↦ .inr ⟨h, hstands⟩

/-! ## Single requests -/

theorem lookup_eq_ok_iff :
    registry.lookup name = .ok entry ↔ Ordered.find? name registry.kernels = some entry := by
  unfold lookup
  split <;> simp [*]

theorem mem_names_iff_isSome :
    name ∈ registry.names ↔ (Ordered.find? name registry.kernels).isSome = true :=
  Ordered.isSome_find?_iff.symm

/-- A registration fails if the name is taken, and in no other case. -/
theorem register_eq_error_iff {error : RegistryError} : registry.register kernel = .error error ↔
    kernel.name ∈ registry.names ∧ error = .duplicateKernel kernel.name := by
  rw [mem_names_iff_isSome]
  unfold register
  split <;> simp [*, eq_comm]

theorem register_eq_ok_iff : registry.register kernel = .ok (id, changed) ↔
    kernel.name ∉ registry.names ∧ id = ⟨registry.nextId⟩ ∧ changed =
      { kernels := Ordered.set kernel.name { id, kernel } registry.kernels
        nextId := registry.nextId + 1 } := by
  rw [mem_names_iff_isSome]
  unfold register
  split
  · simp [*]
  · simp only [*, Except.ok.injEq, Prod.mk.injEq, Option.isSome_none, Bool.false_eq_true,
      not_false_eq_true, true_and]
    constructor
    · rintro ⟨rfl, rfl⟩
      exact ⟨rfl, rfl⟩
    · rintro ⟨rfl, rfl⟩
      exact ⟨rfl, rfl⟩

theorem unregister_eq_true_iff :
    (registry.unregister name).1 = true ↔ name ∈ registry.names :=
  mem_names_iff_isSome.symm

/-! ## Registries and histories -/

/-- The names are in order, each of them is found as its history has left it, and the numbers given
out are those below the next one. -/
structure Records (registry : Registry) (past : List Success) : Prop where
  sorted : Ordered.Sorted registry.names
  find?_iff : ∀ name entry,
    Ordered.find? name registry.kernels = some entry ↔ Stands past name entry
  ids : (registrations past).map (·.id.index) = List.range registry.nextId

namespace Records

theorem empty : Registry.empty.Records [] where
  sorted := List.Pairwise.nil
  find?_iff _ _ := ⟨nofun, fun hstands ↦ absurd hstands not_stands_nil⟩
  ids := rfl

theorem register (h : registry.Records past)
    (hregister : registry.register kernel = .ok (id, changed)) :
    changed.Records (past ++ [.registered { id, kernel }]) := by
  obtain ⟨-, hid, rfl⟩ := register_eq_ok_iff.1 hregister
  refine ⟨Ordered.sorted_alter h.sorted, fun name entry ↦ ?_, ?_⟩
  · by_cases hname : kernel.name = name
    · subst hname
      rw [Ordered.set, Ordered.find?_alter_self h.sorted, Option.some.injEq]
      exact stands_registered_iff.symm
    · have hother : (Success.registered ⟨id, kernel⟩).name ≠ name := hname
      rw [Ordered.set, Ordered.find?_alter_of_ne (Ne.symm hname), h.find?_iff,
        stands_concat_of_ne hother]
  · have hnew : registrations (past ++ [.registered { id, kernel }]) =
        registrations past ++ [⟨id, kernel⟩] := List.filterMap_append
    rw [hnew, List.map_append, h.ids, List.range_succ, List.map_singleton, hid]

theorem unregister (h : registry.Records past) (name : String) :
    (registry.unregister name).2.Records (past ++ [.unregistered name]) := by
  refine ⟨h.sorted.sublist (Ordered.keys_remove_sublist name registry.kernels),
    fun asked entry ↦ ?_, ?_⟩
  · by_cases hname : name = asked
    · subst hname
      rw [Registry.unregister, Ordered.find?_remove_self]
      exact iff_of_false nofun not_stands_unregistered
    · have hother : (Success.unregistered name).name ≠ asked := hname
      rw [Registry.unregister, Ordered.find?_remove_of_ne (Ne.symm hname), h.find?_iff,
        stands_concat_of_ne hother]
  · have hsame : registrations (past ++ [.unregistered name]) = registrations past :=
      List.filterMap_append.trans (List.append_nil _)
    rw [hsame]
    exact h.ids

theorem registerAll (h : registry.Records past) (kernels : List Kernel) :
    (registry.registerAll target kernels).2.1.Records
      (past ++ (registry.entered kernels).map .registered) := by
  -- The rest of a batch starts from what its first registration has left, with the history of that.
  induction kernels generalizing registry target past with
  | nil =>
    rw [entered, List.map_nil, List.append_nil]
    exact h
  | cons kernel rest ih =>
    rw [Registry.registerAll, entered]
    cases hregister : registry.register kernel with
    | error _ =>
      rw [List.map_nil, List.append_nil]
      exact h
    | ok answer =>
      rw [List.map_cons, List.append_cons]
      exact ih (h.register hregister)

/-- A request leaves what its successes are to leave. -/
theorem apply (h : registry.Records past) (request : Request) :
    (registry.apply request).Records (past ++ registry.achieved request) := by
  cases request with
  | register kernel =>
    rw [Registry.apply, achieved]
    cases hregister : registry.register kernel with
    | error _ =>
      rw [List.append_nil]
      exact h
    | ok answer => exact h.register hregister
  | registerAll target kernels => exact h.registerAll kernels
  | unregister name =>
    rw [Registry.apply, achieved]
    split
    · exact h.unregister name
    · next hname =>
      -- A name that is not there is given up in vain.
      have hnone : Ordered.find? name registry.kernels = none :=
        Option.not_isSome_iff_eq_none.1 hname
      rw [Registry.unregister, Ordered.remove_eq_self hnone, List.append_nil]
      exact h

theorem applyAll (h : registry.Records past) (requests : List Request) :
    (registry.applyAll requests).Records (past ++ registry.history requests) := by
  induction requests generalizing registry past with
  | nil =>
    rw [history, List.append_nil]
    exact h
  | cons request rest ih =>
    rw [history, ← List.append_assoc]
    exact ih (h.apply request)

end Records

/-! ## Batches -/

/-- A batch is a run of single registrations. It ends at the first name that is taken. -/
structure Batch (registry : Registry) (target : Target) (kernels first rest : List Kernel) :
    Prop where
  kernels_eq : kernels = first ++ rest
  registry_eq : registry.apply (.registerAll target kernels) =
    registry.applyAll (first.map .register)
  achieved_eq : registry.achieved (.registerAll target kernels) =
    registry.history (first.map .register)
  /-- All registrations of the run are successful. -/
  registered : (registrations (registry.history (first.map .register))).map
    RegisteredKernel.kernel = first
  answer_of_done : rest = [] → (registry.registerAll target kernels).1 = .ok ()
  answer_of_taken : ∀ kernel ∈ rest.head?,
    kernel.name ∈ (registry.apply (.registerAll target kernels)).names ∧
      (registry.registerAll target kernels).1 = .error (.duplicateKernel kernel.name)

/-- A kernel whose name is taken ends a batch before it has begun. -/
theorem batch_of_error {rest : List Kernel} (h : kernel.name ∈ registry.names) :
    registry.Batch target (kernel :: rest) [] (kernel :: rest) := by
  have hregister : registry.register kernel = .error (.duplicateKernel kernel.name) :=
    register_eq_error_iff.2 ⟨h, rfl⟩
  have hbatch : registry.registerAll target (kernel :: rest) =
      (.error (.duplicateKernel kernel.name), registry, target) := by
    rw [Registry.registerAll, hregister]
  have hentered : registry.entered (kernel :: rest) = [] := by rw [entered, hregister]
  refine ⟨rfl, ?_, ?_, rfl, nofun, ?_⟩
  · rw [apply, hbatch]
    rfl
  · rw [achieved, hentered]
    rfl
  · rintro _ ⟨⟩
    rw [apply, hbatch]
    exact ⟨h, rfl⟩

/-- A kernel that is registered comes before the others of its batch. -/
theorem Batch.cons {kernels first rest : List Kernel}
    (hregister : registry.register kernel = .ok (id, changed))
    (h : changed.Batch (target.addKernel kernel.name) kernels first rest) :
    registry.Batch target (kernel :: kernels) (kernel :: first) rest := by
  have hafter : registry.apply (.register kernel) = changed := by rw [apply, hregister]
  have hachieved : registry.achieved (.register kernel) = [.registered { id, kernel }] := by
    rw [achieved, hregister]
  have hbatch : registry.registerAll target (kernel :: kernels) =
      changed.registerAll (target.addKernel kernel.name) kernels := by
    rw [Registry.registerAll, hregister]
  have hentered : registry.entered (kernel :: kernels) =
      ⟨id, kernel⟩ :: changed.entered kernels := by
    rw [entered, hregister]
  have hhistory : registry.history ((kernel :: first).map .register) =
      .registered { id, kernel } :: changed.history (first.map .register) := by
    rw [List.map_cons, history, hachieved, hafter]
    rfl
  have hsame : registry.apply (.registerAll target (kernel :: kernels)) =
      changed.apply (.registerAll (target.addKernel kernel.name) kernels) := by
    rw [apply, hbatch]
    rfl
  refine ⟨congrArg (kernel :: ·) h.kernels_eq, ?_, ?_, ?_, ?_, ?_⟩
  · rw [hsame, h.registry_eq, List.map_cons, applyAll, applyAll, List.foldl_cons, hafter]
  · rw [hhistory, ← h.achieved_eq, achieved, hentered]
    rfl
  · rw [hhistory]
    exact congrArg (kernel :: ·) h.registered
  · rw [hbatch]
    exact h.answer_of_done
  · rw [hbatch, hsame]
    exact h.answer_of_taken

theorem exists_batch (registry : Registry) (target : Target) (kernels : List Kernel) :
    ∃ first rest, registry.Batch target kernels first rest := by
  induction kernels generalizing registry target with
  | nil => exact ⟨[], [], rfl, rfl, rfl, rfl, fun _ ↦ rfl, nofun⟩
  | cons kernel rest ih =>
    cases hregister : registry.register kernel with
    | error _ => exact ⟨[], _, batch_of_error (register_eq_error_iff.1 hregister).1⟩
    | ok answer =>
      obtain ⟨first, last, h⟩ := ih answer.2 (target.addKernel kernel.name)
      exact ⟨kernel :: first, last, h.cons hregister⟩

/-! ## Runs -/

/-- The registry lists and finds what a history has left, and the numbers that it gave out in the
course of it went up. They are counted, so with fewer than `2 ^ 32` registrations each of them fits
in 32 bits. -/
structure TrueTo (registry : Registry) (past : List Success) : Prop where
  names_increasing : registry.names.Pairwise (· < ·)
  mem_names_iff : ∀ name, name ∈ registry.names ↔ ∃ entry, Stands past name entry
  lookup_iff : ∀ name entry, registry.lookup name = .ok entry ↔ Stands past name entry
  ids_increasing :
    (registrations past).Pairwise fun earlier later ↦ earlier.id.index < later.id.index
  id_lt : ∀ entry ∈ registrations past, entry.id.index < registry.nextId
  nextId_eq : registry.nextId = (registrations past).length

theorem Records.trueTo (h : registry.Records past) : registry.TrueTo past where
  names_increasing := h.sorted.imp compareOfLessAndEq_eq_lt.1
  mem_names_iff name := by
    rw [mem_names_iff_isSome, Option.isSome_iff_exists]
    exact exists_congr (h.find?_iff name)
  lookup_iff name entry := lookup_eq_ok_iff.trans (h.find?_iff name entry)
  ids_increasing := List.pairwise_map.1 (h.ids ▸ List.pairwise_lt_range)
  id_lt entry hentry := by
    have hmem := List.mem_map_of_mem (f := (·.id.index)) hentry
    rw [h.ids] at hmem
    exact List.mem_range.1 hmem
  nextId_eq := by rw [← List.length_range (n := registry.nextId), ← h.ids, List.length_map]

/-- After any requests, of which some may have failed, a registry is true to what they have
achieved: it lists, in strictly increasing order, the names whose last registration was not followed
by a withdrawal, finds for each of them the kernel and the number of that registration, and has
never given out a number twice. The next registration fails if and only if its name is listed, and
then it changes nothing; a withdrawal is successful if and only if its name is listed; the next
batch is a run of single registrations up to the first name that is listed by then. -/
theorem trueTo_applyAll (requests : List Request) :
    let registry := empty.applyAll requests
    registry.TrueTo (empty.history requests) ∧
      (∀ kernel, (∃ error, registry.register kernel = .error error) ↔
        kernel.name ∈ registry.names) ∧
      (∀ kernel, kernel.name ∈ registry.names →
        registry.apply (.register kernel) = registry ∧
          registry.achieved (.register kernel) = []) ∧
      (∀ name, (registry.unregister name).1 = true ↔ name ∈ registry.names) ∧
      ∀ target kernels, ∃ first rest, registry.Batch target kernels first rest := by
  intro registry
  have hrecords : registry.Records (empty.history requests) := Records.empty.applyAll requests
  refine ⟨hrecords.trueTo, fun kernel ↦ ?_, fun kernel htaken ↦ ?_,
    fun name ↦ unregister_eq_true_iff, exists_batch registry⟩
  · simp [register_eq_error_iff]
  · have hregister : registry.register kernel = .error (.duplicateKernel kernel.name) :=
      register_eq_error_iff.2 ⟨htaken, rfl⟩
    rw [apply, achieved, hregister]
    exact ⟨rfl, rfl⟩

/-- A name that has been given up is registered again under a new number, and the batch in which
that happens ends at the first name that it repeats. -/
example : (registrations (empty.history [.register Kernels.copyImage,
      .unregister Kernels.copyImage.name, .registerAll (.empty Kernels.defaultTargetName)
        [Kernels.bitNot, Kernels.copyImage, Kernels.bitNot, Kernels.box3x3 .means]])).map
        (fun entry ↦ (entry.name, entry.id.index)) =
    [("org.khronos.copy_image", 0), ("org.khronos.openvx.not", 1), ("org.khronos.copy_image", 2)] :=
  by decide +kernel

end Registry

end ImageFlow
