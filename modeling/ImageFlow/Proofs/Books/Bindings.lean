import ImageFlow.Proofs.Books.Edit
import ImageFlow.Proofs.Session.Operation
import ImageFlow.Proofs.Stateful

/-!
# Legal bindings

A node is added if as many handles are given as its kernel has slots, all of them are live, no two
slots share an object that one of them writes, and every slot suits its object. These rules are
looked at one after the other, and within one rule slot by slot. So the error names the first rule
that is broken, and the first slot that breaks it; of shared objects it names the first of all pairs
of slots, the pairs being ordered by their first slots. A node that is added stands behind all
others under a number of its own, and its slots are entered at the objects and at what the node
writes.
-/

namespace ImageFlow

open ImageFlow.Graph

/-! ## First places -/

/-- The first entry of a list of which something holds, with its place. -/
structure FirstAt {α : Type} (P : α → Prop) (entries : List α) (place : Nat) (entry : α) :
    Prop where
  getElem?_eq : entries[place]? = some entry
  holds : P entry
  least : ∀ earlier other, entries[earlier]? = some other → P other → place ≤ earlier

theorem not_firstAt_nil {α : Type} {P : α → Prop} {place : Nat} {entry : α} :
    ¬FirstAt P [] place entry :=
  fun h ↦ nomatch h.getElem?_eq

theorem FirstAt.place_eq {α : Type} {P : α → Prop} {entries : List α} {place place' : Nat}
    {entry entry' : α} (h : FirstAt P entries place entry) (h' : FirstAt P entries place' entry') :
    place = place' :=
  Nat.le_antisymm (h.least place' entry' h'.getElem?_eq h'.holds)
    (h'.least place entry h.getElem?_eq h.holds)

theorem firstAt_cons_iff {α : Type} {P : α → Prop} {head entry : α} {rest : List α} {place : Nat} :
    FirstAt P (head :: rest) place entry ↔ place = 0 ∧ entry = head ∧ P head ∨
      ¬P head ∧ ∃ later, place = later + 1 ∧ FirstAt P rest later entry := by
  constructor
  · rintro ⟨hentry, hholds, hleast⟩
    cases place with
    | zero =>
      cases hentry
      exact .inl ⟨rfl, rfl, hholds⟩
    | succ later =>
      refine .inr ⟨fun hhead ↦ ?_, later, rfl, hentry, hholds, ?_⟩
      · exact absurd (hleast 0 head rfl hhead) (Nat.not_succ_le_zero later)
      · intro earlier other hother hearlier
        exact Nat.le_of_succ_le_succ (hleast (earlier + 1) other hother hearlier)
  · rintro (⟨rfl, rfl, hhead⟩ | ⟨hno, later, rfl, hentry, hholds, hleast⟩)
    · exact ⟨rfl, hhead, fun _ _ _ _ ↦ Nat.zero_le _⟩
    · refine ⟨hentry, hholds, ?_⟩
      rintro (_ | earlier) other hother hearlier
      · cases hother
        exact absurd hearlier hno
      · exact Nat.succ_le_succ (hleast earlier other hother hearlier)

/-- The first entry is the head, or else the first of the others. -/
theorem exists_firstAt_cons_iff {α : Type} {P : α → Prop} {Q : Nat → α → Prop} {head : α}
    {rest : List α} : (∃ place entry, FirstAt P (head :: rest) place entry ∧ Q place entry) ↔
      P head ∧ Q 0 head ∨
        ¬P head ∧ ∃ place entry, FirstAt P rest place entry ∧ Q (place + 1) entry := by
  simp only [firstAt_cons_iff]
  constructor
  · rintro ⟨_, _, ⟨rfl, rfl, hhead⟩ | ⟨hno, later, rfl, hfirst⟩, hQ⟩
    · exact .inl ⟨hhead, hQ⟩
    · exact .inr ⟨hno, later, _, hfirst, hQ⟩
  · rintro (⟨hhead, hQ⟩ | ⟨hno, later, entry, hfirst, hQ⟩)
    · exact ⟨0, head, .inl ⟨rfl, rfl, hhead⟩, hQ⟩
    · exact ⟨later + 1, entry, .inr ⟨hno, later, rfl, hfirst⟩, hQ⟩

/-! ## What is legal -/

/-- Two slots are bound to one object, and one of them writes it. -/
def Shares (first second : DataRef × Parameter) : Prop :=
  first.1.id = second.1.id ∧
    (first.2.direction.writes = true ∨ second.2.direction.writes = true)

instance : DecidableRel Shares := fun _ _ ↦ inferInstanceAs (Decidable (_ ∧ _))

/-- The slots at two places share an object that one of them writes. -/
def Clash (slots : List (DataRef × Parameter)) (first second : Nat) : Prop :=
  first < second ∧ ∃ slot other, slots[first]? = some slot ∧ slots[second]? = some other ∧
    Shares slot other

/-- The first two places at which slots share an object, in lexicographic order. -/
structure FirstClash (slots : List (DataRef × Parameter)) (first second : Nat) : Prop where
  clash : Clash slots first second
  least : ∀ place later, Clash slots place later →
    first < place ∨ first = place ∧ second ≤ later

/-- What a slot asks of its object: it accepts the shape of a concrete one, and overlaps with the
slots and the hint of a virtual one. A hint pins the format, or at least that there is an image. -/
structure DataObject.Suits (object : DataObject) (constraint : Constraint) : Prop where
  concrete : ∀ descriptor, object.state = .concrete descriptor →
    constraint.accepts descriptor = true
  constraints : object.isVirtual = true → ∀ entry ∈ object.constraints,
    entry.2.overlaps constraint = true
  hint : object.isVirtual = true → ∀ hint, object.hint = some hint →
    (hintConstraint hint).overlaps constraint = true

/-- Why an object does not suit a slot, in words. Of the constraints of a virtual object the first
that does not overlap is named, and the hint only if all of them do. -/
inductive DataObject.Refusal (object : DataObject) (constraint : Constraint) : String → Prop
  | shape {descriptor : Descriptor} (hstate : object.state = .concrete descriptor)
    (hrefused : constraint.accepts descriptor = false) : Refusal object constraint descriptor.label
  | constrained {place : Nat} {entry : NodeId × Constraint} (hvirtual : object.isVirtual = true)
    (hfirst : FirstAt (fun entry ↦ entry.2.overlaps constraint = false) object.constraints place
      entry) :
    Refusal object constraint ("virtual object constrained to " ++ entry.2.label)
  | pinned {hint : ImageHint} (hvirtual : object.isVirtual = true)
    (hoverlaps : ∀ entry ∈ object.constraints, entry.2.overlaps constraint = true)
    (hhint : object.hint = some hint)
    (hrefused : (hintConstraint hint).overlaps constraint = false) :
    Refusal object constraint ("virtual " ++ (hintConstraint hint).label)

namespace Graph

/-- The object of a handle does not suit the slot that it is given for. -/
def Unsuited (graph : Graph) (slot : DataRef × Parameter) : Prop :=
  ∃ object, graph.arena.get slot.1 = .ok object ∧ ¬object.Suits slot.2.constraint

/-- The rules for the handles of a new node. -/
structure Legal (graph : Graph) (signature : Signature) (refs : List DataRef) : Prop where
  count : refs.length = signature.parameters.length
  live : ∀ ref ∈ refs, (graph.arena.get ref).isOk = true
  unaliased : ∀ first second, ¬Clash (refs.zip signature.parameters) first second
  suited : ∀ slot ∈ refs.zip signature.parameters, ∀ object,
    graph.arena.get slot.1 = .ok object → object.Suits slot.2.constraint

/-- The first rule that the handles of a new node break, and where. -/
inductive Violation (graph : Graph) (signature : Signature) (refs : List DataRef) :
    NodeError → Prop
  | count (hcount : refs.length ≠ signature.parameters.length) :
    Violation graph signature refs
      (.parameterCount signature.name signature.parameters.length refs.length)
  | dead {slot : Nat} {ref : DataRef} (hcount : refs.length = signature.parameters.length)
    (hfirst : FirstAt (fun ref ↦ (graph.arena.get ref).isOk = false) refs slot ref) :
    Violation graph signature refs (.invalidReference slot ref.id)
  | aliased {first second : Nat} {slot : DataRef × Parameter}
    (hcount : refs.length = signature.parameters.length)
    (hlive : ∀ ref ∈ refs, (graph.arena.get ref).isOk = true)
    (hfirst : FirstClash (refs.zip signature.parameters) first second)
    (hslot : (refs.zip signature.parameters)[first]? = some slot) :
    Violation graph signature refs (.aliasedParameter slot.1.id first second)
  | mismatch {place : Nat} {slot : DataRef × Parameter} {object : DataObject} {text : String}
    (hcount : refs.length = signature.parameters.length)
    (hlive : ∀ ref ∈ refs, (graph.arena.get ref).isOk = true)
    (hunaliased : ∀ first second, ¬Clash (refs.zip signature.parameters) first second)
    (hfirst : FirstAt graph.Unsuited (refs.zip signature.parameters) place slot)
    (hobject : graph.arena.get slot.1 = .ok object)
    (hrefusal : object.Refusal slot.2.constraint text) :
    Violation graph signature refs
      (.parameterTypeMismatch signature.name place slot.2.constraint text)

/-- What is left when a node has been added. Its slots are entered where they belong, everything
else stays but for the plan. The map of producers is sorted in all graphs that operations lead
to. -/
structure Entered (before : Graph) (kernel : RegisteredKernel) (refs : List DataRef) (id : NodeId)
    (after : Graph) : Prop where
  number : id = ⟨before.nextNode⟩
  nextNode_eq : after.nextNode = before.nextNode + 1
  nodes_eq : after.nodes = before.nodes ++ [.fresh id kernel refs]
  scope_eq : after.arena.graph = before.arena.graph
  length_eq : after.arena.slots.length = before.arena.slots.length
  objects : ∀ data, after.arena.byId? data = (before.arena.byId? data).map
    (DataObject.bound id (slotsOn data (refs.zip kernel.signature.parameters)))
  producers : Ordered.Sorted (before.producers.map Prod.fst) → ∀ data,
    Ordered.find? data after.producers =
      if ∃ slot ∈ refs.zip kernel.signature.parameters,
        slot.1.id = data ∧ slot.2.direction.writes = true then
        some (before.writers data ++ [id])
      else Ordered.find? data before.producers
  state_eq : after.state = .unverified
  plan_eq : after.plan = none
  id_eq : after.id = before.id
  context_eq : after.context = before.context
  options_eq : after.options = before.options
  perf_eq : after.perf = before.perf

end Graph

/-! ## Handles -/

section Handles

variable {arena : Arena} {refs : List DataRef} {first : Nat}

theorem liveObjects_cons_eq_ok_iff {ref : DataRef} {objects : List DataObject} :
    liveObjects arena first (ref :: refs) = .ok objects ↔ ∃ object others,
      arena.get ref = .ok object ∧ liveObjects arena (first + 1) refs = .ok others ∧
        objects = object :: others := by
  rw [liveObjects]
  cases arena.get ref with
  | error e => simp
  | ok object =>
    cases liveObjects arena (first + 1) refs with
    | error e => simp [Except.map]
    | ok others => simp [Except.map, eq_comm]

theorem exists_liveObjects_iff :
    (∃ objects, liveObjects arena first refs = .ok objects) ↔
      ∀ ref ∈ refs, (arena.get ref).isOk = true := by
  induction refs generalizing first with
  | nil => exact ⟨fun _ _ href ↦ (nomatch href), fun _ ↦ ⟨[], rfl⟩⟩
  | cons ref rest ih =>
    simp only [liveObjects_cons_eq_ok_iff, List.forall_mem_cons, ← @ih (first + 1)]
    cases arena.get ref <;> simp [Except.isOk, Except.toBool]

theorem liveObjects_eq_error_iff {e : NodeError} :
    liveObjects arena first refs = .error e ↔ ∃ slot ref,
      FirstAt (fun ref ↦ (arena.get ref).isOk = false) refs slot ref ∧
        e = .invalidReference (first + slot) ref.id := by
  induction refs generalizing first with
  | nil => exact ⟨fun h ↦ (nomatch h), fun ⟨_, _, hfirst, _⟩ ↦ absurd hfirst not_firstAt_nil⟩
  | cons ref rest ih =>
    rw [liveObjects, exists_firstAt_cons_iff]
    cases arena.get ref with
    | error refused =>
      refine ⟨fun h ↦ .inl ⟨rfl, (Except.error.inj h).symm⟩, ?_⟩
      rintro (⟨-, rfl⟩ | ⟨hlive, -⟩)
      · rfl
      · exact absurd rfl hlive
    | ok object =>
      have hmap (result : Except NodeError (List DataObject)) :
          result.map (object :: ·) = .error e ↔ result = .error e := by
        cases result <;> simp [Except.map]
      dsimp only
      rw [hmap, ih, Except.isOk, Except.toBool]
      simp [Nat.add_assoc, Nat.add_comm 1]

end Handles

/-! ## Shared objects -/

section Aliases

variable {slot : DataRef × Parameter} {slots : List (DataRef × Parameter)} {first : Nat}

theorem unaliased_iff_pairwise : Unaliased slots ↔ slots.Pairwise fun a b ↦ ¬Shares a b := by
  simp [Unaliased, Shares]

theorem unaliased_iff : Unaliased slots ↔ ∀ place later, ¬Clash slots place later := by
  rw [unaliased_iff_pairwise, List.pairwise_iff_getElem]
  constructor
  · rintro h place later ⟨hlt, slot, other, hslot, hother, hshares⟩
    obtain ⟨hplace, rfl⟩ := List.getElem?_eq_some_iff.1 hslot
    obtain ⟨hlater, rfl⟩ := List.getElem?_eq_some_iff.1 hother
    exact h place later hplace hlater hlt hshares
  · intro h place later hplace hlater hlt hshares
    exact h place later ⟨hlt, _, _, List.getElem?_eq_getElem hplace,
      List.getElem?_eq_getElem hlater, hshares⟩

theorem aliasOf?_cons (slot head : DataRef × Parameter) :
    aliasOf? slot.1 slot.2.direction.writes ((head :: slots).zipIdx first) =
      if Shares slot head then some first
      else aliasOf? slot.1 slot.2.direction.writes (slots.zipIdx (first + 1)) := rfl

theorem aliasOf?_eq_some_iff (slot : DataRef × Parameter) {second : Nat} :
    aliasOf? slot.1 slot.2.direction.writes (slots.zipIdx first) = some second ↔
      ∃ place other, FirstAt (Shares slot) slots place other ∧ second = first + place := by
  induction slots generalizing first with
  | nil => exact ⟨fun h ↦ (nomatch h), fun ⟨_, _, hfirst, _⟩ ↦ absurd hfirst not_firstAt_nil⟩
  | cons head rest ih =>
    rw [aliasOf?_cons, exists_firstAt_cons_iff]
    by_cases hshares : Shares slot head
    · simp [hshares, eq_comm]
    · rw [if_neg hshares, ih]
      simp [hshares, Nat.add_assoc, Nat.add_comm 1]

theorem aliasOf?_eq_none_iff (slot : DataRef × Parameter) :
    aliasOf? slot.1 slot.2.direction.writes (slots.zipIdx first) = none ↔
      ∀ other ∈ slots, ¬Shares slot other := by
  induction slots generalizing first with
  | nil => simp [aliasOf?]
  | cons head rest ih =>
    rw [aliasOf?_cons, List.forall_mem_cons]
    by_cases hshares : Shares slot head
    · simp [hshares]
    · simp [hshares, ih]

theorem clash_cons_iff {first second : Nat} : Clash (slot :: slots) first second ↔
    first = 0 ∧ (∃ place other, second = place + 1 ∧ slots[place]? = some other ∧
      Shares slot other) ∨
    ∃ place later, first = place + 1 ∧ second = later + 1 ∧ Clash slots place later := by
  constructor
  · rintro ⟨hlt, head, other, hhead, hother, hshares⟩
    obtain ⟨later, rfl⟩ := Nat.exists_eq_add_one_of_ne_zero (Nat.ne_zero_of_lt hlt)
    cases first with
    | zero =>
      cases hhead
      exact .inl ⟨rfl, later, other, rfl, hother, hshares⟩
    | succ place =>
      exact .inr ⟨place, later, rfl, rfl, Nat.lt_of_succ_lt_succ hlt, head, other, hhead, hother,
        hshares⟩
  · rintro (⟨rfl, place, other, rfl, hother, hshares⟩ |
      ⟨place, later, rfl, rfl, hlt, head, other, hhead, hother, hshares⟩)
    · exact ⟨Nat.succ_pos place, slot, other, rfl, hother, hshares⟩
    · exact ⟨Nat.succ_lt_succ hlt, head, other, hhead, hother, hshares⟩

/-- The first slot clashes with the first that shares its object, or with none. -/
theorem firstClash_cons_iff {first second : Nat} : FirstClash (slot :: slots) first second ↔
    first = 0 ∧ (∃ place other, FirstAt (Shares slot) slots place other ∧ second = place + 1) ∨
    (∀ other ∈ slots, ¬Shares slot other) ∧
      ∃ place later, first = place + 1 ∧ second = later + 1 ∧ FirstClash slots place later := by
  constructor
  · rintro ⟨hclash, hleast⟩
    have hhead (place : Nat) (other : DataRef × Parameter) (hother : slots[place]? = some other)
        (hshares : Shares slot other) := hleast 0 (place + 1)
      (clash_cons_iff.2 (.inl ⟨rfl, place, other, rfl, hother, hshares⟩))
    rcases clash_cons_iff.1 hclash with
      ⟨rfl, place, other, rfl, hother, hshares⟩ | ⟨place, later, rfl, rfl, hrest⟩
    · refine .inl ⟨rfl, place, other, ⟨hother, hshares, ?_⟩, rfl⟩
      intro earlier found hfound hearlier
      have := hhead earlier found hfound hearlier
      omega
    · refine .inr ⟨fun other hother hshares ↦ ?_, place, later, rfl, rfl, hrest, ?_⟩
      · obtain ⟨earlier, hearlier⟩ := List.getElem?_of_mem hother
        have := hhead earlier other hearlier hshares
        omega
      · intro earlier second hearlier
        have := hleast (earlier + 1) (second + 1)
          (clash_cons_iff.2 (.inr ⟨earlier, second, rfl, rfl, hearlier⟩))
        omega
  · rintro (⟨rfl, place, other, hfirst, rfl⟩ | ⟨hnone, place, later, rfl, rfl, hrest⟩)
    · refine ⟨clash_cons_iff.2
        (.inl ⟨rfl, place, other, rfl, hfirst.getElem?_eq, hfirst.holds⟩), ?_⟩
      intro earlier second hclash
      rcases clash_cons_iff.1 hclash with
        ⟨rfl, later, found, rfl, hfound, hshares⟩ | ⟨_, _, rfl, -, -⟩
      · have := hfirst.least later found hfound hshares
        omega
      · exact .inl (Nat.succ_pos _)
    · refine ⟨clash_cons_iff.2 (.inr ⟨place, later, rfl, rfl, hrest.clash⟩), ?_⟩
      intro earlier second hclash
      rcases clash_cons_iff.1 hclash with
        ⟨rfl, _, found, rfl, hfound, hshares⟩ | ⟨_, _, rfl, rfl, hlater⟩
      · exact absurd hshares (hnone found (List.mem_of_getElem? hfound))
      · have := hrest.least _ _ hlater
        omega

theorem alias?_eq_some_iff {found : DataId × Nat × Nat} :
    alias? (slots.zipIdx first) = some found ↔ ∃ place later slot, FirstClash slots place later ∧
      slots[place]? = some slot ∧ found = (slot.1.id, first + place, first + later) := by
  induction slots generalizing first with
  | nil =>
    refine ⟨fun h ↦ (nomatch h), ?_⟩
    rintro ⟨_, _, _, -, hslot, -⟩
    cases hslot
  | cons head rest ih =>
    obtain ⟨ref, parameter⟩ := head
    rw [List.zipIdx_cons, alias?]
    simp only [firstClash_cons_iff]
    have hshift (place : Nat) : first + 1 + place = first + (place + 1) :=
      Nat.add_right_comm first 1 place
    cases halias : aliasOf? ref parameter.direction.writes (rest.zipIdx (first + 1)) with
    | some second =>
      obtain ⟨place, other, hfirst, rfl⟩ := (aliasOf?_eq_some_iff (ref, parameter)).1 halias
      rw [hshift]
      constructor
      · intro h
        exact ⟨0, place + 1, (ref, parameter), .inl ⟨rfl, place, other, hfirst, rfl⟩, rfl,
          (Option.some.inj h).symm⟩
      · rintro ⟨_, _, slot, ⟨rfl, later, found, hfound, rfl⟩ | ⟨hnone, -⟩, hslot, rfl⟩
        · cases hslot
          rw [hfirst.place_eq hfound]
          rfl
        · exact absurd hfirst.holds (hnone other (List.mem_of_getElem? hfirst.getElem?_eq))
    | none =>
      have hnone := (aliasOf?_eq_none_iff (ref, parameter)).1 halias
      dsimp only
      rw [ih]
      constructor
      · rintro ⟨place, later, slot, hclash, hslot, rfl⟩
        exact ⟨place + 1, later + 1, slot, .inr ⟨hnone, place, later, rfl, rfl, hclash⟩, hslot, by
          rw [hshift, hshift]⟩
      · rintro ⟨_, _, slot, ⟨-, _, found, hfound, -⟩ | ⟨-, place, later, rfl, rfl, hclash⟩,
          hslot, rfl⟩
        · exact absurd hfound.holds (hnone found (List.mem_of_getElem? hfound.getElem?_eq))
        · exact ⟨place, later, slot, hclash, hslot, by rw [hshift, hshift]⟩

theorem alias?_eq_none_iff : alias? (slots.zipIdx first) = none ↔ Unaliased slots := by
  induction slots generalizing first with
  | nil => exact ⟨fun _ ↦ List.Pairwise.nil, fun _ ↦ rfl⟩
  | cons head rest ih =>
    obtain ⟨ref, parameter⟩ := head
    have hhead : aliasOf? ref parameter.direction.writes (rest.zipIdx (first + 1)) = none ↔
        ∀ other ∈ rest, ¬Shares (ref, parameter) other := aliasOf?_eq_none_iff (ref, parameter)
    rw [unaliased_iff_pairwise, List.pairwise_cons, ← unaliased_iff_pairwise, ← hhead,
      ← @ih (first + 1), List.zipIdx_cons, alias?]
    cases aliasOf? ref parameter.direction.writes (rest.zipIdx (first + 1)) with
    | some second => exact ⟨fun h ↦ (nomatch h), fun h ↦ (nomatch h.1)⟩
    | none => exact ⟨fun h ↦ ⟨rfl, h⟩, fun h ↦ h.2⟩

end Aliases

/-! ## Slots -/

section Slots

variable {object : DataObject} {constraint : Constraint} {descriptor : Descriptor}

theorem DataObject.isVirtual_of_concrete (hstate : object.state = .concrete descriptor) :
    object.isVirtual = false := by
  rw [isVirtual, hstate]

theorem DataObject.exists_of_not_isVirtual (hvirtual : object.isVirtual = false) :
    ∃ descriptor, object.state = .concrete descriptor := by
  cases hstate : object.state with
  | concrete descriptor => exact ⟨descriptor, rfl⟩
  | pending | resolved _ =>
    rw [isVirtual, hstate] at hvirtual
    cases hvirtual

theorem bindingFault?_of_concrete (hstate : object.state = .concrete descriptor) :
    bindingFault? object constraint =
      if constraint.accepts descriptor then none else some descriptor.label := by
  rw [bindingFault?, hstate]

theorem bindingFault?_of_isVirtual (hvirtual : object.isVirtual = true) :
    bindingFault? object constraint =
      match object.constraints.find? fun entry ↦ !entry.2.overlaps constraint with
      | some (_, existing) => some ("virtual object constrained to " ++ existing.label)
      | none =>
        match object.hint with
        | some hint =>
          if (hintConstraint hint).overlaps constraint then none
          else some ("virtual " ++ (hintConstraint hint).label)
        | none => none := by
  rw [bindingFault?]
  cases hstate : object.state with
  | concrete descriptor =>
    rw [DataObject.isVirtual_of_concrete hstate] at hvirtual
    cases hvirtual
  | pending => rfl
  | resolved _ => rfl

/-- The constraint that is found is the first that does not overlap. -/
theorem find?_eq_some_iff_firstAt {entries : List (NodeId × Constraint)}
    {found : NodeId × Constraint} :
    (entries.find? fun entry ↦ !entry.2.overlaps constraint) = some found ↔ ∃ place entry,
      FirstAt (fun entry ↦ entry.2.overlaps constraint = false) entries place entry ∧
        entry = found := by
  induction entries with
  | nil => exact ⟨fun h ↦ (nomatch h), fun ⟨_, _, hfirst, _⟩ ↦ absurd hfirst not_firstAt_nil⟩
  | cons head rest ih =>
    rw [List.find?_cons, exists_firstAt_cons_iff]
    cases hoverlaps : head.2.overlaps constraint with
    | false => simp
    | true => simpa using ih

theorem find?_eq_none_iff_overlaps {entries : List (NodeId × Constraint)} :
    (entries.find? fun entry ↦ !entry.2.overlaps constraint) = none ↔
      ∀ entry ∈ entries, entry.2.overlaps constraint = true := by
  simp

theorem bindingFault?_eq_none_iff : bindingFault? object constraint = none ↔
    object.Suits constraint := by
  cases hvirtual : object.isVirtual with
  | false =>
    obtain ⟨descriptor, hstate⟩ := DataObject.exists_of_not_isVirtual hvirtual
    rw [bindingFault?_of_concrete hstate, ite_eq_left_iff]
    constructor
    · intro h
      refine ⟨fun other hother ↦ ?_, fun hother ↦ ?_, fun hother ↦ ?_⟩
      · cases hstate.symm.trans hother
        exact not_not.1 fun hrefused ↦ nomatch h hrefused
      · cases hvirtual.symm.trans hother
      · cases hvirtual.symm.trans hother
    · exact fun h hrefused ↦ absurd (h.concrete descriptor hstate) hrefused
  | true =>
    rw [bindingFault?_of_isVirtual hvirtual]
    constructor
    · intro h
      split at h
      · cases h
      · next hnone =>
        refine ⟨fun descriptor hstate ↦ ?_, fun _ ↦ find?_eq_none_iff_overlaps.1 hnone,
          fun _ hint hhint ↦ ?_⟩
        · cases hvirtual.symm.trans (DataObject.isVirtual_of_concrete hstate)
        · rw [hhint] at h
          exact not_not.1 fun hrefused ↦ nomatch (if_neg hrefused).symm.trans h
    · intro h
      rw [find?_eq_none_iff_overlaps.2 (h.constraints hvirtual)]
      cases hhint : object.hint with
      | none => rfl
      | some hint => exact if_pos (h.hint hvirtual hint hhint)

theorem bindingFault?_eq_some_iff {text : String} : bindingFault? object constraint = some text ↔
    object.Refusal constraint text := by
  constructor
  · intro h
    cases hvirtual : object.isVirtual with
    | false =>
      obtain ⟨descriptor, hstate⟩ := DataObject.exists_of_not_isVirtual hvirtual
      rw [bindingFault?_of_concrete hstate] at h
      split at h
      · cases h
      · next hrefused =>
        cases h
        exact .shape hstate (Bool.eq_false_iff.2 hrefused)
    | true =>
      rw [bindingFault?_of_isVirtual hvirtual] at h
      split at h
      · next entry existing hfound =>
        cases h
        obtain ⟨place, _, hfirst, rfl⟩ := find?_eq_some_iff_firstAt.1 hfound
        exact .constrained hvirtual hfirst
      · next hnone =>
        split at h
        · next hint hhint =>
          split at h
          · cases h
          · next hrefused =>
            cases h
            exact .pinned hvirtual (find?_eq_none_iff_overlaps.1 hnone) hhint
              (Bool.eq_false_iff.2 hrefused)
        · cases h
  · rintro (⟨hstate, hrefused⟩ | ⟨hvirtual, hfirst⟩ | ⟨hvirtual, hoverlaps, hhint, hrefused⟩)
    · rw [bindingFault?_of_concrete hstate, if_neg (Bool.eq_false_iff.1 hrefused)]
    · rw [bindingFault?_of_isVirtual hvirtual,
        find?_eq_some_iff_firstAt.2 ⟨_, _, hfirst, rfl⟩]
    · rw [bindingFault?_of_isVirtual hvirtual, find?_eq_none_iff_overlaps.2 hoverlaps]
      dsimp only
      rw [hhint]
      dsimp only
      rw [if_neg (Bool.eq_false_iff.1 hrefused)]

variable {graph : Graph} {refs : List DataRef} {objects : List DataObject}
  {parameters : List Parameter} {kernel : String} {first slot : Nat}

theorem checkBindings_eq_ok_iff (hlive : liveObjects graph.arena first refs = .ok objects) :
    checkBindings kernel ((objects.zip parameters).zipIdx slot) = .ok () ↔
      ∀ entry ∈ refs.zip parameters, ∀ object, graph.arena.get entry.1 = .ok object →
        object.Suits entry.2.constraint := by
  induction refs generalizing first slot objects parameters with
  | nil =>
    cases hlive
    exact ⟨fun _ _ hentry ↦ (nomatch hentry), fun _ ↦ rfl⟩
  | cons ref rest ih =>
    obtain ⟨object, others, hobject, hothers, rfl⟩ := liveObjects_cons_eq_ok_iff.1 hlive
    cases parameters with
    | nil => exact ⟨fun _ _ hentry ↦ (nomatch hentry), fun _ ↦ rfl⟩
    | cons parameter parameters =>
      have hrest : checkBindings kernel ((others.zip parameters).zipIdx (slot + 1)) = .ok () ↔ _ :=
        ih hothers
      rw [List.zip_cons_cons, List.zipIdx_cons, List.zip_cons_cons, List.forall_mem_cons,
        checkBindings, ← hrest, hobject]
      have hsuits : (∀ live, Except.ok object = (.ok live : Except DataError DataObject) →
          live.Suits parameter.constraint) ↔ bindingFault? object parameter.constraint = none := by
        simp [bindingFault?_eq_none_iff]
      rw [hsuits]
      cases bindingFault? object parameter.constraint with
      | some got => simp
      | none => simp

theorem checkBindings_eq_error_iff (hlive : liveObjects graph.arena first refs = .ok objects)
    {e : NodeError} :
    checkBindings kernel ((objects.zip parameters).zipIdx slot) = .error e ↔
      ∃ place entry, FirstAt graph.Unsuited (refs.zip parameters) place entry ∧
        ∃ object text, graph.arena.get entry.1 = .ok object ∧
          object.Refusal entry.2.constraint text ∧
            e = .parameterTypeMismatch kernel (slot + place) entry.2.constraint text := by
  induction refs generalizing first slot objects parameters with
  | nil =>
    cases hlive
    exact ⟨fun h ↦ (nomatch h), fun ⟨_, _, hfirst, _⟩ ↦ absurd hfirst not_firstAt_nil⟩
  | cons ref rest ih =>
    obtain ⟨object, others, hobject, hothers, rfl⟩ := liveObjects_cons_eq_ok_iff.1 hlive
    cases parameters with
    | nil => exact ⟨fun h ↦ (nomatch h), fun ⟨_, _, hfirst, _⟩ ↦ absurd hfirst not_firstAt_nil⟩
    | cons parameter parameters =>
      rw [List.zip_cons_cons, List.zipIdx_cons, List.zip_cons_cons, exists_firstAt_cons_iff,
        checkBindings]
      have hunsuited : graph.Unsuited (ref, parameter) ↔
          bindingFault? object parameter.constraint ≠ none := by
        simp [Unsuited, hobject, bindingFault?_eq_none_iff]
      rw [hunsuited]
      cases hfault : bindingFault? object parameter.constraint with
      | some got =>
        simp [hobject, ← bindingFault?_eq_some_iff, hfault, eq_comm]
      | none =>
        dsimp only
        rw [ih hothers]
        simp [Nat.add_assoc, Nat.add_comm 1]

end Slots

/-! ## All rules -/

namespace Graph

variable {graph : Graph} {signature : Signature} {refs : List DataRef} {objects : List DataObject}
  {e : NodeError}

theorem checkNode_of_live (hcount : refs.length = signature.parameters.length)
    (hlive : liveObjects graph.arena 0 refs = .ok objects) :
    graph.checkNode signature refs = match alias? (refs.zip signature.parameters).zipIdx with
      | some (data, first, second) => .error (.aliasedParameter data first second)
      | none => checkBindings signature.name (objects.zip signature.parameters).zipIdx := by
  rw [checkNode, if_neg (not_not.2 hcount), hlive]
  rfl

theorem checkNode_of_dead (hcount : refs.length = signature.parameters.length)
    (hdead : liveObjects graph.arena 0 refs = .error e) :
    graph.checkNode signature refs = .error e := by
  rw [checkNode, if_neg (not_not.2 hcount), hdead]
  rfl

theorem checkNode_of_length_ne (hcount : refs.length ≠ signature.parameters.length) :
    graph.checkNode signature refs =
      .error (.parameterCount signature.name signature.parameters.length refs.length) := by
  rw [checkNode, if_pos hcount]
  rfl

theorem checkNode_eq_ok_iff :
    graph.checkNode signature refs = .ok () ↔ graph.Legal signature refs := by
  by_cases hcount : refs.length = signature.parameters.length
  · cases hlive : liveObjects graph.arena 0 refs with
    | error e =>
      rw [checkNode_of_dead hcount hlive]
      refine ⟨fun h ↦ (nomatch h), fun h ↦ ?_⟩
      obtain ⟨objects, hobjects⟩ := exists_liveObjects_iff.2 h.live
      cases hlive.symm.trans hobjects
    | ok objects =>
      rw [checkNode_of_live hcount hlive]
      cases halias : alias? (refs.zip signature.parameters).zipIdx with
      | some found =>
        refine ⟨fun h ↦ (nomatch h), fun h ↦ ?_⟩
        cases halias.symm.trans (alias?_eq_none_iff.2 (unaliased_iff.2 h.unaliased))
      | none =>
        exact (checkBindings_eq_ok_iff hlive).trans
          ⟨fun h ↦ ⟨hcount, exists_liveObjects_iff.1 ⟨objects, hlive⟩,
            unaliased_iff.1 (alias?_eq_none_iff.1 halias), h⟩, fun h ↦ h.suited⟩
  · rw [checkNode_of_length_ne hcount]
    exact ⟨fun h ↦ (nomatch h), fun h ↦ absurd h.count hcount⟩

theorem checkNode_eq_error_iff :
    graph.checkNode signature refs = .error e ↔ graph.Violation signature refs e := by
  constructor
  · intro h
    by_cases hcount : refs.length = signature.parameters.length
    · cases hlive : liveObjects graph.arena 0 refs with
      | error dead =>
        rw [checkNode_of_dead hcount hlive] at h
        cases h
        obtain ⟨slot, ref, hfirst, rfl⟩ := liveObjects_eq_error_iff.1 hlive
        rw [Nat.zero_add]
        exact .dead hcount hfirst
      | ok objects =>
        have hall := exists_liveObjects_iff.1 ⟨objects, hlive⟩
        rw [checkNode_of_live hcount hlive] at h
        cases halias : alias? (refs.zip signature.parameters).zipIdx with
        | some found =>
          rw [halias] at h
          cases h
          obtain ⟨first, second, slot, hfirst, hslot, hfound⟩ := alias?_eq_some_iff.1 halias
          cases hfound
          rw [Nat.zero_add, Nat.zero_add]
          exact .aliased hcount hall hfirst hslot
        | none =>
          rw [halias] at h
          obtain ⟨place, slot, hfirst, object, text, hobject, hrefusal, rfl⟩ :=
            (checkBindings_eq_error_iff hlive).1 h
          rw [Nat.zero_add]
          exact .mismatch hcount hall (unaliased_iff.1 (alias?_eq_none_iff.1 halias)) hfirst hobject
            hrefusal
    · rw [checkNode_of_length_ne hcount] at h
      cases h
      exact .count hcount
  · rintro (hcount | ⟨hcount, hfirst⟩ | ⟨hcount, hall, hfirst, hslot⟩ |
      ⟨hcount, hall, hunaliased, hfirst, hobject, hrefusal⟩)
    · exact checkNode_of_length_ne hcount
    · exact checkNode_of_dead hcount
        (liveObjects_eq_error_iff.2 ⟨_, _, hfirst, by rw [Nat.zero_add]⟩)
    · obtain ⟨objects, hlive⟩ := exists_liveObjects_iff.2 hall
      rw [checkNode_of_live hcount hlive,
        alias?_eq_some_iff.2 ⟨_, _, _, hfirst, hslot, by rw [Nat.zero_add, Nat.zero_add]⟩]
    · obtain ⟨objects, hlive⟩ := exists_liveObjects_iff.2 hall
      rw [checkNode_of_live hcount hlive, alias?_eq_none_iff.2 (unaliased_iff.2 hunaliased)]
      exact (checkBindings_eq_error_iff hlive).2
        ⟨_, _, hfirst, _, _, hobject, hrefusal, by rw [Nat.zero_add]⟩

variable {kernel : RegisteredKernel} {id : NodeId} {after : Graph}

theorem isOk_addNodeWithKernel_iff : (graph.addNodeWithKernel kernel refs).isOk = true ↔
    graph.checkNode kernel.signature refs = .ok () := by
  rw [addNodeWithKernel]
  cases graph.checkNode kernel.signature refs with
  | error e => exact ⟨fun h ↦ (nomatch h), fun h ↦ (nomatch h)⟩
  | ok _ => exact ⟨fun _ ↦ rfl, fun _ ↦ rfl⟩

theorem addNodeWithKernel_eq_error_iff : graph.addNodeWithKernel kernel refs = .error e ↔
    graph.checkNode kernel.signature refs = .error e := by
  rw [addNodeWithKernel]
  cases graph.checkNode kernel.signature refs with
  | error refused =>
    exact ⟨fun h ↦ congrArg _ (Except.error.inj h), fun h ↦ congrArg _ (Except.error.inj h)⟩
  | ok _ => exact ⟨fun h ↦ (nomatch h), fun h ↦ (nomatch h)⟩

theorem entered_of_addNodeWithKernel
    (h : graph.addNodeWithKernel kernel refs = .ok (id, after)) :
    graph.Entered kernel refs id after := by
  obtain ⟨⟨⟩, hcheck, h⟩ := exists_of_bind_eq_ok h
  cases h
  have hunaliased : Unaliased (refs.zip kernel.signature.parameters) :=
    unaliased_iff.2 (checkNode_eq_ok_iff.1 hcheck).unaliased
  exact
    { number := rfl
      nextNode_eq := rfl
      nodes_eq := rfl
      scope_eq := graph_bindSlots _
      length_eq := length_slots_bindSlots _
      objects := fun _ ↦ byId?_bindSlots _
      producers := by
        intro hsorted data
        rw [invalidate, find?_addProducers _ hunaliased hsorted]
        simp only [List.any_eq_true, Bool.and_eq_true, beq_iff_eq, writers]
      state_eq := rfl
      plan_eq := rfl
      id_eq := rfl
      context_eq := rfl
      options_eq := rfl
      perf_eq := rfl }

/-- A node is added exactly if its bindings are legal, and is then entered behind all others. If
they are not, the error says which rule they break first, and where, and the graph stays as it
is. -/
theorem addNodeWithKernel_spec (graph : Graph) (kernel : RegisteredKernel) (refs : List DataRef) :
    ((graph.addNodeWithKernel kernel refs).isOk = true ↔ graph.Legal kernel.signature refs) ∧
      (∀ e, graph.addNodeWithKernel kernel refs = .error e ↔
        graph.Violation kernel.signature refs e) ∧
      (¬graph.Legal kernel.signature refs →
        (Operation.addNodeWithKernel kernel refs).apply graph = graph) ∧
      (∀ id after, graph.addNodeWithKernel kernel refs = .ok (id, after) →
        graph.Entered kernel refs id after) := by
  refine ⟨isOk_addNodeWithKernel_iff.trans checkNode_eq_ok_iff,
    fun e ↦ addNodeWithKernel_eq_error_iff.trans checkNode_eq_error_iff, fun hillegal ↦ ?_,
    fun id after ↦ entered_of_addNodeWithKernel⟩
  rw [Operation.apply]
  cases hadd : graph.addNodeWithKernel kernel refs with
  | error e => rfl
  | ok added =>
    have hlegal : graph.Legal kernel.signature refs :=
      checkNode_eq_ok_iff.1 (isOk_addNodeWithKernel_iff.1 (congrArg Except.isOk hadd))
    exact absurd hlegal hillegal

end Graph

end ImageFlow
