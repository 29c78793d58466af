import ImageFlow.Kernel.Basic
import ImageFlow.Proofs.Data.Fit
import ImageFlow.Proofs.Kernels.Splitting

/-!
# Work on slots that fit

When a run shows a node its slots, each can be written as its parameter says and holds memory of the
shape that verification found for it. On such slots every question that a kernel may ask has an
answer. What a kernel does is then safe if it does not crash, fails with expected errors only, and
leaves slots that fit again; computations that are safe one after the other are safe together.
-/

namespace ImageFlow

open Stateful

/-! ## Slots that fit -/

/-- A slot that can be written as its parameter says and holds memory of a shape. -/
structure Slot.Fits (s : Slot) (bound : Parameter × Descriptor) : Prop where
  writable_eq : s.writable = bound.1.direction.writes
  payload : ∃ payload, s.payload = some payload ∧ payload.Matches bound.2

/-- All slots of a node fit. -/
structure Access.Fits (access : Access) (shape : List (Parameter × Descriptor)) : Prop where
  length_eq : access.slots.length = shape.length
  slots : ∀ (i : Nat) (s : Slot) (bound : Parameter × Descriptor),
    access.slots[i]? = some s → shape[i]? = some bound → s.Fits bound

namespace Slot.Fits

variable {s : Slot} {bound : Parameter × Descriptor}

theorem exists_read (h : s.Fits bound) (i : Nat) :
    ∃ payload, s.read i = .ok payload ∧ payload.Matches bound.2 := by
  obtain ⟨payload, hpayload, hmatches⟩ := h.payload
  exact ⟨payload, by rw [Slot.read, hpayload], hmatches⟩

theorem exists_readToWrite (h : s.Fits bound) (hwrites : bound.1.direction.writes = true)
    (i : Nat) : ∃ payload, s.readToWrite i = .ok payload ∧ payload.Matches bound.2 := by
  obtain ⟨payload, hread, hmatches⟩ := h.exists_read i
  exact ⟨payload, by rw [readToWrite, h.writable_eq, if_pos hwrites, hread], hmatches⟩

end Slot.Fits

namespace Access

variable {access : Access} {i : Nat} {payload : Payload}

theorem payload_eq_ok_iff : access.payload i = .ok payload ↔ access.held i = some payload := by
  rw [Access.payload, Access.slot, held]
  cases access.slots[i]? with
  | none => simp [bind, Except.bind]
  | some s =>
    change s.read i = _ ↔ s.payload = _
    rw [Slot.read]
    cases s.payload <;> simp

theorem scalar_eq_ok_iff {value : ScalarValue} :
    access.scalar i = .ok value ↔ access.held i = some (.scalar value) := by
  rw [← payload_eq_ok_iff, scalar]
  cases access.payload i with
  | error e => simp [bind, Except.bind]
  | ok payload => cases payload <;> simp [bind, Except.bind, pure, Except.pure, throw, throwThe,
      MonadExceptOf.throw]

theorem held_replace (h : (access.held i).isSome = true) :
    (access.replace i payload).held i = some payload := by
  rw [held, Option.isSome_bind] at h
  rw [held, replace, List.getElem?_modify]
  cases hslot : access.slots[i]? with
  | none =>
    rw [hslot] at h
    cases h
  | some s => simp

end Access

namespace Access.Fits

variable {access : Access} {shape : List (Parameter × Descriptor)}
  {bound target : Parameter × Descriptor} {payload : Payload} {i o : Nat}

theorem exists_slot (h : access.Fits shape) (hbound : shape[i]? = some bound) :
    ∃ s, access.slots[i]? = some s ∧ s.Fits bound := by
  obtain ⟨hi, -⟩ := List.getElem?_eq_some_iff.1 hbound
  have hslot := List.getElem?_eq_getElem (h.length_eq ▸ hi)
  exact ⟨_, hslot, h.slots i _ bound hslot hbound⟩

theorem exists_payload (h : access.Fits shape) (hbound : shape[i]? = some bound) :
    ∃ payload, access.payload i = .ok payload ∧ payload.Matches bound.2 := by
  obtain ⟨s, hs, hfits⟩ := h.exists_slot hbound
  obtain ⟨payload, hread, hmatches⟩ := hfits.exists_read i
  refine ⟨payload, ?_, hmatches⟩
  rw [Access.payload, Access.slot, hs]
  exact hread

theorem exists_payloadToWrite (h : access.Fits shape) (hbound : shape[i]? = some bound)
    (hwrites : bound.1.direction.writes = true) :
    ∃ payload, access.payloadToWrite i = .ok payload ∧ payload.Matches bound.2 := by
  obtain ⟨s, hs, hfits⟩ := h.exists_slot hbound
  obtain ⟨payload, hread, hmatches⟩ := hfits.exists_readToWrite hwrites i
  refine ⟨payload, ?_, hmatches⟩
  rw [payloadToWrite, Access.slot, hs]
  exact hread

/-- Putting memory of the right shape into a slot. -/
theorem replace (h : access.Fits shape) (hbound : shape[i]? = some bound)
    (hmatches : payload.Matches bound.2) : (access.replace i payload).Fits shape where
  length_eq := by
    rw [Access.replace, List.length_modify]
    exact h.length_eq
  slots place s held hs hheld := by
    rw [Access.replace, List.getElem?_modify] at hs
    obtain ⟨old, hold, rfl⟩ := Option.map_eq_some_iff.1 hs
    have hfits := h.slots place old held hold hheld
    split
    · next heq =>
      subst heq
      cases hbound.symm.trans hheld
      exact ⟨hfits.writable_eq, payload, rfl, hmatches⟩
    · exact hfits

/-- Several slots to read and another one to write. -/
theorem splits (h : access.Fits shape) {reads : List Nat} (hreads : ∀ i ∈ reads, i < shape.length)
    (htarget : shape[o]? = some target) (hwrites : target.1.direction.writes = true)
    (hother : o ∉ reads) : access.Splits reads o where
  target_lt := by
    obtain ⟨ho, -⟩ := List.getElem?_eq_some_iff.1 htarget
    rw [slotCount, h.length_eq]
    exact ho
  source_lt i hi := by
    rw [slotCount, h.length_eq]
    exact hreads i hi
  apart := hother
  target := by
    obtain ⟨⟨writable, found⟩, hs, hfits⟩ := h.exists_slot htarget
    obtain ⟨payload, rfl, -⟩ := hfits.payload
    obtain rfl : writable = true := hfits.writable_eq.trans hwrites
    exact ⟨payload, hs⟩
  source i hi := by
    obtain ⟨s, hs, hfits⟩ := h.exists_slot (List.getElem?_eq_getElem (hreads i hi))
    obtain ⟨payload, hpayload, -⟩ := hfits.payload
    rw [held_eq hs, hpayload]
    rfl

/-! ### Payloads of a kind -/

variable {parameter parameter' parameter'' : Parameter} {width height width' height' : Nat}
  {format format' : PixelFormat} {buffer : ImageBuffer}

theorem exists_image (h : access.Fits shape)
    (hbound : shape[i]? = some (parameter, .image width height format)) :
    ∃ buffer, access.image i = .ok buffer ∧
      (Payload.image buffer).Matches (.image width height format) := by
  obtain ⟨payload, hpayload, hmatches⟩ := h.exists_payload hbound
  cases payload with
  | image buffer => exact ⟨buffer, by rw [Access.image, hpayload]; rfl, hmatches⟩
  | scalar value => cases hmatches
  | array buffer => cases hmatches

theorem exists_imageToWrite (h : access.Fits shape)
    (hbound : shape[i]? = some (parameter, .image width height format))
    (hwrites : parameter.direction.writes = true) :
    ∃ buffer, access.imageToWrite i = .ok buffer ∧
      (Payload.image buffer).Matches (.image width height format) := by
  obtain ⟨payload, hpayload, hmatches⟩ := h.exists_payloadToWrite hbound hwrites
  cases payload with
  | image buffer => exact ⟨buffer, by rw [imageToWrite, hpayload]; rfl, hmatches⟩
  | scalar value => cases hmatches
  | array buffer => cases hmatches

theorem exists_scalar (h : access.Fits shape) {type : ScalarType}
    (hbound : shape[i]? = some (parameter, .scalar type)) :
    ∃ value, access.scalar i = .ok value ∧ value.type = type := by
  obtain ⟨payload, hpayload, hmatches⟩ := h.exists_payload hbound
  cases payload with
  | image buffer => cases hmatches
  | scalar value => exact ⟨value, by rw [Access.scalar, hpayload]; rfl, hmatches⟩
  | array buffer => cases hmatches

theorem exists_array (h : access.Fits shape) {item : ScalarType} {capacity : Nat}
    (hbound : shape[i]? = some (parameter, .array item capacity)) :
    ∃ buffer, access.array i = .ok buffer ∧
      (Payload.array buffer).Matches (.array item capacity) := by
  obtain ⟨payload, hpayload, hmatches⟩ := h.exists_payload hbound
  cases payload with
  | image buffer => cases hmatches
  | scalar value => cases hmatches
  | array buffer => exact ⟨buffer, by rw [Access.array, hpayload]; rfl, hmatches⟩

theorem exists_arrayToWrite (h : access.Fits shape) {item : ScalarType} {capacity : Nat}
    (hbound : shape[i]? = some (parameter, .array item capacity))
    (hwrites : parameter.direction.writes = true) :
    ∃ buffer, access.arrayToWrite i = .ok buffer ∧
      (Payload.array buffer).Matches (.array item capacity) := by
  obtain ⟨payload, hpayload, hmatches⟩ := h.exists_payloadToWrite hbound hwrites
  cases payload with
  | image buffer => cases hmatches
  | scalar value => cases hmatches
  | array buffer => exact ⟨buffer, by rw [arrayToWrite, hpayload]; rfl, hmatches⟩

/-- Storing a scalar of the type that the slot has. -/
theorem exists_setScalar (h : access.Fits shape) {value : ScalarValue}
    (hbound : shape[i]? = some (parameter, .scalar value.type))
    (hwrites : parameter.direction.writes = true) :
    ∃ after, access.setScalar i value = .ok after ∧ after.Fits shape := by
  obtain ⟨payload, hpayload, hmatches⟩ := h.exists_payloadToWrite hbound hwrites
  cases payload with
  | image buffer => cases hmatches
  | array buffer => cases hmatches
  | scalar current =>
    refine ⟨access.replace i (.scalar value), ?_, h.replace hbound rfl⟩
    rw [setScalar, hpayload]
    exact if_pos hmatches

/-- The payload of a slot that holds an image. -/
theorem exists_imagePayload (h : access.Fits shape)
    (hbound : shape[i]? = some (parameter, .image width height format)) :
    ∃ buffer, access.held i = some (.image buffer) ∧
      (Payload.image buffer).Matches (.image width height format) := by
  obtain ⟨s, hs, hfits⟩ := h.exists_slot hbound
  obtain ⟨payload, hpayload, hmatches⟩ := hfits.payload
  cases payload with
  | image buffer => exact ⟨buffer, by rw [held, hs]; exact hpayload, hmatches⟩
  | scalar value => cases hmatches
  | array buffer => cases hmatches

theorem exists_unaryImage (h : access.Fits shape)
    (hsource : shape[i]? = some (parameter, .image width height format))
    (htarget : shape[o]? = some (parameter', .image width' height' format'))
    (hwrites : parameter'.direction.writes = true) (hne : o ≠ i) :
    ∃ images, access.unaryImage i o = .ok images ∧
      (Payload.image images.1).Matches (.image width height format) ∧
      (Payload.image images.2).Matches (.image width' height' format') := by
  obtain ⟨source, hread, hsourceMatches⟩ := h.exists_imagePayload hsource
  obtain ⟨out, hout, hmatches⟩ := h.exists_imagePayload htarget
  have hplace : ∀ place ∈ [i], place < shape.length :=
    List.forall_mem_singleton.2 (List.getElem?_eq_some_iff.1 hsource).1
  have hsplits := h.splits hplace htarget hwrites (by simpa using hne)
  exact ⟨(source, out), unaryImage_eq_ok_iff.2 ⟨hsplits, hread, hout⟩, hsourceMatches, hmatches⟩

/-- The images of two slots to read and of another one to write. -/
theorem binaryImage_eq (h : access.Fits shape) {j : Nat} {a b out : ImageBuffer}
    (ha : access.held i = some (.image a)) (hb : access.held j = some (.image b))
    (hi : i < shape.length) (hj : j < shape.length) (hout : access.held o = some (.image out))
    (htarget : shape[o]? = some target) (hwrites : target.1.direction.writes = true) (hne : o ≠ i)
    (hne' : o ≠ j) : access.binaryImage i j o = .ok (a, b, out) := by
  have hplaces : ∀ place ∈ [i, j], place < shape.length :=
    List.forall_mem_cons.2 ⟨hi, List.forall_mem_singleton.2 hj⟩
  have hsplits := h.splits hplaces htarget hwrites (by simp [hne, hne'])
  exact binaryImage_eq_ok_iff.2 ⟨hsplits, ha, hb, hout⟩

theorem exists_binaryImage (h : access.Fits shape) {j : Nat} {width'' height'' : Nat}
    {format'' : PixelFormat}
    (hfirst : shape[i]? = some (parameter, .image width height format))
    (hsecond : shape[j]? = some (parameter', .image width' height' format'))
    (htarget : shape[o]? = some (parameter'', .image width'' height'' format''))
    (hwrites : parameter''.direction.writes = true) (hne : o ≠ i) (hne' : o ≠ j) :
    ∃ images, access.binaryImage i j o = .ok images ∧
      (Payload.image images.1).Matches (.image width height format) ∧
      (Payload.image images.2.1).Matches (.image width' height' format') ∧
      (Payload.image images.2.2).Matches (.image width'' height'' format'') := by
  obtain ⟨a, hreadFirst, hfirstMatches⟩ := h.exists_imagePayload hfirst
  obtain ⟨b, hreadSecond, hsecondMatches⟩ := h.exists_imagePayload hsecond
  obtain ⟨out, hout, hmatches⟩ := h.exists_imagePayload htarget
  exact ⟨(a, b, out), h.binaryImage_eq hreadFirst hreadSecond (List.getElem?_eq_some_iff.1 hfirst).1
    (List.getElem?_eq_some_iff.1 hsecond).1 hout htarget hwrites hne hne', hfirstMatches,
    hsecondMatches, hmatches⟩

end Access.Fits

/-! ## Safe work -/

namespace Work

variable {α β : Type} {shape : List (Parameter × Descriptor)} {expected : KernelError → Prop}
  {Q : α → Prop} {R : β → Prop}

theorem run_ask (query : Access → Except KernelError α) (access : Access) :
    (ask query).run access = ((query access).mapError .failed, access) := by
  rw [ask, run_bind, show (get : Work Access).run access = (.ok access, access) from rfl]
  dsimp only
  cases query access <;> rfl

theorem run_change (update : Access → Except KernelError Access) (access : Access) :
    (change update).run access = match update access with
      | .ok after => (.ok (), after)
      | .error e => (.error (.failed e), access) := by
  rw [change, run_bind, show (get : Work Access).run access = (.ok access, access) from rfl]
  dsimp only
  cases update access <;> rfl

theorem run_need (found : Option α) (access : Access) :
    (need found).run access = (Stop.need found, access) := rfl

/-- On slots that fit, a computation does not crash and fails with expected errors only; it leaves
slots that fit, and its answer has a property. -/
def Safe (shape : List (Parameter × Descriptor)) (expected : KernelError → Prop) (work : Work α)
    (Q : α → Prop) : Prop :=
  ∀ access : Access, access.Fits shape →
    (work.run access).2.Fits shape ∧
      ((∃ answer, (work.run access).1 = .ok answer ∧ Q answer) ∨
        ∃ e, (work.run access).1 = .error (.failed e) ∧ expected e)

theorem Safe.bind {work : Work α} {next : α → Work β} (h : Safe shape expected work Q)
    (hnext : ∀ answer, Q answer → Safe shape expected (next answer) R) :
    Safe shape expected (work >>= next) R := by
  intro access hfits
  obtain ⟨hleft, hresult⟩ := h access hfits
  rw [run_bind]
  generalize work.run access = ended at hleft hresult ⊢
  obtain ⟨result, after⟩ := ended
  rcases hresult with ⟨answer, rfl, hanswer⟩ | ⟨e, rfl, he⟩
  · exact hnext answer hanswer after hleft
  · exact ⟨hleft, .inr ⟨e, rfl, he⟩⟩

theorem safe_pure {answer : α} (h : Q answer) : Safe shape expected (pure answer) Q :=
  fun _ hfits ↦ ⟨hfits, .inl ⟨answer, rfl, h⟩⟩

theorem safe_fail {e : KernelError} (h : expected e) : Safe shape expected (fail (α := α) e) Q :=
  fun _ hfits ↦ ⟨hfits, .inr ⟨e, rfl, h⟩⟩

theorem safe_need {answer : α} {found : Option α} (hfound : found = some answer) (h : Q answer) :
    Safe shape expected (need found) Q := by
  subst hfound
  exact fun _ hfits ↦ ⟨hfits, .inl ⟨answer, rfl, h⟩⟩

theorem safe_ask {query : Access → Except KernelError α}
    (h : ∀ access : Access, access.Fits shape → ∃ answer, query access = .ok answer ∧ Q answer) :
    Safe shape expected (ask query) Q := by
  intro access hfits
  obtain ⟨answer, hquery, hanswer⟩ := h access hfits
  rw [run_ask, hquery]
  exact ⟨hfits, .inl ⟨answer, rfl, hanswer⟩⟩

theorem safe_change {update : Access → Except KernelError Access}
    (h : ∀ access : Access, access.Fits shape →
      ∃ after, update access = .ok after ∧ after.Fits shape) :
    Safe shape expected (change update) fun _ ↦ True := by
  intro access hfits
  obtain ⟨after, hupdate, hafter⟩ := h access hfits
  rw [run_change, hupdate]
  exact ⟨hafter, .inl ⟨(), rfl, trivial⟩⟩

theorem safe_replace {i : Nat} {bound : Parameter × Descriptor} {payload : Payload}
    (hbound : shape[i]? = some bound) (hmatches : payload.Matches bound.2) :
    Safe shape expected (modify (·.replace i payload)) fun _ ↦ True :=
  fun _ hfits ↦ ⟨hfits.replace hbound hmatches, .inl ⟨(), rfl, trivial⟩⟩

end Work

/-! ## Kernels that are bound -/

/-- The slots of a node of a kernel take their objects, and the kernel has accepted their shapes. -/
structure Kernel.Accepts (kernel : Kernel) (shape : List (Parameter × Descriptor)) : Prop where
  parameters : shape.map Prod.fst = kernel.signature.parameters
  constraints : ∀ bound ∈ shape, bound.1.constraint.accepts bound.2 = true
  validated : ∃ view : Inspection,
    view.descriptors = shape.map (fun bound ↦ some bound.2) ∧ kernel.validate view = .ok ()

/-- Wherever its slots have been checked, a kernel runs safely. -/
def Kernel.Reliable (kernel : Kernel) (expected : KernelError → Prop) : Prop :=
  ∀ shape, kernel.Accepts shape → Work.Safe shape expected kernel.execute fun _ ↦ True

/-- Wherever its slots have been checked, a kernel leaves slots that fit, whatever it comes to. -/
def Kernel.KeepsFit (kernel : Kernel) : Prop :=
  ∀ shape, kernel.Accepts shape → ∀ access : Access, access.Fits shape →
    (kernel.execute access).2.Fits shape

theorem Kernel.Reliable.keepsFit {kernel : Kernel} {expected : KernelError → Prop}
    (h : kernel.Reliable expected) : kernel.KeepsFit :=
  fun shape haccepts access hfits ↦ (h shape haccepts access hfits).1

end ImageFlow
