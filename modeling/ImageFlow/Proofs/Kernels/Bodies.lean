import ImageFlow.Kernel.Script
import ImageFlow.Proofs.Kernels.Splitting

/-!
# What kernels can do to their slots

A kernel has nothing but calls to work with. A call can change at most one slot, and only one that
may be written and has memory; that slot then has memory again. So whatever calls a kernel makes, in
whatever way the next one depends on the answers so far, and however the kernel ends, the slots that
it only reads are as they were, and no slot has lost its memory or got one.
-/

namespace ImageFlow

/-! ## Calls -/

namespace Access

variable {access after : Access} {o : Nat} {payload : Payload}

/-- Exactly the slots that may be written and have memory take a payload. The slot to write of
several slots is one of them. -/
theorem put_eq_ok_iff : access.put o payload = .ok after ↔
    access.MayWrite o ∧ after = access.replace o payload := by
  constructor
  · intro h
    obtain ⟨held, hheld, h⟩ := exists_of_bind_eq_ok h
    exact ⟨⟨held, payloadToWrite_eq_ok_iff.1 hheld⟩, (Except.ok.inj h).symm⟩
  · rintro ⟨⟨held, hslot⟩, rfl⟩
    rw [put, payloadToWrite_eq_ok_iff.2 hslot]
    rfl

end Access

namespace KernelScript.Command

variable {access after : Access} {reply : Reply}

/-- A call leaves the slots alone, or puts a payload into one that may be written. -/
inductive Leaves (access : Access) : Access → Prop
  | same : Leaves access access
  | put {o : Nat} {payload : Payload} (hwrite : access.MayWrite o) :
    Leaves access (access.replace o payload)

theorem Leaves.kept (h : Leaves access after) : access.Kept after := by
  cases h with
  | same => exact .refl access
  | put hwrite => exact hwrite.kept _

theorem leaves_of_asked {α : Type} {answer : Except KernelError α} {f : α → Reply}
    (h : (answer.map fun a ↦ (f a, access)) = .ok (reply, after)) : Leaves access after := by
  obtain ⟨a, -, heq⟩ := exists_of_map_eq_ok h
  cases heq
  exact .same

theorem leaves_perform {command : Command}
    (h : command.perform access = some (.ok (reply, after))) : Leaves access after := by
  cases command with
  | parameterCount =>
    cases h
    exact .same
  | payload slot | payloadToWrite slot | image slot | imageToWrite slot | scalar slot | array slot
  | arrayToWrite slot | split reads target | unary input output | binary a b output =>
    exact leaves_of_asked (Option.some.inj h)
  | setScalar slot value =>
    obtain ⟨changed, hchanged, heq⟩ := exists_of_map_eq_ok (Option.some.inj h)
    cases heq
    obtain ⟨hwrite, rfl, -⟩ := Access.setScalar_of_eq_ok hchanged
    exact .put hwrite
  | sample slot pixel =>
    rw [perform] at h
    cases hbuffer : access.image slot with
    | error e =>
      rw [hbuffer] at h
      cases h
    | ok buffer =>
      rw [hbuffer] at h
      obtain ⟨n, -, heq⟩ := Option.map_eq_some_iff.1 h
      cases heq
      exact .same
  | store slot pixel value =>
    rw [perform] at h
    cases hbuffer : access.imageToWrite slot with
    | error e =>
      rw [hbuffer] at h
      cases h
    | ok buffer =>
      rw [hbuffer] at h
      obtain ⟨stored, -, heq⟩ := Option.map_eq_some_iff.1 h
      cases heq
      exact .put (Access.mayWrite_of_imageToWrite hbuffer).1
  | write slot data =>
    obtain ⟨buffer, hbuffer, heq⟩ := exists_of_map_eq_ok (Option.some.inj h)
    cases heq
    exact .put (Access.mayWrite_of_imageToWrite hbuffer).1
  | put slot payload =>
    obtain ⟨changed, hchanged, heq⟩ := exists_of_map_eq_ok (Option.some.inj h)
    cases heq
    obtain ⟨hwrite, rfl⟩ := Access.put_eq_ok_iff.1 hchanged
    exact .put hwrite
  | setItems slot items =>
    obtain ⟨buffer, hbuffer, heq⟩ := exists_of_map_eq_ok (Option.some.inj h)
    cases hfilled : buffer.setItems items with
    | error type =>
      rw [hfilled] at heq
      cases heq
      exact .same
    | ok filled =>
      rw [hfilled] at heq
      cases heq
      exact .put (Access.mayWrite_of_arrayToWrite hbuffer).1

end KernelScript.Command

/-! ## Bodies -/

/-- What a kernel does when it runs: calls, each of which may depend on all answers so far, and an
end. -/
inductive Body
  | done
  | fail (error : KernelError)
  | crash
  | call (command : KernelScript.Command) (next : Except KernelError Reply → Body)

namespace Body

/-- Runs a body: how it ends, and the slots after it. A call that is refused changes nothing. -/
def run : Body → Access → Except (Stop KernelError) Unit × Access
  | done, access => (.ok (), access)
  | fail error, access => (.error (.failed error), access)
  | crash, access => (.error .crash, access)
  | call command next, access =>
    match command.perform access with
    | none => (.error .crash, access)
    | some (.error e) => (next (.error e)).run access
    | some (.ok (reply, access)) => (next (.ok reply)).run access

/-- Whatever a body does, the slots are kept. -/
theorem kept_run (body : Body) (access : Access) : access.Kept (body.run access).2 := by
  induction body generalizing access with
  | done => exact .refl access
  | fail error => exact .refl access
  | crash => exact .refl access
  | call command next ih =>
    rw [run]
    split
    · exact .refl access
    · next e _ => exact ih (.error e) access
    · next reply after hperform =>
      exact (KernelScript.Command.leaves_perform hperform).kept.trans (ih (.ok reply) after)

end Body

end ImageFlow
