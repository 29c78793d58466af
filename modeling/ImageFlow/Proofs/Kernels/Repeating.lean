import ImageFlow.Kernels.Standard
import ImageFlow.Proofs.Data.Stored
import ImageFlow.Proofs.Kernels.Filling

/-!
# Kernels that repeat themselves

A standard kernel writes one slot, and only after it has read what it needs. What it puts there
follows from the other slots and from the shape of the memory that it finds, not from what that
memory holds. So a kernel that is shown what it has left behind ends the way it ended before and
leaves everything as it is, also if it has failed.
-/

namespace ImageFlow

open Stateful

/-! ## Work that repeats itself -/

namespace Work

variable {α β : Type} {o : Nat}

/-- A computation that changes nothing and does not see what is in one of the slots. -/
def ReadsBeside (o : Nat) (work : Work α) : Prop :=
  ∀ access, ∃ result, work.run access = (result, access) ∧
    ∀ payload, work.run (access.replace o payload) = (result, access.replace o payload)

/-- A computation that writes one slot at most, and that comes to the same when it finds what it has
left behind. -/
structure RepeatsAt (o : Nat) (work : Work α) : Prop where
  touches : ∀ access, (work.run access).2 = access ∨
    ∃ payload, access.MayWrite o ∧ (work.run access).2 = access.replace o payload
  again : ∀ access, work.run (work.run access).2 = work.run access

/-- A computation that does nothing but put a payload into a slot, or end with an error. -/
def Puts (o : Nat) (work : Work Unit) (result : Except (Stop KernelError) Payload) : Prop :=
  ∀ access, work.run access = match result with
    | .ok payload => (.ok (), access.replace o payload)
    | .error stop => (.error stop, access)

theorem RepeatsAt.kept {work : Work α} (h : work.RepeatsAt o) (access : Access) :
    access.Kept (work.run access).2 := by
  rcases h.touches access with hsame | ⟨payload, hwrite, hreplaced⟩
  · rw [hsame]
    exact .refl access
  · rw [hreplaced]
    exact hwrite.kept payload

theorem readsBeside_ask {query : Access → Except KernelError α}
    (h : ∀ access payload, query (access.replace o payload) = query access) :
    ReadsBeside o (ask query) := fun access ↦
  ⟨_, run_ask query access, fun payload ↦ by rw [run_ask, h]⟩

theorem readsBeside_pure (answer : α) : ReadsBeside o (pure answer) := fun _ ↦ ⟨_, rfl, fun _ ↦ rfl⟩

theorem readsBeside_fail (e : KernelError) : ReadsBeside o (fail (α := α) e) :=
  fun _ ↦ ⟨_, rfl, fun _ ↦ rfl⟩

theorem ReadsBeside.bind {work : Work α} {next : α → Work β} (h : work.ReadsBeside o)
    (hnext : ∀ answer, (next answer).ReadsBeside o) : (work >>= next).ReadsBeside o := by
  intro access
  obtain ⟨result, hrun, hreplaced⟩ := h access
  cases result with
  | error stop =>
    exact ⟨.error stop, by rw [run_bind, hrun], fun payload ↦ by rw [run_bind, hreplaced]⟩
  | ok answer =>
    obtain ⟨result, hrun', hreplaced'⟩ := hnext answer access
    refine ⟨result, ?_, fun payload ↦ ?_⟩
    · rw [run_bind, hrun]
      exact hrun'
    · rw [run_bind, hreplaced payload]
      exact hreplaced' payload

/-- Reading beside the slot that is written does not keep a computation from repeating itself. -/
theorem ReadsBeside.repeatsAt {work : Work α} {next : α → Work β} (h : work.ReadsBeside o)
    (hnext : ∀ answer, (next answer).RepeatsAt o) : (work >>= next).RepeatsAt o := by
  have hrun {access : Access} {answer : α} (hanswer : work.run access = (.ok answer, access)) :
      (work >>= next).run access = (next answer).run access := by
    rw [run_bind, hanswer]
  have hstop {access : Access} {stop : Stop KernelError}
      (herror : work.run access = (.error stop, access)) :
      (work >>= next).run access = (.error stop, access) := by
    rw [run_bind, herror]
  constructor
  · intro access
    obtain ⟨result, hresult, -⟩ := h access
    cases result with
    | error stop =>
      rw [hstop hresult]
      exact .inl rfl
    | ok answer =>
      rw [hrun hresult]
      exact (hnext answer).touches access
  · intro access
    obtain ⟨result, hresult, hreplaced⟩ := h access
    cases result with
    | error stop => rw [hstop hresult, hstop hresult]
    | ok answer =>
      rw [hrun hresult]
      have hagain := (hnext answer).again access
      -- The second time, what is read beside the slot has not changed.
      rcases (hnext answer).touches access with hleft | ⟨payload, -, hleft⟩
      · rw [hleft, hrun hresult]
      · rw [hleft] at hagain ⊢
        rw [hrun (hreplaced payload), hagain]

/-- A computation asks for the slot that it writes. If what it puts there makes it put the same
there, it repeats itself. -/
theorem repeatsAt_ask {query : Access → Except KernelError α} {next : α → Work Unit}
    (result : α → Except (Stop KernelError) Payload)
    (hnext : ∀ answer, (next answer).Puts o (result answer))
    (h : ∀ access answer payload, query access = .ok answer → result answer = .ok payload →
      access.MayWrite o ∧
        ∃ answer', query (access.replace o payload) = .ok answer' ∧ result answer' = .ok payload) :
    (ask query >>= next).RepeatsAt o := by
  have hrun (access : Access) (answer : α) (hanswer : query access = .ok answer) :
      (ask query >>= next).run access = match result answer with
        | .ok payload => (.ok (), access.replace o payload)
        | .error stop => (.error stop, access) := by
    rw [run_bind, run_ask, hanswer]
    exact hnext answer access
  have hfails (access : Access) (e : KernelError) (herror : query access = .error e) :
      (ask query >>= next).run access = (.error (.failed e), access) := by
    rw [run_bind, run_ask, herror]
    rfl
  constructor
  · intro access
    cases hanswer : query access with
    | error e =>
      rw [hfails access e hanswer]
      exact .inl rfl
    | ok answer =>
      rw [hrun access answer hanswer]
      cases hresult : result answer with
      | error stop => exact .inl rfl
      | ok payload => exact .inr ⟨payload, (h access answer payload hanswer hresult).1, rfl⟩
  · intro access
    cases hanswer : query access with
    | error e => rw [hfails access e hanswer, hfails access e hanswer]
    | ok answer =>
      rw [hrun access answer hanswer]
      cases hresult : result answer with
      | error stop =>
        dsimp only
        rw [hrun access answer hanswer, hresult]
      | ok payload =>
        obtain ⟨-, answer', hanswer', hresult'⟩ := h access answer payload hanswer hresult
        dsimp only
        rw [hrun _ answer' hanswer', hresult']
        dsimp only
        rw [Access.replace_replace]

theorem repeatsAt_fail (e : KernelError) : RepeatsAt o (fail (α := α) e) :=
  ⟨fun _ ↦ .inl rfl, fun _ ↦ rfl⟩

theorem puts_replace (o : Nat) (payload : Payload) :
    Puts o (modify (·.replace o payload)) (.ok payload) := fun _ ↦ rfl

/-- A scalar is stored, and the computation ends one way or the other. -/
theorem repeatsAt_setScalar {value : ScalarValue} {rest : Unit → Work Unit}
    (hrest : (rest ()).ReadsBeside o) : (change (·.setScalar o value) >>= rest).RepeatsAt o := by
  have hrun {access after : Access} (hset : access.setScalar o value = .ok after) :
      (change (·.setScalar o value) >>= rest).run access = (rest ()).run after := by
    rw [run_bind, run_change, hset]
  have hfails {access : Access} {e : KernelError} (herror : access.setScalar o value = .error e) :
      (change (·.setScalar o value) >>= rest).run access = (.error (.failed e), access) := by
    rw [run_bind, run_change, herror]
  constructor
  · intro access
    cases hset : access.setScalar o value with
    | error e =>
      rw [hfails hset]
      exact .inl rfl
    | ok after =>
      obtain ⟨hwrite, hafter, -⟩ := Access.setScalar_of_eq_ok hset
      obtain ⟨_, hverdict, -⟩ := hrest after
      rw [hrun hset, hverdict]
      exact .inr ⟨_, hwrite, hafter⟩
  · intro access
    cases hset : access.setScalar o value with
    | error e => rw [hfails hset, hfails hset]
    | ok after =>
      obtain ⟨-, -, hagain⟩ := Access.setScalar_of_eq_ok hset
      obtain ⟨_, hverdict, -⟩ := hrest after
      rw [hrun hset, hverdict, hrun hagain, hverdict]

/-! ### Images -/

variable {i j : Nat}

/-- An image is put into the slot. -/
theorem repeatsAt_unaryImage
    (make : ImageBuffer → ImageBuffer → Except (Stop KernelError) ImageBuffer)
    {next : ImageBuffer × ImageBuffer → Work Unit}
    (hnext : ∀ source target, (next (source, target)).Puts o ((make source target).map .image))
    (hmake : ∀ source target out, make source target = .ok out → make source out = .ok out) :
    (ask (·.unaryImage i o) >>= next).RepeatsAt o := by
  refine repeatsAt_ask _ (fun answer ↦ hnext answer.1 answer.2) ?_
  rintro access ⟨source, target⟩ payload hanswer hresult
  obtain ⟨out, hout, rfl⟩ := exists_of_map_eq_ok hresult
  obtain ⟨hwrite, hagain⟩ := Access.mayWrite_of_unaryImage hanswer
  exact ⟨hwrite, (source, out), hagain out, congrArg _ (hmake source target out hout)⟩

theorem repeatsAt_binaryImage
    (make : ImageBuffer → ImageBuffer → ImageBuffer → Except (Stop KernelError) ImageBuffer)
    {next : ImageBuffer × ImageBuffer × ImageBuffer → Work Unit}
    (hnext : ∀ a b target, (next (a, b, target)).Puts o ((make a b target).map .image))
    (hmake : ∀ a b target out, make a b target = .ok out → make a b out = .ok out) :
    (ask (·.binaryImage i j o) >>= next).RepeatsAt o := by
  refine repeatsAt_ask _ (fun answer ↦ hnext answer.1 answer.2.1 answer.2.2) ?_
  rintro access ⟨a, b, target⟩ payload hanswer hresult
  obtain ⟨out, hout, rfl⟩ := exists_of_map_eq_ok hresult
  obtain ⟨hwrite, hagain⟩ := Access.mayWrite_of_binaryImage hanswer
  exact ⟨hwrite, (a, b, out), hagain out, congrArg _ (hmake a b target out hout)⟩

end Work

open Work

/-- A kernel that comes to the same when it finds what it has left behind. -/
structure Kernel.Repeating (kernel : Kernel) : Prop where
  kept : ∀ access : Access, access.Kept (kernel.execute access).2
  again : ∀ access, kernel.execute (kernel.execute access).2 = kernel.execute access

theorem Work.RepeatsAt.repeating {kernel : Kernel} {o : Nat} (h : kernel.execute.RepeatsAt o) :
    kernel.Repeating := ⟨h.kept, h.again⟩

namespace Kernels

/-! ## What the standard kernels put into their slots -/

variable {a b source target out : ImageBuffer}

/-- An image with other bytes, as many as it has. -/
def refilled (target : ImageBuffer) (data : Bytes) : Except (Stop KernelError) ImageBuffer :=
  if data.size = target.data.size then .ok { target with data } else .error (.failed sizesDiffer)

theorem refilled_refilled {data : Bytes} (h : refilled target data = .ok out) :
    refilled out data = .ok out := by
  unfold refilled at h
  split at h
  · cases h
    exact if_pos rfl
  · cases h

/-- What smoothing an image comes to. -/
def blurred (filter : BoxFilter) (source target : ImageBuffer) :
    Except (Stop KernelError) ImageBuffer :=
  match source.toGray? with
  | none => .error (.failed (.invalidParameters "input is not a U8 image"))
  | some gray => do refilled target (← Stop.need (filter.blur? gray 1 1)).data

theorem blurred_blurred {filter : BoxFilter} (h : blurred filter source target = .ok out) :
    blurred filter source out = .ok out := by
  unfold blurred at h ⊢
  split at h
  · cases h
  · next gray _ =>
    cases hsmooth : filter.blur? gray 1 1 with
    | none =>
      rw [hsmooth] at h
      cases h
    | some smooth =>
      rw [hsmooth] at h
      exact refilled_refilled h

/-- What combining the bytes of two images comes to. -/
def merged (op : UInt8 → UInt8 → UInt8) (a b target : ImageBuffer) :
    Except (Stop KernelError) ImageBuffer :=
  if a.data.size = target.data.size ∧ b.data.size = target.data.size then
    .ok { target with data := Bytes.zipWith op a.data b.data }
  else .error (.failed sizesDiffer)

theorem merged_merged {op : UInt8 → UInt8 → UInt8} (h : merged op a b target = .ok out) :
    merged op a b out = .ok out := by
  unfold merged at h
  split at h
  · next hsize =>
    cases h
    exact if_pos (by simp [Bytes.size_zipWith, hsize.1, hsize.2])
  · cases h

/-- What combining the pixels of two images comes to. -/
def combined (op : PixelFormat → Int → Int → Int) (a b target : ImageBuffer) :
    Except (Stop KernelError) ImageBuffer :=
  if a.pixelCount ≠ b.pixelCount ∨ a.pixelCount ≠ target.pixelCount then
    .error (.failed sizesDiffer)
  else Stop.need (combine a b target (op target.format))

theorem combined_combined {op : PixelFormat → Int → Int → Int}
    (h : combined op a b target = .ok out) : combined op a b out = .ok out := by
  unfold combined at h
  split at h
  · cases h
  · next hsize =>
    cases hstored : combine a b target (op target.format) with
    | none =>
      rw [hstored] at h
      cases h
    | some stored =>
      rw [hstored] at h
      cases h
      obtain ⟨hsame, hagain⟩ := ImageBuffer.storeAll?_storeAll? hstored
      have hcount : out.pixelCount = target.pixelCount := by
        rw [ImageBuffer.pixelCount, ImageBuffer.pixelCount, hsame.width_eq, hsame.height_eq]
      rw [combined, hcount, if_neg hsize, combine, hcount, hsame.format_eq, hagain]
      rfl

theorem complementInto_complementInto (source target : Bytes) :
    complementInto source (complementInto source target) = complementInto source target := by
  refine Bytes.ext_get? fun i ↦ ?_
  simp only [complementInto, Bytes.get?_mapIdx, Option.map_map]
  cases source.get? i <;> rfl

theorem fillImage_fillImage (image : ImageBuffer) (value : UInt32) :
    fillImage (fillImage image value) value = fillImage image value := by
  have hbytes : wholeBytes (fillImage image value) = wholeBytes image := by
    rw [wholeBytes, size_fillImage]
    rfl
  have hdata : (fillImage (fillImage image value) value).data = (fillImage image value).data := by
    refine Bytes.ext_get? fun offset ↦ ?_
    rw [get?_fillImage, hbytes, get?_fillImage, Option.map_map]
    refine Option.map_congr fun b _ ↦ ?_
    rw [Function.comp_apply]
    split <;> rfl
  exact congrArg (fun data ↦ { image with data }) hdata

theorem setItems_setItems {array filled : ArrayBuffer} {items : List ScalarValue}
    (h : array.setItems items = .ok filled) : filled.setItems items = .ok filled := by
  unfold ArrayBuffer.setItems at h
  split at h
  · cases h
  · next hnone =>
    cases h
    rw [ArrayBuffer.setItems, hnone]

/-- What copying the items of an array comes to. -/
def copied (source target : ArrayBuffer) : Except (Stop KernelError) Payload :=
  match target.setItems source.items with
  | .ok filled => .ok (.array filled)
  | .error type =>
    .error (.failed (.invalidParameters
      ("item type " ++ type.label ++ " does not fit array of " ++ target.item.label)))

/-! ## Standard kernels -/

theorem readsBeside_patternOf {o slot : Nat} (hne : o ≠ slot) : (patternOf slot).ReadsBeside o := by
  refine .bind (readsBeside_ask (Access.scalar_replace_of_ne hne)) fun value ↦ ?_
  split
  · exact readsBeside_pure _
  · exact readsBeside_fail _

theorem repeatsAt_copyImage : copyImageExecute.RepeatsAt 1 := by
  refine repeatsAt_unaryImage (fun source target ↦ refilled target source.data)
    (fun source target access ↦ ?_) fun _ _ _ ↦ refilled_refilled
  dsimp only [refilled]
  split <;> rfl

theorem repeatsAt_copyArray : copyArrayExecute.RepeatsAt 1 := by
  refine ReadsBeside.repeatsAt (readsBeside_ask (Access.array_replace_of_ne Nat.one_ne_zero))
    fun source ↦ ?_
  refine repeatsAt_ask (copied source) (fun target access ↦ ?_)
    fun access target payload htarget hpayload ↦ ?_
  · dsimp only [copied]
    cases target.setItems source.items <;> rfl
  · unfold copied at hpayload
    cases hfilled : target.setItems source.items with
    | error type =>
      rw [hfilled] at hpayload
      cases hpayload
    | ok filled =>
      rw [hfilled] at hpayload
      cases hpayload
      obtain ⟨hwrite, hagain⟩ := Access.mayWrite_of_arrayToWrite htarget
      refine ⟨hwrite, filled, hagain filled, ?_⟩
      rw [copied, setItems_setItems hfilled]

theorem repeatsAt_fill : fillExecute.RepeatsAt 1 := by
  refine ReadsBeside.repeatsAt (readsBeside_patternOf Nat.one_ne_zero) fun value ↦ ?_
  refine repeatsAt_ask _ (fun image ↦ puts_replace 1 _)
    fun access image payload himage hpayload ↦ ?_
  cases hpayload
  obtain ⟨hwrite, hagain⟩ := Access.mayWrite_of_imageToWrite himage
  exact ⟨hwrite, fillImage image value, hagain _, by rw [fillImage_fillImage]⟩

theorem repeatsAt_check : checkExecute.RepeatsAt 2 := by
  refine ReadsBeside.repeatsAt (readsBeside_patternOf (by decide)) fun value ↦ ?_
  refine ReadsBeside.repeatsAt (readsBeside_ask (Access.image_replace_of_ne (by decide)))
    fun image ↦ ?_
  apply repeatsAt_setScalar
  split
  · exact readsBeside_fail _
  · exact readsBeside_pure _

theorem repeatsAt_combineSlots (o : Nat) (op : PixelFormat → Int → Int → Int) :
    (combineSlots o op).RepeatsAt o := by
  refine repeatsAt_binaryImage (combined op) (fun a b target access ↦ ?_)
    fun _ _ _ _ ↦ combined_combined
  dsimp only [combined]
  split
  · rfl
  · cases combine a b target (op target.format) <;> rfl

theorem repeatsAt_policy (op : Int → Int → Int) : (policyExecute op).RepeatsAt 3 := by
  refine ReadsBeside.repeatsAt (readsBeside_ask (Access.scalar_replace_of_ne (by decide)))
    fun value ↦ ?_
  split
  · exact repeatsAt_fail _
  · exact repeatsAt_combineSlots 3 _

theorem repeatsAt_bitwise (op : UInt8 → UInt8 → UInt8) : (bitwiseExecute op).RepeatsAt 2 := by
  refine repeatsAt_binaryImage (merged op) (fun a b target access ↦ ?_)
    fun _ _ _ _ ↦ merged_merged
  dsimp only [merged]
  split <;> rfl

theorem repeatsAt_bitNot : bitNotExecute.RepeatsAt 1 := by
  refine repeatsAt_unaryImage
    (fun source target ↦ .ok { target with data := complementInto source.data target.data })
    (fun source target access ↦ rfl) fun source target out h ↦ ?_
  cases h
  exact congrArg (fun data ↦ Except.ok { target with data }) (complementInto_complementInto _ _)

theorem repeatsAt_box3x3 (filter : BoxFilter) : (box3x3Execute filter).RepeatsAt 1 := by
  refine repeatsAt_unaryImage (blurred filter) (fun source target access ↦ ?_)
    fun _ _ _ ↦ blurred_blurred
  dsimp only [blurred]
  cases source.toGray? with
  | none => rfl
  | some gray =>
    dsimp only
    cases filter.blur? gray 1 1 with
    | none => rfl
    | some smooth =>
      rw [run_bind, run_need]
      dsimp only [Stop.need, bind, Except.bind, refilled]
      split <;> rfl

/-- No standard kernel comes to anything else when it finds what it has left behind. -/
theorem repeating_of_mem_standard {filter : BoxFilter} {kernel : Kernel}
    (h : kernel ∈ standard filter) : kernel.Repeating := by
  simp only [standard, List.mem_cons, List.not_mem_nil, or_false] at h
  rcases h with rfl | rfl | rfl | rfl | rfl | rfl | rfl | rfl | rfl | rfl | rfl | rfl
  · exact repeatsAt_copyImage.repeating
  · exact repeatsAt_copyArray.repeating
  · exact repeatsAt_fill.repeating
  · exact repeatsAt_check.repeating
  · exact (repeatsAt_combineSlots 2 fun format x y ↦ saturate (x - y).natAbs format).repeating
  · exact (repeatsAt_policy _).repeating
  · exact (repeatsAt_policy _).repeating
  · exact (repeatsAt_bitwise _).repeating
  · exact (repeatsAt_bitwise _).repeating
  · exact (repeatsAt_bitwise _).repeating
  · exact repeatsAt_bitNot.repeating
  · exact (repeatsAt_box3x3 filter).repeating

end Kernels

end ImageFlow
