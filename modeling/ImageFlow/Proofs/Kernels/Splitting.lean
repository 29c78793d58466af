import ImageFlow.Proofs.Kernels.Slots
import Mathlib.Data.List.Basic

/-!
# Several slots at once

A kernel asks for some slots to read, in any order and as often as it likes, and for another one to
write. One pass over the slots collects their payloads; each of them goes to every place that asks
for it. After a number of slots the places that ask for one of these are filled, and no others. So
after the last slot no place is empty: the kernel gets as many payloads as it asked for, and each of
them stands where it was asked for. If the pass ends early, or does not begin, then for the first of
the reasons that there are.
-/

namespace ImageFlow

/-- Why a slot cannot be used if some slots are to be read and one is to be written. -/
def Slot.refusal? (s : Slot) (reads : List Nat) (o i : Nat) : Option KernelError :=
  if i = o then
    if s.writable then
      if s.payload.isSome then none else some (.noMemory i)
    else some (.readOnly i)
  else if i ∈ reads ∧ s.payload = none then some (.noMemory i)
  else none

namespace Access

variable {access : Access} {reads : List Nat} {o i j n : Nat} {inputs : List Payload}
  {output : Payload} {e : KernelError} {s : Slot}

theorem held_eq (hslot : access.slots[i]? = some s) : access.held i = s.payload := by
  rw [held, hslot]
  rfl

/-! ## The pass over the slots -/

/-- The payload of a slot, if it is one of the first `n` slots. -/
def heldBefore (access : Access) (n i : Nat) : Option Payload :=
  if i < n then access.held i else none

theorem heldBefore_succ (hslot : access.slots[n]? = some s) (i : Nat) :
    access.heldBefore (n + 1) i = if i = n then s.payload else access.heldBefore n i := by
  split
  · next heq =>
    rw [heq, heldBefore, if_pos n.lt_succ_self, held_eq hslot]
  · next hne =>
    have hlater : i < n + 1 ↔ i < n := by omega
    simp only [heldBefore, hlater]

theorem heldBefore_slotCount (access : Access) (i : Nat) :
    access.heldBefore access.slotCount i = access.held i := by
  rw [heldBefore]
  split
  · rfl
  · next hout => rw [held, List.getElem?_eq_none (Nat.le_of_not_lt hout)]; rfl

/-- What the pass has found in the first `n` slots. -/
def Gathered.upTo (access : Access) (reads : List Nat) (o n : Nat) : Gathered :=
  { inputs := reads.map (access.heldBefore n), output := access.heldBefore n o }

theorem Gathered.upTo_zero (access : Access) (reads : List Nat) (o : Nat) :
    upTo access reads o 0 = nothing reads := by
  have hnone : access.heldBefore 0 = fun _ ↦ none := funext fun i ↦ if_neg i.not_lt_zero
  rw [upTo, nothing, hnone, List.map_const']

/-- One step of the pass: the places that ask for the next slot are filled too. -/
theorem Gathered.visit_upTo (hslot : access.slots[n]? = some s) (hother : o ∉ reads) :
    (upTo access reads o n).visit reads o s n =
      match s.refusal? reads o n with
      | some e => .error e
      | none => .ok (upTo access reads o (n + 1)) := by
  have hsame (i : Nat) (hne : i ≠ n) : access.heldBefore (n + 1) i = access.heldBefore n i := by
    rw [heldBefore_succ hslot, if_neg hne]
  have hnew : access.heldBefore (n + 1) n = s.payload := by
    rw [heldBefore_succ hslot, if_pos rfl]
  have hinputs (hn : n ∉ reads) : reads.map (access.heldBefore (n + 1)) =
      reads.map (access.heldBefore n) :=
    List.map_congr_left fun i hi ↦ hsame i fun heq ↦ hn (heq ▸ hi)
  obtain ⟨writable, found⟩ := s
  rw [visit, Slot.refusal?]
  by_cases htarget : n = o
  · -- The slot is the one to write.
    subst htarget
    cases writable <;> cases found <;>
      simp [Slot.readToWrite, Slot.read, upTo, hinputs hother, hnew, bind, Except.bind, pure,
        Except.pure]
  have houtput : access.heldBefore (n + 1) o = access.heldBefore n o :=
    hsame o fun heq ↦ htarget heq.symm
  rw [if_neg htarget, if_neg htarget]
  by_cases hsource : n ∈ reads
  · cases found with
    | none => simp [hsource, Slot.read, bind, Except.bind]
    | some payload =>
      have hplaces : List.zipWith (fun i input ↦ if i = n then some payload else input) reads
          (reads.map (access.heldBefore n)) = reads.map (access.heldBefore (n + 1)) := by
        rw [List.zipWith_map_right, List.zipWith_self]
        exact List.map_congr_left fun i _ ↦ (heldBefore_succ hslot i).symm
      simp [hsource, Slot.read, fill, upTo, hplaces, houtput, bind, Except.bind, pure, Except.pure]
  · simp [hsource, upTo, hinputs hsource, houtput, pure, Except.pure]

/-- The whole pass: it ends at the first slot that cannot be used, or else all places are filled. -/
theorem gather_upTo (hother : o ∉ reads) {slots : List Slot}
    (hsuffix : access.slots.drop n = slots) :
    gather reads o slots n (.upTo access reads o n) =
      match (slots.zipIdx n).findSome? fun entry ↦ entry.1.refusal? reads o entry.2 with
      | some e => .error e
      | none => .ok (.upTo access reads o (n + slots.length)) := by
  induction slots generalizing n with
  | nil => rfl
  | cons s slots ih =>
    obtain ⟨hn, hcons⟩ : ∃ hn : n < access.slots.length,
        access.slots[n] = s ∧ access.slots.drop (n + 1) = slots := by
      have hn : n < access.slots.length := by
        by_contra hge
        rw [List.drop_eq_nil_of_le (Nat.le_of_not_lt hge)] at hsuffix
        cases hsuffix
      rw [List.drop_eq_getElem_cons hn] at hsuffix
      exact ⟨hn, List.cons.inj hsuffix⟩
    have hslot : access.slots[n]? = some s := by rw [List.getElem?_eq_getElem hn, hcons.1]
    rw [gather, Gathered.visit_upTo hslot hother, List.zipIdx_cons, List.findSome?_cons]
    cases s.refusal? reads o n with
    | some e => rfl
    | none =>
      rw [List.length_cons, Nat.add_comm slots.length, ← Nat.add_assoc]
      exact ih hcons.2

/-- The pass from the first slot on. -/
theorem gather_slots (hother : o ∉ reads) :
    gather reads o access.slots 0 (.nothing reads) =
      match access.slots.zipIdx.findSome? fun entry ↦ entry.1.refusal? reads o entry.2 with
      | some e => .error e
      | none => .ok { inputs := reads.map access.held, output := access.held o } := by
  have hfilled : Gathered.upTo access reads o (0 + access.slots.length) =
      { inputs := reads.map access.held, output := access.held o } := by
    have hall : access.heldBefore (0 + access.slots.length) = access.held := by
      rw [Nat.zero_add]
      exact funext access.heldBefore_slotCount
    rw [Gathered.upTo, hall]
  rw [← Gathered.upTo_zero access reads o, gather_upTo hother access.slots.drop_zero,
    hfilled]

/-! ## When the slots can be had -/

/-- Slots that can be read, and one beside them that can be written. -/
structure Splits (access : Access) (reads : List Nat) (o : Nat) : Prop where
  target_lt : o < access.slotCount
  source_lt : ∀ i ∈ reads, i < access.slotCount
  apart : o ∉ reads
  target : access.MayWrite o
  source : ∀ i ∈ reads, (access.held i).isSome = true

/-- Why slots cannot be had at once. Of several reasons it is the one that comes first here, then
the one that comes first in the list of the slots to read, or in the node. -/
inductive SplitFault (access : Access) (reads : List Nat) (o : Nat) : KernelError → Prop
  | target (htarget : access.slotCount ≤ o) : SplitFault access reads o (.noSuchSlot o)
  | source {before after : List Nat} {i : Nat} (htarget : o < access.slotCount)
      (hreads : reads = before ++ i :: after) (hbefore : ∀ j ∈ before, j < access.slotCount)
      (hsource : access.slotCount ≤ i) : SplitFault access reads o (.noSuchSlot i)
  | clash (htarget : o < access.slotCount) (hsource : ∀ i ∈ reads, i < access.slotCount)
      (hclash : o ∈ reads) : SplitFault access reads o (.readAndWritten o)
  | unusable {i : Nat} {s : Slot} {e : KernelError} (htarget : o < access.slotCount)
      (hsource : ∀ i ∈ reads, i < access.slotCount) (hother : o ∉ reads)
      (hslot : access.slots[i]? = some s) (hrefused : s.refusal? reads o i = some e)
      (hbefore : ∀ j t, j < i → access.slots[j]? = some t → t.refusal? reads o j = none) :
      SplitFault access reads o e

theorem refusal?_eq_none_iff : s.refusal? reads o i = none ↔
    (i = o → s.writable = true ∧ s.payload.isSome = true) ∧
      (i ≠ o → i ∈ reads → s.payload.isSome = true) := by
  obtain ⟨writable, found⟩ := s
  by_cases htarget : i = o <;> cases writable <;> cases found <;> simp [Slot.refusal?, htarget]

/-- The first slot that refuses. -/
theorem findSome?_refusal_eq_some_iff :
    (access.slots.zipIdx.findSome? fun entry ↦ entry.1.refusal? reads o entry.2) = some e ↔
      ∃ (i : Nat) (s : Slot), access.slots[i]? = some s ∧ s.refusal? reads o i = some e ∧
        ∀ (j : Nat) (t : Slot), j < i → access.slots[j]? = some t →
          t.refusal? reads o j = none := by
  rw [List.findSome?_eq_some_iff]
  constructor
  · rintro ⟨before, ⟨s, i⟩, after, hentries, hrefused, hbefore⟩
    have hentry : access.slots.zipIdx[before.length]? = some (s, i) := by
      rw [hentries, List.getElem?_append_right (Nat.le_refl _), Nat.sub_self]
      rfl
    rw [List.getElem?_zipIdx, Nat.zero_add] at hentry
    obtain ⟨t, hslot, hpair⟩ := Option.map_eq_some_iff.1 hentry
    cases hpair
    refine ⟨before.length, s, hslot, hrefused, fun j t hj ht ↦ ?_⟩
    have hmem : (t, j) ∈ before := by
      have hentry : access.slots.zipIdx[j]? = some (t, j) := by
        rw [List.getElem?_zipIdx, ht, Nat.zero_add]
        rfl
      rw [hentries, List.getElem?_append_left hj] at hentry
      exact List.mem_of_getElem? hentry
    exact hbefore (t, j) hmem
  · rintro ⟨i, s, hslot, hrefused, hbefore⟩
    have hentry : access.slots.zipIdx[i]? = some (s, i) := by
      rw [List.getElem?_zipIdx, hslot, Nat.zero_add]
      rfl
    obtain ⟨hi, hget⟩ := List.getElem?_eq_some_iff.1 hentry
    refine ⟨access.slots.zipIdx.take i, (s, i), access.slots.zipIdx.drop (i + 1), ?_, hrefused, ?_⟩
    · rw [← hget, List.getElem_cons_drop, List.take_append_drop]
    · rintro ⟨t, j⟩ hmem
      obtain ⟨k, hk, hkt⟩ := List.mem_take_iff_getElem.1 hmem
      rw [List.getElem_zipIdx, Nat.zero_add] at hkt
      obtain ⟨rfl, rfl⟩ := Prod.mk.inj hkt
      exact hbefore k _ (Nat.lt_of_lt_of_le hk (Nat.min_le_left _ _)) (List.getElem?_eq_getElem _)

/-- No slot refuses. -/
theorem Splits.findSome?_eq_none (h : access.Splits reads o) :
    (access.slots.zipIdx.findSome? fun entry ↦ entry.1.refusal? reads o entry.2) = none := by
  refine List.findSome?_eq_none_iff.2 fun ⟨s, i⟩ hentry ↦ ?_
  have hslot : access.slots[i]? = some s := List.mem_zipIdx_iff_getElem?.1 hentry
  refine refusal?_eq_none_iff.2 ⟨fun htarget ↦ ?_, fun _ hsource ↦ ?_⟩
  · obtain ⟨payload, hwrite⟩ := h.target
    rw [← show i = o from htarget, hslot] at hwrite
    cases hwrite
    exact ⟨rfl, rfl⟩
  · rw [← held_eq hslot]
    exact h.source _ hsource

/-- Payloads that are all there. -/
theorem exists_map_some (h : ∀ i ∈ reads, (access.held i).isSome = true) :
    ∃ inputs : List Payload, reads.map access.held = inputs.map some := by
  induction reads with
  | nil => exact ⟨[], rfl⟩
  | cons i reads ih =>
    obtain ⟨hi, hreads⟩ := List.forall_mem_cons.1 h
    obtain ⟨inputs, hinputs⟩ := ih hreads
    obtain ⟨payload, hpayload⟩ := Option.isSome_iff_exists.1 hi
    exact ⟨payload :: inputs, by rw [List.map_cons, List.map_cons, hpayload, hinputs]⟩

/-- Slots that can be had are had, each in its place. -/
theorem Splits.exists_split (h : access.Splits reads o) :
    ∃ inputs output, access.split reads o = .ok (inputs, output) ∧
      inputs.map some = reads.map access.held ∧ access.held o = some output := by
  obtain ⟨inputs, hinputs⟩ := exists_map_some h.source
  obtain ⟨output, hslot⟩ := h.target
  have houtput : access.held o = some output := held_eq hslot
  have hstranger : reads.find? (access.slotCount ≤ ·) = none :=
    List.find?_eq_none.2 fun i hi ↦ by simpa using h.source_lt i hi
  refine ⟨inputs, output, ?_, hinputs.symm, houtput⟩
  rw [split]
  simp only [if_neg (Nat.not_le.2 h.target_lt), hstranger, List.contains_eq_mem, h.apart,
    gather_slots h.apart, h.findSome?_eq_none, hinputs, houtput]
  simp [bind, Except.bind, pure, Except.pure]

/-- A reason ends the attempt with its error. -/
theorem SplitFault.split_eq (h : access.SplitFault reads o e) :
    access.split reads o = .error e := by
  have hnone (hsource : ∀ i ∈ reads, i < access.slotCount) :
      reads.find? (access.slotCount ≤ ·) = none :=
    List.find?_eq_none.2 fun i hi ↦ by simpa using hsource i hi
  rw [split]
  cases h with
  | target htarget =>
    rw [if_pos htarget]
    rfl
  | @source before after i htarget hreads hbefore hsource =>
    have hstranger : reads.find? (access.slotCount ≤ ·) = some i :=
      List.find?_eq_some_iff_append.2 ⟨decide_eq_true hsource, before, after, hreads,
        fun j hj ↦ by simpa using hbefore j hj⟩
    simp only [if_neg (Nat.not_le.2 htarget), hstranger]
    rfl
  | clash htarget hsource hclash =>
    simp only [if_neg (Nat.not_le.2 htarget), hnone hsource, List.contains_eq_mem, hclash]
    rfl
  | @unusable i s e htarget hsource hother hslot hrefused hbefore =>
    have hunusable := findSome?_refusal_eq_some_iff.2 ⟨i, s, hslot, hrefused, hbefore⟩
    simp only [if_neg (Nat.not_le.2 htarget), hnone hsource, List.contains_eq_mem, hother,
      gather_slots hother, hunusable]
    rfl

/-- The slots can be had, or there is a reason why not. -/
theorem splits_or_fault (access : Access) (reads : List Nat) (o : Nat) :
    access.Splits reads o ∨ ∃ e, access.SplitFault reads o e := by
  by_cases htarget : o < access.slotCount
  swap
  · exact .inr ⟨_, .target (Nat.le_of_not_lt htarget)⟩
  cases hstranger : reads.find? (access.slotCount ≤ ·) with
  | some i =>
    obtain ⟨hi, before, after, hreads, hbefore⟩ := List.find?_eq_some_iff_append.1 hstranger
    exact .inr ⟨_, .source htarget hreads (fun j hj ↦ by simpa using hbefore j hj)
      (of_decide_eq_true hi)⟩
  | none =>
    have hsource : ∀ i ∈ reads, i < access.slotCount := fun i hi ↦ by
      simpa using List.find?_eq_none.1 hstranger i hi
    by_cases hother : o ∈ reads
    · exact .inr ⟨_, .clash htarget hsource hother⟩
    cases hunusable : access.slots.zipIdx.findSome? fun entry ↦
        entry.1.refusal? reads o entry.2 with
    | some e =>
      obtain ⟨i, s, hslot, hrefused, hbefore⟩ := findSome?_refusal_eq_some_iff.1 hunusable
      exact .inr ⟨e, .unusable htarget hsource hother hslot hrefused hbefore⟩
    | none =>
      have hserves {i : Nat} {s : Slot} (hslot : access.slots[i]? = some s) :
          s.refusal? reads o i = none :=
        List.findSome?_eq_none_iff.1 hunusable (s, i) (List.mem_zipIdx_iff_getElem?.2 hslot)
      refine .inl ⟨htarget, hsource, hother, ?_, fun i hi ↦ ?_⟩
      · have hslot := List.getElem?_eq_getElem htarget
        obtain ⟨hwritable, hpayload⟩ := (refusal?_eq_none_iff.1 (hserves hslot)).1 rfl
        obtain ⟨payload, hpayload⟩ := Option.isSome_iff_exists.1 hpayload
        refine ⟨payload, hslot.trans (congrArg some ?_)⟩
        rw [← hwritable, ← hpayload]
      · have hslot := List.getElem?_eq_getElem (hsource i hi)
        rw [held_eq hslot]
        exact (refusal?_eq_none_iff.1 (hserves hslot)).2 (fun heq ↦ hother (heq ▸ hi)) hi

theorem split_eq_ok_iff : access.split reads o = .ok (inputs, output) ↔
    access.Splits reads o ∧ inputs.map some = reads.map access.held ∧
      access.held o = some output := by
  constructor
  · intro h
    rcases access.splits_or_fault reads o with hsplits | ⟨e, hfault⟩
    · obtain ⟨inputs', output', heq, hinputs, houtput⟩ := hsplits.exists_split
      cases h.symm.trans heq
      exact ⟨hsplits, hinputs, houtput⟩
    · cases h.symm.trans hfault.split_eq
  · rintro ⟨hsplits, hinputs, houtput⟩
    obtain ⟨inputs', output', heq, hinputs', houtput'⟩ := hsplits.exists_split
    have hsame : inputs = inputs' :=
      List.map_injective_iff.2 (fun _ _ ↦ Option.some.inj) (hinputs.trans hinputs'.symm)
    rw [heq, hsame, Option.some.inj (houtput'.symm.trans houtput)]

theorem split_eq_error_iff : access.split reads o = .error e ↔ access.SplitFault reads o e := by
  refine ⟨fun h ↦ ?_, SplitFault.split_eq⟩
  rcases access.splits_or_fault reads o with hsplits | ⟨e', hfault⟩
  · obtain ⟨inputs, output, heq, -⟩ := hsplits.exists_split
    cases h.symm.trans heq
  · cases h.symm.trans hfault.split_eq
    exact hfault

/-! ## Images to read and to write -/

/-- A slot that holds an image. -/
def HoldsImage (access : Access) (i : Nat) : Prop := ∃ image, access.held i = some (.image image)

/-- Why images cannot be had at once: the slots cannot, or one of them holds something else. The
slots to read come first, in their order. -/
inductive ImageFault (access : Access) (reads : List Nat) (o : Nat) : KernelError → Prop
  | split {e : KernelError} (hfault : access.SplitFault reads o e) : ImageFault access reads o e
  | kind {before after : List Nat} {i : Nat} {payload : Payload} (hsplits : access.Splits reads o)
      (hplaces : reads ++ [o] = before ++ i :: after) (hbefore : ∀ j ∈ before, access.HoldsImage j)
      (hheld : access.held i = some payload) (hkind : ¬access.HoldsImage i) :
      ImageFault access reads o (.wrongKind i "image" payload)

/-- The images can be had, or there is a reason why not. -/
theorem images_or_fault (access : Access) (reads : List Nat) (o : Nat) :
    (access.Splits reads o ∧ ∀ i ∈ reads ++ [o], access.HoldsImage i) ∨
      ∃ e, access.ImageFault reads o e := by
  classical
  rcases access.splits_or_fault reads o with hsplits | ⟨e, hfault⟩
  swap
  · exact .inr ⟨e, .split hfault⟩
  cases hother : (reads ++ [o]).find? fun i ↦ decide ¬access.HoldsImage i with
  | none =>
    refine .inl ⟨hsplits, fun i hi ↦ ?_⟩
    simpa using List.find?_eq_none.1 hother i hi
  | some i =>
    obtain ⟨hkind, before, after, hplaces, hbefore⟩ := List.find?_eq_some_iff_append.1 hother
    have hheld : (access.held i).isSome = true := by
      have hi : i ∈ reads ++ [o] := hplaces ▸ List.mem_append_right _ List.mem_cons_self
      rcases List.mem_append.1 hi with hread | htarget
      · exact hsplits.source i hread
      · obtain ⟨payload, hslot⟩ := hsplits.target
        rw [List.mem_singleton.1 htarget, held_eq hslot]
        rfl
    obtain ⟨payload, hheld⟩ := Option.isSome_iff_exists.1 hheld
    exact .inr ⟨_, .kind hsplits hplaces (fun j hj ↦ by simpa using hbefore j hj) hheld
      (of_decide_eq_true hkind)⟩

theorem imageOf_eq_error {payload : Payload} (hheld : access.held i = some payload)
    (hkind : ¬access.HoldsImage i) : imageOf i payload = .error (.wrongKind i "image" payload) := by
  cases payload with
  | image image => exact absurd ⟨image, hheld⟩ hkind
  | scalar value => rfl
  | array array => rfl

theorem Splits.exists_target (h : access.Splits reads o) :
    ∃ output, access.held o = some output := by
  obtain ⟨payload, hslot⟩ := h.target
  exact ⟨payload, held_eq hslot⟩

/-! ### One image to read -/

section Unary

variable {source target : ImageBuffer}

theorem unaryImage_eq (hsplits : access.Splits [i] o) {first out : Payload}
    (hfirst : access.held i = some first) (hout : access.held o = some out) :
    access.unaryImage i o = do return (← imageOf i first, ← imageOf o out) := by
  have hsplit : access.split [i] o = .ok ([first], out) :=
    split_eq_ok_iff.2 ⟨hsplits, by rw [List.map_singleton, List.map_singleton, hfirst], hout⟩
  rw [unaryImage, hsplit]
  rfl

theorem ImageFault.unaryImage_eq (h : access.ImageFault [i] o e) :
    access.unaryImage i o = .error e := by
  cases h with
  | split hfault =>
    rw [unaryImage, hfault.split_eq]
    rfl
  | @kind before after k payload hsplits hplaces hbefore hheld hkind =>
    obtain ⟨out, hout⟩ := hsplits.exists_target
    -- The slot that holds something else is the first one or the last one.
    rcases before with _ | ⟨j, _ | ⟨_, before⟩⟩
    · simp only [List.cons_append, List.nil_append, List.cons.injEq] at hplaces
      obtain ⟨rfl, -⟩ := hplaces
      rw [Access.unaryImage_eq hsplits hheld hout, imageOf_eq_error hheld hkind]
      rfl
    · simp only [List.cons_append, List.nil_append, List.cons.injEq] at hplaces
      obtain ⟨rfl, rfl, -⟩ := hplaces
      obtain ⟨first, hfirst⟩ := hbefore i List.mem_cons_self
      rw [Access.unaryImage_eq hsplits hfirst hheld, imageOf_eq_error hheld hkind]
      rfl
    · simp at hplaces

theorem unaryImage_eq_ok_iff : access.unaryImage i o = .ok (source, target) ↔
    access.Splits [i] o ∧ access.held i = some (.image source) ∧
      access.held o = some (.image target) := by
  constructor
  · intro h
    rcases access.images_or_fault [i] o with ⟨hsplits, himages⟩ | ⟨e, hfault⟩
    · obtain ⟨source', hsource⟩ := himages i (by simp)
      obtain ⟨target', htarget⟩ := himages o (by simp)
      cases h.symm.trans (unaryImage_eq hsplits hsource htarget)
      exact ⟨hsplits, hsource, htarget⟩
    · cases h.symm.trans hfault.unaryImage_eq
  · rintro ⟨hsplits, hsource, htarget⟩
    exact unaryImage_eq hsplits hsource htarget

theorem unaryImage_eq_error_iff :
    access.unaryImage i o = .error e ↔ access.ImageFault [i] o e := by
  refine ⟨fun h ↦ ?_, ImageFault.unaryImage_eq⟩
  rcases access.images_or_fault [i] o with ⟨hsplits, himages⟩ | ⟨e', hfault⟩
  · obtain ⟨source, hsource⟩ := himages i (by simp)
    obtain ⟨target, htarget⟩ := himages o (by simp)
    cases h.symm.trans (unaryImage_eq hsplits hsource htarget)
  · cases h.symm.trans hfault.unaryImage_eq
    exact hfault

end Unary

/-! ### Two images to read -/

section Binary

variable {a b target : ImageBuffer}

theorem binaryImage_eq (hsplits : access.Splits [i, j] o) {first second out : Payload}
    (hfirst : access.held i = some first) (hsecond : access.held j = some second)
    (hout : access.held o = some out) : access.binaryImage i j o = do
      return (← imageOf i first, ← imageOf j second, ← imageOf o out) := by
  have hinputs : [first, second].map some = [i, j].map access.held := by
    rw [List.map_cons, List.map_singleton, List.map_cons, List.map_singleton, hfirst, hsecond]
  rw [binaryImage, split_eq_ok_iff.2 ⟨hsplits, hinputs, hout⟩]
  rfl

theorem ImageFault.binaryImage_eq (h : access.ImageFault [i, j] o e) :
    access.binaryImage i j o = .error e := by
  cases h with
  | split hfault =>
    rw [binaryImage, hfault.split_eq]
    rfl
  | @kind before after k payload hsplits hplaces hbefore hheld hkind =>
    obtain ⟨out, hout⟩ := hsplits.exists_target
    rcases before with _ | ⟨_, _ | ⟨_, _ | ⟨_, before⟩⟩⟩
    · simp only [List.cons_append, List.nil_append, List.cons.injEq] at hplaces
      obtain ⟨rfl, -⟩ := hplaces
      obtain ⟨second, hsecond⟩ := Option.isSome_iff_exists.1 (hsplits.source j (by simp))
      rw [Access.binaryImage_eq hsplits hheld hsecond hout, imageOf_eq_error hheld hkind]
      rfl
    · simp only [List.cons_append, List.nil_append, List.cons.injEq] at hplaces
      obtain ⟨rfl, rfl, -⟩ := hplaces
      obtain ⟨first, hfirst⟩ := hbefore i (by simp)
      rw [Access.binaryImage_eq hsplits hfirst hheld hout, imageOf_eq_error hheld hkind]
      rfl
    · simp only [List.cons_append, List.nil_append, List.cons.injEq] at hplaces
      obtain ⟨rfl, rfl, rfl, -⟩ := hplaces
      obtain ⟨first, hfirst⟩ := hbefore i (by simp)
      obtain ⟨second, hsecond⟩ := hbefore j (by simp)
      rw [Access.binaryImage_eq hsplits hfirst hsecond hheld, imageOf_eq_error hheld hkind]
      rfl
    · simp at hplaces

theorem binaryImage_eq_ok_iff : access.binaryImage i j o = .ok (a, b, target) ↔
    access.Splits [i, j] o ∧ access.held i = some (.image a) ∧ access.held j = some (.image b) ∧
      access.held o = some (.image target) := by
  constructor
  · intro h
    rcases access.images_or_fault [i, j] o with ⟨hsplits, himages⟩ | ⟨e, hfault⟩
    · obtain ⟨a', ha⟩ := himages i (by simp)
      obtain ⟨b', hb⟩ := himages j (by simp)
      obtain ⟨target', htarget⟩ := himages o (by simp)
      cases h.symm.trans (binaryImage_eq hsplits ha hb htarget)
      exact ⟨hsplits, ha, hb, htarget⟩
    · cases h.symm.trans hfault.binaryImage_eq
  · rintro ⟨hsplits, ha, hb, htarget⟩
    exact binaryImage_eq hsplits ha hb htarget

theorem binaryImage_eq_error_iff :
    access.binaryImage i j o = .error e ↔ access.ImageFault [i, j] o e := by
  refine ⟨fun h ↦ ?_, ImageFault.binaryImage_eq⟩
  rcases access.images_or_fault [i, j] o with ⟨hsplits, himages⟩ | ⟨e', hfault⟩
  · obtain ⟨a, ha⟩ := himages i (by simp)
    obtain ⟨b, hb⟩ := himages j (by simp)
    obtain ⟨target, htarget⟩ := himages o (by simp)
    cases h.symm.trans (binaryImage_eq hsplits ha hb htarget)
  · cases h.symm.trans hfault.binaryImage_eq
    exact hfault

end Binary

/-- Several slots are had at once exactly if the one to write has memory and may be written, is none
of those to read, and these have memory; the kernel then gets the payload of every slot in each
place where it asked for it, and that of the slot to write. Otherwise the error is the first that
there is a reason for. So there is one image for each slot that images are to be read from, and the
only other errors then are slots that hold something else. -/
theorem split_exact (access : Access) (reads : List Nat) (a b o : Nat) :
    ((∃ parts, access.split reads o = .ok parts) ↔ access.Splits reads o) ∧
      (∀ inputs output, access.split reads o = .ok (inputs, output) ↔
        access.Splits reads o ∧ inputs.map some = reads.map access.held ∧
          access.held o = some output) ∧
      (∀ e, access.split reads o = .error e ↔ access.SplitFault reads o e) ∧
      (∀ source target, access.unaryImage a o = .ok (source, target) ↔
        access.Splits [a] o ∧ access.held a = some (.image source) ∧
          access.held o = some (.image target)) ∧
      (∀ e, access.unaryImage a o = .error e ↔ access.ImageFault [a] o e) ∧
      (∀ first second target, access.binaryImage a b o = .ok (first, second, target) ↔
        access.Splits [a, b] o ∧ access.held a = some (.image first) ∧
          access.held b = some (.image second) ∧ access.held o = some (.image target)) ∧
      (∀ e, access.binaryImage a b o = .error e ↔ access.ImageFault [a, b] o e) := by
  refine ⟨⟨fun ⟨_, h⟩ ↦ (split_eq_ok_iff.1 h).1, fun h ↦ ?_⟩, fun _ _ ↦ split_eq_ok_iff,
    fun _ ↦ split_eq_error_iff, fun _ _ ↦ unaryImage_eq_ok_iff, fun _ ↦ unaryImage_eq_error_iff,
    fun _ _ _ ↦ binaryImage_eq_ok_iff, fun _ ↦ binaryImage_eq_error_iff⟩
  obtain ⟨inputs, output, hsplit, -⟩ := h.exists_split
  exact ⟨(inputs, output), hsplit⟩

/-- Slots can be asked for in any order, and again. -/
example :
    let slot (writable : Bool) (n : UInt32) : Slot :=
      { writable, payload := some (.scalar (.u32 n)) }
    let access : Access := { node := ⟨0⟩, slots := [slot false 7, slot false 8, slot true 9] }
    access.split [1, 0, 1] 2 =
      .ok ([.scalar (.u32 8), .scalar (.u32 7), .scalar (.u32 8)], .scalar (.u32 9)) := by
  decide

/-! ## After the slot has been written -/

theorem MayWrite.held_replace (h : access.MayWrite o) (payload : Payload) :
    (access.replace o payload).held o = some payload :=
  held_eq (h.slots_replace payload)

theorem held_replace_of_ne (h : o ≠ i) (payload : Payload) :
    (access.replace o payload).held i = access.held i := by
  rw [held, held, slots_replace_of_ne h]

/-- The slots can be asked for again after the one that is written has got another payload. -/
theorem Splits.replace (h : access.Splits reads o) (payload : Payload) :
    (access.replace o payload).Splits reads o where
  target_lt := by simpa [slotCount, Access.replace] using h.target_lt
  source_lt := by simpa [slotCount, Access.replace] using h.source_lt
  apart := h.apart
  target := ⟨payload, h.target.slots_replace payload⟩
  source i hi := by
    have hne : o ≠ i := fun heq ↦ h.apart (heq ▸ hi)
    rw [held_replace_of_ne hne]
    exact h.source i hi

theorem mayWrite_of_unaryImage {source target : ImageBuffer}
    (h : access.unaryImage i o = .ok (source, target)) : access.MayWrite o ∧
      ∀ other, (access.replace o (.image other)).unaryImage i o = .ok (source, other) := by
  obtain ⟨hsplits, hsource, -⟩ := unaryImage_eq_ok_iff.1 h
  have hi : o ≠ i := fun heq ↦ hsplits.apart (by simp [heq])
  refine ⟨hsplits.target, fun other ↦ unaryImage_eq_ok_iff.2 ⟨hsplits.replace _, ?_, ?_⟩⟩
  · rw [held_replace_of_ne hi, hsource]
  · exact hsplits.target.held_replace _

theorem mayWrite_of_binaryImage {a b target : ImageBuffer}
    (h : access.binaryImage i j o = .ok (a, b, target)) : access.MayWrite o ∧
      ∀ other, (access.replace o (.image other)).binaryImage i j o = .ok (a, b, other) := by
  obtain ⟨hsplits, ha, hb, -⟩ := binaryImage_eq_ok_iff.1 h
  have hi : o ≠ i := fun heq ↦ hsplits.apart (by simp [heq])
  have hj : o ≠ j := fun heq ↦ hsplits.apart (by simp [heq])
  refine ⟨hsplits.target, fun other ↦ binaryImage_eq_ok_iff.2 ⟨hsplits.replace _, ?_, ?_, ?_⟩⟩
  · rw [held_replace_of_ne hi, ha]
  · rw [held_replace_of_ne hj, hb]
  · exact hsplits.target.held_replace _

end Access

end ImageFlow
