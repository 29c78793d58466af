import ImageFlow.Precedence
import Mathlib.Data.List.Nodup
import Mathlib.Tactic.Tauto

/-!
# Ordered lists hold sets and maps

An ordered list is strictly increasing, so membership and look-up determine it. Inserting, altering
and taking away keep the order, and a look-up after a change sees it at its key and nowhere else.
-/

namespace ImageFlow

/-! ## The orders in use -/

instance : Std.TransOrd NodeId := inferInstanceAs (Std.TransCmp (compareOn NodeId.index))

instance : Std.TransOrd DataId := inferInstanceAs (Std.TransCmp (compareOn DataId.index))

instance : Std.TransOrd Edge :=
  inferInstanceAs (Std.TransCmp (compareLex (compareOn Edge.source) (compareOn Edge.target)))

instance : Std.LawfulEqOrd NodeId where
  eq_of_compare {a b} h := by
    have hindex : a.index = b.index := Std.LawfulEqOrd.eq_of_compare (α := Nat) h
    cases a
    cases b
    exact congrArg NodeId.mk hindex

instance : Std.LawfulEqOrd DataId where
  eq_of_compare {a b} h := by
    have hindex : a.index = b.index := Std.LawfulEqOrd.eq_of_compare (α := Nat) h
    cases a
    cases b
    exact congrArg DataId.mk hindex

instance : Std.LawfulEqOrd Edge where
  eq_of_compare {a b} h := by
    obtain ⟨hsource, htarget⟩ := Ordering.then_eq_eq.1 h
    cases a
    cases b
    rw [Edge.mk.injEq]
    exact ⟨Std.LawfulEqOrd.eq_of_compare hsource, Std.LawfulEqOrd.eq_of_compare htarget⟩

namespace Ordered

variable {α κ ν : Type} [Ord α] [Ord κ]

/-- Strictly increasing. -/
def Sorted (set : List α) : Prop := set.Pairwise fun a b ↦ compare a b = .lt

theorem Sorted.nodup [Std.TransOrd α] {set : List α} (h : Sorted set) : set.Nodup := by
  refine h.imp fun {a b} hlt heq ↦ ?_
  rw [heq, Std.ReflOrd.compare_self] at hlt
  cases hlt

/-! ## Sets -/

section Sets

variable [Std.LawfulEqOrd α]

theorem mem_insert {x y : α} {set : List α} : y ∈ insert x set ↔ y = x ∨ y ∈ set := by
  induction set with
  | nil => simp [insert]
  | cons z rest ih =>
    rw [insert]
    split
    · simp
    · next h =>
      have hxz : x = z := Std.LawfulEqOrd.eq_of_compare h
      simp [hxz]
    · rw [List.mem_cons, List.mem_cons, ih]
      tauto

theorem contains_iff {x : α} {set : List α} : contains x set = true ↔ x ∈ set := by
  simp only [contains, List.any_eq_true, beq_iff_eq, Std.LawfulEqOrd.compare_eq_iff_eq,
    exists_eq_right']

theorem Sorted.insert [Std.TransOrd α] {x : α} {set : List α} (h : Sorted set) :
    Sorted (insert x set) := by
  induction set with
  | nil => exact List.pairwise_singleton _ _
  | cons z rest ih =>
    obtain ⟨hz, hrest⟩ := List.pairwise_cons.1 h
    rw [Ordered.insert]
    split
    · next hlt =>
      refine List.pairwise_cons.2 ⟨fun y hy ↦ ?_, h⟩
      rcases List.mem_cons.1 hy with rfl | hy
      · exact hlt
      · exact Std.TransCmp.lt_trans hlt (hz y hy)
    · exact h
    · next hgt =>
      refine List.pairwise_cons.2 ⟨fun y hy ↦ ?_, ih hrest⟩
      rcases mem_insert.1 hy with rfl | hy
      · exact Std.OrientedCmp.lt_of_gt hgt
      · exact hz y hy

/-- What the left fold behind `ofList` has collected, from any set on. -/
theorem foldl_insert [Std.TransOrd α] (xs set : List α) (h : Sorted set) :
    Sorted (xs.foldl (fun set x ↦ insert x set) set) ∧
      ∀ y, y ∈ xs.foldl (fun set x ↦ insert x set) set ↔ y ∈ xs ∨ y ∈ set := by
  induction xs generalizing set with
  | nil => exact ⟨h, by simp⟩
  | cons x xs ih =>
    obtain ⟨hsorted, hmem⟩ := ih (insert x set) h.insert
    refine ⟨hsorted, fun y ↦ ?_⟩
    rw [List.foldl_cons, hmem y, mem_insert, List.mem_cons]
    tauto

theorem sorted_ofList [Std.TransOrd α] (xs : List α) : Sorted (ofList xs) :=
  (foldl_insert xs [] List.Pairwise.nil).1

theorem mem_ofList [Std.TransOrd α] {y : α} {xs : List α} : y ∈ ofList xs ↔ y ∈ xs := by
  rw [ofList, (foldl_insert xs [] List.Pairwise.nil).2 y]
  simp

end Sets

/-! ## Maps -/

section Maps

theorem keys_remove_sublist (key : κ) (map : List (κ × ν)) :
    ((remove key map).map Prod.fst).Sublist (map.map Prod.fst) :=
  List.Sublist.map Prod.fst List.filter_sublist

theorem find?_remove_self (key : κ) (map : List (κ × ν)) : find? key (remove key map) = none := by
  induction map with
  | nil => rfl
  | cons entry rest ih =>
    rw [remove, List.filter_cons]
    split
    · next hne =>
      have hkey : (compare key entry.1 == .eq) = false := by simpa [bne] using hne
      rw [find?, hkey]
      exact ih
    · exact ih

variable [Std.LawfulEqOrd κ]

theorem find?_eq_none_of_forall_ne {key : κ} {map : List (κ × ν)}
    (h : ∀ entry ∈ map, entry.1 ≠ key) : find? key map = none := by
  induction map with
  | nil => rfl
  | cons entry rest ih =>
    have hne : compare key entry.1 ≠ .eq := fun heq ↦
      h entry List.mem_cons_self (Std.LawfulEqOrd.eq_of_compare heq).symm
    simp only [find?, beq_iff_eq, if_neg hne]
    exact ih fun other hother ↦ h other (List.mem_cons_of_mem _ hother)

theorem mem_of_find?_eq_some {key : κ} {value : ν} {map : List (κ × ν)}
    (h : find? key map = some value) : (key, value) ∈ map := by
  induction map with
  | nil => cases h
  | cons entry rest ih =>
    simp only [find?, beq_iff_eq] at h
    split at h
    · next heq =>
      have hkey : key = entry.1 := Std.LawfulEqOrd.eq_of_compare heq
      cases h
      rw [hkey]
      exact List.mem_cons_self
    · exact List.mem_cons_of_mem _ (ih h)

/-- In an ordered map an entry is what a look-up of its key finds. -/
theorem find?_eq_some_iff [Std.TransOrd κ] {key : κ} {value : ν} {map : List (κ × ν)}
    (hsorted : Sorted (map.map Prod.fst)) : find? key map = some value ↔ (key, value) ∈ map := by
  refine ⟨mem_of_find?_eq_some, fun hmem ↦ ?_⟩
  induction map with
  | nil => cases hmem
  | cons entry rest ih =>
    obtain ⟨hentry, hrest⟩ := List.pairwise_cons.1 hsorted
    simp only [find?, beq_iff_eq]
    rcases List.mem_cons.1 hmem with rfl | hmem
    · simp
    · have hlt : compare entry.1 key = .lt := hentry key (List.mem_map.2 ⟨_, hmem, rfl⟩)
      have hne : compare key entry.1 ≠ .eq := fun heq ↦ by
        rw [Std.LawfulEqOrd.eq_of_compare heq, Std.ReflOrd.compare_self] at hlt
        cases hlt
      rw [if_neg hne]
      exact ih hrest hmem

/-- An ordered map is determined by its look-ups. -/
theorem eq_of_find?_eq [Std.TransOrd κ] {a b : List (κ × ν)} (ha : Sorted (a.map Prod.fst))
    (hb : Sorted (b.map Prod.fst)) (h : ∀ key, find? key a = find? key b) : a = b := by
  have hperm : a.Perm b := by
    refine (List.perm_ext_iff_of_nodup ha.nodup.of_map hb.nodup.of_map).2 fun entry ↦ ?_
    rw [← find?_eq_some_iff ha, ← find?_eq_some_iff hb, h]
  refine hperm.eq_of_pairwise ?_ (List.pairwise_map.1 ha) (List.pairwise_map.1 hb)
  intro first second _ _ hlt hgt
  have hrefl := Std.TransCmp.lt_trans hlt hgt
  rw [Std.ReflOrd.compare_self] at hrefl
  cases hrefl

theorem mem_keys_alter {key : κ} {f : Option ν → ν} {map : List (κ × ν)} {k : κ} :
    k ∈ (alter key f map).map Prod.fst ↔ k = key ∨ k ∈ map.map Prod.fst := by
  induction map with
  | nil => simp [alter]
  | cons entry rest ih =>
    rw [alter]
    split
    · simp
    · next heq =>
      have hkey : key = entry.1 := Std.LawfulEqOrd.eq_of_compare heq
      simp [hkey]
    · rw [List.map_cons, List.mem_cons, ih, List.map_cons, List.mem_cons]
      tauto

/-- A map in which a key has been set has its own entries and the new one. -/
theorem mem_of_mem_set {key : κ} {value : ν} {map : List (κ × ν)} {entry : κ × ν}
    (h : entry ∈ set key value map) : entry = (key, value) ∨ entry ∈ map := by
  induction map with
  | nil => exact .inl (List.mem_singleton.1 h)
  | cons first rest ih =>
    rw [set, alter] at h
    split at h
    · exact List.mem_cons.1 h
    · next heq =>
      rw [← Std.LawfulEqOrd.eq_of_compare heq] at h
      exact (List.mem_cons.1 h).imp_right (List.mem_cons_of_mem first)
    · rcases List.mem_cons.1 h with rfl | hrest
      · exact .inr List.mem_cons_self
      · exact (ih hrest).imp_right (List.mem_cons_of_mem first)

theorem sorted_alter [Std.TransOrd κ] {key : κ} {f : Option ν → ν} {map : List (κ × ν)}
    (h : Sorted (map.map Prod.fst)) : Sorted ((alter key f map).map Prod.fst) := by
  induction map with
  | nil => exact List.pairwise_singleton _ _
  | cons entry rest ih =>
    obtain ⟨hentry, hrest⟩ := List.pairwise_cons.1 h
    rw [alter]
    split
    · next hlt =>
      refine List.pairwise_cons.2 ⟨fun k hk ↦ ?_, h⟩
      rcases List.mem_cons.1 hk with rfl | hk
      · exact hlt
      · exact Std.TransCmp.lt_trans hlt (hentry k hk)
    · exact h
    · next hgt =>
      refine List.pairwise_cons.2 ⟨fun k hk ↦ ?_, ih hrest⟩
      rcases mem_keys_alter.1 hk with rfl | hk
      · exact Std.OrientedCmp.lt_of_gt hgt
      · exact hentry k hk

theorem find?_alter_self [Std.TransOrd κ] {key : κ} {f : Option ν → ν} {map : List (κ × ν)}
    (h : Sorted (map.map Prod.fst)) : find? key (alter key f map) = some (f (find? key map)) := by
  induction map with
  | nil => simp [alter, find?]
  | cons entry rest ih =>
    obtain ⟨hentry, hrest⟩ := List.pairwise_cons.1 h
    cases hcompare : compare key entry.1 with
    | lt =>
      -- The key is smaller than every key of the map, so nothing was found before.
      have habsent : find? key (entry :: rest) = none := by
        refine find?_eq_none_of_forall_ne fun other hother heq ↦ ?_
        have hlt : compare key other.1 = .lt := by
          rcases List.mem_cons.1 hother with rfl | hother
          · exact hcompare
          · exact Std.TransCmp.lt_trans hcompare (hentry _ (List.mem_map_of_mem hother))
        rw [heq, Std.ReflOrd.compare_self] at hlt
        cases hlt
      rw [habsent]
      simp [alter, hcompare, find?]
    | eq => simp [alter, hcompare, find?]
    | gt =>
      simp only [alter, hcompare, find?]
      simpa using ih hrest

theorem find?_alter_of_ne {key other : κ} {f : Option ν → ν} {map : List (κ × ν)}
    (h : other ≠ key) : find? other (alter key f map) = find? other map := by
  have hne : compare other key ≠ .eq := fun heq ↦ h (Std.LawfulEqOrd.eq_of_compare heq)
  induction map with
  | nil => simp [alter, find?, hne]
  | cons entry rest ih =>
    cases hcompare : compare key entry.1 with
    | lt => simp [alter, hcompare, find?, hne]
    | eq =>
      have hkey : key = entry.1 := Std.LawfulEqOrd.eq_of_compare hcompare
      simp [alter, find?, ← hkey, hne]
    | gt => simp [alter, hcompare, find?, ih]

theorem find?_remove_of_ne {key other : κ} {map : List (κ × ν)} (h : other ≠ key) :
    find? other (remove key map) = find? other map := by
  induction map with
  | nil => rfl
  | cons entry rest ih =>
    rw [remove, List.filter_cons]
    split
    · rw [find?, find?]
      split
      · rfl
      · exact ih
    · next heq =>
      have hkey : key = entry.1 := Std.LawfulEqOrd.eq_of_compare (by simpa using heq)
      have hne : compare other entry.1 ≠ .eq := fun hsame ↦
        h ((Std.LawfulEqOrd.eq_of_compare hsame).trans hkey.symm)
      rw [find?, if_neg (by simpa using hne)]
      exact ih

theorem isSome_find?_iff {key : κ} {map : List (κ × ν)} :
    (find? key map).isSome = true ↔ key ∈ map.map Prod.fst := by
  induction map with
  | nil => simp [find?]
  | cons entry rest ih =>
    rw [find?, List.map_cons, List.mem_cons, ← ih]
    by_cases hkey : key = entry.1
    · simp [hkey]
    · have hne : compare key entry.1 ≠ .eq := fun heq ↦ hkey (Std.LawfulEqOrd.eq_of_compare heq)
      simp [hkey, hne]

/-- Taking away a key that is not there changes nothing. -/
theorem remove_eq_self {key : κ} {map : List (κ × ν)} (h : find? key map = none) :
    remove key map = map := by
  refine List.filter_eq_self.2 fun entry hentry ↦ ?_
  have hne : compare key entry.1 ≠ .eq := fun heq ↦ by
    have hmem : key ∈ map.map Prod.fst :=
      List.mem_map.2 ⟨entry, hentry, (Std.LawfulEqOrd.eq_of_compare heq).symm⟩
    rw [← isSome_find?_iff, h] at hmem
    cases hmem
  simpa using hne

end Maps

end Ordered

end ImageFlow
