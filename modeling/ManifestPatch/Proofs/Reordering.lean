import Mathlib.Data.List.Basic

/-!
# Reordering across Keys

Members of a list that have different keys can change places without the members of any one key
changing theirs. This is all the freedom that is left if the members of every key are fixed as a
sequence: two lists with the same sequences are made from each other by neighbours of different
keys changing places. A run of steps comes to the same end over such lists if any two steps of
different keys can be taken in either order.

## Main definitions

* `Reordered`: neighbours of different keys change places, any number of times.

## Main results

* `reordered_iff_filter_eq`: lists are reordered exactly if every key has the same sequence.
* `Reordered.foldl_eq`: reordered runs have the same end.
-/

namespace ManifestPatch

variable {α κ σ : Type} {key : α → κ} {as bs : List α}

/-- Lists are **reordered** across keys if the one is made from the other by neighbours of
different keys changing places, any number of times. -/
inductive Reordered (key : α → κ) : List α → List α → Prop
  | refl (as : List α) : Reordered key as as
  | swap (before : List α) {a b : α} (after : List α) (h : key a ≠ key b) :
      Reordered key (before ++ a :: b :: after) (before ++ b :: a :: after)
  | trans {as bs cs : List α} (h : Reordered key as bs) (h' : Reordered key bs cs) :
      Reordered key as cs

/-- Reordering has no direction. -/
theorem Reordered.symm (h : Reordered key as bs) : Reordered key bs as := by
  induction h with
  | refl as => exact .refl as
  | swap before after hkey => exact .swap before after hkey.symm
  | trans _ _ ih ih' => exact ih'.trans ih

/-- Lists are reordered behind a common first member. -/
theorem Reordered.cons (a : α) (h : Reordered key as bs) : Reordered key (a :: as) (a :: bs) := by
  induction h with
  | refl as => exact .refl (a :: as)
  | swap before after hkey => exact .swap (a :: before) after hkey
  | trans _ _ ih ih' => exact ih.trans ih'

/-- A member comes to the front if all before it have other keys. -/
theorem Reordered.to_front {before : List α} {a : α} (after : List α)
    (h : ∀ b ∈ before, key b ≠ key a) :
    Reordered key (before ++ a :: after) (a :: (before ++ after)) := by
  induction before with
  | nil => exact .refl (a :: after)
  | cons b before ih =>
      obtain ⟨hb, hbefore⟩ := List.forall_mem_cons.mp h
      exact ((ih hbefore).cons b).trans (.swap [] (before ++ after) hb)

/-! ### Runs -/

/-- **Reordered runs have the same end** if steps of different keys can be taken in either order. -/
theorem Reordered.foldl_eq {step : σ → α → σ}
    (hstep : ∀ s a b, key a ≠ key b → step (step s a) b = step (step s b) a)
    (h : Reordered key as bs) (s : σ) : as.foldl step s = bs.foldl step s := by
  induction h with
  | refl as => rfl
  | @swap before a b after hkey =>
      rw [List.foldl_append, List.foldl_append, List.foldl_cons, List.foldl_cons, List.foldl_cons,
        List.foldl_cons, hstep _ a b hkey]
  | trans _ _ ih ih' => exact ih.trans ih'

/-! ### Sequences of one key -/

variable [BEq κ] [LawfulBEq κ]

/-- Reordering leaves the sequence of every key as it is. -/
theorem Reordered.filter_eq (h : Reordered key as bs) (k : κ) :
    (as.filter fun a => key a == k) = bs.filter fun b => key b == k := by
  induction h with
  | refl as => rfl
  | @swap before a b after hkey =>
      rw [List.filter_append, List.filter_append]
      congr 1
      by_cases ha : key a = k
      · have hb : key b ≠ k := fun hb => hkey (ha.trans hb.symm)
        simp [ha, hb]
      · simp [List.filter_cons, ha]
  | trans _ _ ih ih' => exact ih.trans ih'

/-- Lists in which every key has the same sequence are reordered. The induction is on the first
list: its first member is the first of its key in the second one as well, and comes to the front
there. -/
theorem reordered_of_filter_eq
    (h : ∀ k, (as.filter fun a => key a == k) = bs.filter fun b => key b == k) :
    Reordered key as bs := by
  induction as generalizing bs with
  | nil =>
      have hnil : bs = [] := by
        refine List.eq_nil_iff_forall_not_mem.mpr fun b hb => ?_
        have hmem : b ∈ bs.filter fun b' => key b' == key b := List.mem_filter.mpr ⟨hb, by simp⟩
        rw [← h (key b)] at hmem
        exact absurd hmem List.not_mem_nil
      rw [hnil]
      exact .refl []
  | cons a as ih =>
      have ha := h (key a)
      rw [List.filter_cons_of_pos (by simp), eq_comm, List.filter_eq_cons_iff] at ha
      obtain ⟨before, after, rfl, hbefore, -, hafter⟩ := ha
      simp only [beq_iff_eq] at hbefore
      refine ((ih fun k => ?_).cons a).trans (Reordered.to_front after hbefore).symm
      have hk := h k
      rw [List.filter_append] at hk ⊢
      by_cases hkey : key a = k
      · subst hkey
        have hnone : (before.filter fun b => key b == key a) = [] := by
          simpa [List.filter_eq_nil_iff] using hbefore
        simpa [hnone] using hk
      · simpa [hkey] using hk

/-- **Lists are reordered across keys** exactly if every key has the same sequence in both. -/
theorem reordered_iff_filter_eq :
    Reordered key as bs ↔
      ∀ k, (as.filter fun a => key a == k) = bs.filter fun b => key b == k :=
  ⟨Reordered.filter_eq, reordered_of_filter_eq⟩

end ManifestPatch
