import Mathlib.Data.List.Forall2

/-!
# Relating Results Pointwise

Two runs of one function on related inputs, or a run and what it should yield, are compared result
by result: lists position by position, and outcomes that can fail by their values or by their one
reason to fail.

## Main definitions

* `Agree`: two outcomes fail for the same reason, or succeed with related values.

## Main results

* `Agree.bind`: outcomes that agree are followed by outcomes that agree.
* `mapM_eq_ok_iff`: a traversal succeeds exactly if it does so at every position.
* `mapM_eq_error_iff`: a traversal fails as it does at the first position where it does.
-/

namespace ManifestPatch

variable {α β γ ε : Type}

/-! ### Lists -/

/-- A pointwise relation may be replaced by one that follows from it at the members. -/
theorem forall₂_imp_of_mem {R S : α → β → Prop} {as : List α} {bs : List β}
    (h : List.Forall₂ R as bs) (himp : ∀ a ∈ as, ∀ b, R a b → S a b) : List.Forall₂ S as bs := by
  have hmem := (List.forall₂_and_left as bs).mpr ⟨fun a ha => ha, h⟩
  exact hmem.imp fun a b hab => himp a hab.1 b hab.2

/-- Pointwise relations compose. -/
theorem forall₂_comp {R : α → β → Prop} {S : β → γ → Prop} {as : List α} {bs : List β}
    {cs : List γ} (h : List.Forall₂ R as bs) (h' : List.Forall₂ S bs cs) :
    List.Forall₂ (fun a c => ∃ b, R a b ∧ S b c) as cs := by
  induction h generalizing cs with
  | nil =>
      cases h'
      exact List.Forall₂.nil
  | cons hab _ ih =>
      cases h' with
      | cons hbc hrest => exact List.Forall₂.cons ⟨_, hab, hbc⟩ (ih hrest)

/-- What is related pointwise on the right is related to something on the left. -/
theorem exists_of_forall₂_of_mem {R : α → β → Prop} {as : List α} {bs : List β}
    (h : List.Forall₂ R as bs) {b : β} (hb : b ∈ bs) : ∃ a ∈ as, R a b := by
  induction h with
  | nil => simp at hb
  | @cons a b' as bs hab _ ih =>
      rcases List.mem_cons.mp hb with rfl | hb
      · exact ⟨a, List.mem_cons_self, hab⟩
      · obtain ⟨a', ha', hr⟩ := ih hb
        exact ⟨a', List.mem_cons_of_mem a ha', hr⟩

/-- If every member is related to something, the list is related to a list. -/
theorem exists_forall₂ {R : α → β → Prop} {as : List α} (h : ∀ a ∈ as, ∃ b, R a b) :
    ∃ bs, List.Forall₂ R as bs := by
  induction as with
  | nil => exact ⟨[], List.Forall₂.nil⟩
  | cons a as ih =>
      obtain ⟨b, hb⟩ := h a List.mem_cons_self
      obtain ⟨bs, hbs⟩ := ih fun a' ha' => h a' (List.mem_cons_of_mem a ha')
      exact ⟨b :: bs, List.Forall₂.cons hb hbs⟩

/-- If a list is related to a list, every member is related to something. -/
theorem forall_exists_of_forall₂ {R : α → β → Prop} {as : List α} {bs : List β}
    (h : List.Forall₂ R as bs) : ∀ a ∈ as, ∃ b, R a b := by
  intro a ha
  obtain ⟨b, -, hb⟩ := exists_of_forall₂_of_mem h.flip ha
  exact ⟨b, hb⟩

/-- What is related pointwise to an appended list comes in two parts. -/
theorem forall₂_append_left_iff {R : α → β → Prop} {as as' : List α} {bs : List β} :
    List.Forall₂ R (as ++ as') bs ↔
      ∃ part rest, bs = part ++ rest ∧ List.Forall₂ R as part ∧ List.Forall₂ R as' rest := by
  induction as generalizing bs with
  | nil => simp [List.forall₂_nil_left_iff]
  | cons a as ih =>
      rw [List.cons_append, List.forall₂_cons_left_iff]
      constructor
      · rintro ⟨b, bs, hab, hrest, rfl⟩
        obtain ⟨part, rest, rfl, hpart, hrest⟩ := ih.mp hrest
        exact ⟨b :: part, rest, rfl, List.Forall₂.cons hab hpart, hrest⟩
      · rintro ⟨part, rest, rfl, hpart, hrest⟩
        obtain ⟨b, others, hab, hothers, rfl⟩ := List.forall₂_cons_left_iff.mp hpart
        exact ⟨b, others ++ rest, hab, ih.mpr ⟨others, rest, rfl, hothers, hrest⟩, rfl⟩

/-- **What is related pointwise to collected lists** comes in as many parts, in their order. -/
theorem forall₂_flatMap_left_iff {δ : Type} {R : α → β → Prop} {collect : δ → List α}
    {ds : List δ} {bs : List β} :
    List.Forall₂ R (ds.flatMap collect) bs ↔
      ∃ parts : List (List β),
        List.Forall₂ (fun d part => List.Forall₂ R (collect d) part) ds parts ∧
          bs = parts.flatten := by
  induction ds generalizing bs with
  | nil => simp [List.forall₂_nil_left_iff]
  | cons d ds ih =>
      rw [List.flatMap_cons, forall₂_append_left_iff]
      constructor
      · rintro ⟨part, rest, rfl, hpart, hrest⟩
        obtain ⟨parts, hparts, rfl⟩ := ih.mp hrest
        exact ⟨part :: parts, List.Forall₂.cons hpart hparts, rfl⟩
      · rintro ⟨parts, hparts, rfl⟩
        obtain ⟨part, others, hpart, hothers, rfl⟩ := List.forall₂_cons_left_iff.mp hparts
        exact ⟨part, others.flatten, rfl, hpart, ih.mpr ⟨others, hothers, rfl⟩⟩

/-- Related lists have related members at the same index. -/
theorem rel_getElem? {R : α → β → Prop} {as : List α} {bs : List β} (h : List.Forall₂ R as bs)
    (i : Nat) : Option.Rel R as[i]? bs[i]? := by
  induction h generalizing i with
  | nil => exact Option.Rel.none
  | cons hab _ ih =>
      cases i with
      | zero => exact Option.Rel.some hab
      | succ i => simpa using ih i

/-- If a test does not tell related members apart, the first members to pass it are related. -/
theorem rel_find? {R : α → β → Prop} {test : α → Bool} {test' : β → Bool} {as : List α}
    {bs : List β} (h : List.Forall₂ R as bs) (htest : ∀ a b, R a b → test a = test' b) :
    Option.Rel R (as.find? test) (bs.find? test') := by
  induction h with
  | nil => exact Option.Rel.none
  | @cons a b as bs hab _ ih =>
      rw [List.find?_cons, List.find?_cons, htest a b hab]
      cases test' b with
      | true => exact Option.Rel.some hab
      | false => exact ih

/-- A list has its members in the order of their indexes. -/
theorem pairwise_zipIdx (as : List α) : as.zipIdx.Pairwise fun a b => a.2 < b.2 := by
  rw [← List.pairwise_map, List.zipIdx_map_snd]
  exact List.pairwise_lt_range'

/-- If what a filter takes away gives nothing, the filter makes no difference to what is
collected. -/
theorem flatMap_filter_of_eq_nil {keep : α → Bool} {collect : α → List β}
    (h : ∀ a, keep a = false → collect a = []) (as : List α) :
    (as.filter keep).flatMap collect = as.flatMap collect := by
  induction as with
  | nil => rfl
  | cons a as ih =>
      by_cases hkeep : keep a = true
      · rw [List.filter_cons_of_pos hkeep, List.flatMap_cons, List.flatMap_cons, ih]
      · rw [List.filter_cons_of_neg hkeep, ih, List.flatMap_cons, h a (Bool.eq_false_iff.mpr hkeep),
          List.nil_append]

/-! ### Outcomes -/

/-- Two outcomes **agree**: both fail, for the same reason, or both succeed, with related values. -/
inductive Agree (R : α → β → Prop) : Except ε α → Except ε β → Prop
  | ok {a : α} {b : β} (h : R a b) : Agree R (.ok a) (.ok b)
  | error (reason : ε) : Agree R (.error reason) (.error reason)

/-- Where outcomes that agree succeed, their values are related. -/
theorem Agree.rel_of_ok {R : α → β → Prop} {x : Except ε α} {y : Except ε β} {a : α} {b : β}
    (h : Agree R x y) (hx : x = .ok a) (hy : y = .ok b) : R a b := by
  subst hx hy
  cases h with
  | ok hab => exact hab

/-- Outcomes that agree are followed by outcomes that agree. -/
theorem Agree.bind {α' β' : Type} {R : α → β → Prop} {S : α' → β' → Prop} {x : Except ε α}
    {y : Except ε β} {f : α → Except ε α'} {g : β → Except ε β'} (h : Agree R x y)
    (hfg : ∀ a b, R a b → Agree S (f a) (g b)) : Agree S (x >>= f) (y >>= g) := by
  cases h with
  | ok hab => exact hfg _ _ hab
  | error reason => exact Agree.error reason

/-- Related values are outcomes that agree. -/
theorem forall₂_agree_ok {R : α → β → Prop} {as : List α} {bs : List β}
    (h : List.Forall₂ R as bs) :
    List.Forall₂ (Agree R) (as.map .ok : List (Except ε α)) (bs.map .ok) := by
  rw [List.forall₂_map_left_iff, List.forall₂_map_right_iff]
  exact h.imp fun _ _ hab => .ok hab

/-- **A traversal succeeds** exactly if it succeeds at every position, with the value there. -/
theorem mapM_eq_ok_iff {f : α → Except ε β} {as : List α} {bs : List β} :
    as.mapM f = .ok bs ↔ List.Forall₂ (fun a b => f a = .ok b) as bs := by
  induction as generalizing bs with
  | nil =>
      rw [List.mapM_nil, List.forall₂_nil_left_iff]
      exact ⟨fun h => (Except.ok.inj h).symm, fun h => h ▸ rfl⟩
  | cons a as ih =>
      rw [List.mapM_cons, List.forall₂_cons_left_iff]
      cases ha : f a with
      | error reason =>
          simp [bind, Except.bind]
      | ok b =>
          cases has : as.mapM f with
          | error reason =>
              simp [bind, Except.bind, ← ih, has]
          | ok rest =>
              simp [bind, Except.bind, pure, Except.pure, ← ih, has, eq_comm]

/-- A traversal fails at its first position, or succeeds there and fails later. -/
theorem mapM_cons_eq_error_iff {f : α → Except ε β} {a : α} {as : List α} {reason : ε} :
    (a :: as).mapM f = .error reason ↔
      f a = .error reason ∨ (∃ b, f a = .ok b) ∧ as.mapM f = .error reason := by
  rw [List.mapM_cons]
  cases f a with
  | error reason' => simp [bind, Except.bind]
  | ok b => cases as.mapM f <;> simp [bind, Except.bind, pure, Except.pure]

/-- **A traversal fails** exactly if it succeeds up to some position, and fails there. -/
theorem mapM_eq_error_iff {f : α → Except ε β} {as : List α} {reason : ε} :
    as.mapM f = .error reason ↔
      ∃ before a after, as = before ++ a :: after ∧ (∀ b ∈ before, ∃ c, f b = .ok c) ∧
        f a = .error reason := by
  induction as with
  | nil => simp [pure, Except.pure]
  | cons a as ih =>
      rw [mapM_cons_eq_error_iff, ih]
      constructor
      · rintro (ha | ⟨ha, before, a', after, rfl, hbefore, ha'⟩)
        · exact ⟨[], a, as, rfl, nofun, ha⟩
        · exact ⟨a :: before, a', after, rfl, List.forall_mem_cons.mpr ⟨ha, hbefore⟩, ha'⟩
      · rintro ⟨_ | ⟨b, before⟩, a', after, heq, hbefore, ha'⟩
        · obtain ⟨rfl, rfl⟩ := List.cons.inj heq
          exact .inl ha'
        · obtain ⟨rfl, rfl⟩ := List.cons.inj heq
          obtain ⟨ha, hbefore⟩ := List.forall_mem_cons.mp hbefore
          exact .inr ⟨ha, before, a', after, rfl, hbefore, ha'⟩

/-- A traversal succeeds with some values exactly if it succeeds at every position. -/
theorem exists_mapM_eq_ok_iff {f : α → Except ε β} {as : List α} :
    (∃ bs, as.mapM f = .ok bs) ↔ ∀ a ∈ as, ∃ b, f a = .ok b := by
  simp only [mapM_eq_ok_iff]
  constructor
  · rintro ⟨bs, h⟩
    exact forall_exists_of_forall₂ h
  · exact exists_forall₂

/-- Traversals with the same outcome at every position have the same outcome. -/
theorem mapM_eq_of_forall₂ {f : α → Except ε γ} {g : β → Except ε γ} {as : List α} {bs : List β}
    (h : List.Forall₂ (fun a b => f a = g b) as bs) : as.mapM f = bs.mapM g := by
  induction h with
  | nil => rfl
  | cons hab _ ih => rw [List.mapM_cons, List.mapM_cons, hab, ih]

end ManifestPatch
