/-!
# Tables

A finite map kept as the list of its bindings, at most one per key; the newest binding comes last.

* `find?_insert`, `find?_erase`: reading after a change.
* `find?_eq_some_iff`, `values_perm`, `perm_of_find?_eq`: without repeated keys, the bindings are what can be read.
* `find?_map_values`, `find?_filter_values`: reading when values were changed, or sorted out.
-/

namespace Coordination

abbrev Table (κ α : Type) := List (κ × α)

namespace Table

variable {κ α : Type} [DecidableEq κ]

def find? (k : κ) (t : Table κ α) : Option α := (List.find? (fun b => b.1 = k) t).map Prod.snd

def erase (k : κ) (t : Table κ α) : Table κ α := List.filter (fun b => b.1 ≠ k) t

/-- The binding of `k` replaces an earlier one. -/
def insert (k : κ) (a : α) (t : Table κ α) : Table κ α := t.erase k ++ [(k, a)]

omit [DecidableEq κ] in
def keys (t : Table κ α) : List κ := t.map Prod.fst

omit [DecidableEq κ] in
def values (t : Table κ α) : List α := t.map Prod.snd

theorem find?_erase (k k' : κ) (t : Table κ α) :
    (t.erase k).find? k' = if k' = k then none else t.find? k' := by
  induction t with
  | nil => simp [erase, find?]
  | cons b t ih =>
    simp only [erase, find?] at ih ⊢
    by_cases hb : b.1 = k
    · by_cases hk : k' = k
      · simp_all
      · have : ¬ b.1 = k' := fun h => hk (h.symm.trans hb)
        simp_all
    · by_cases hk : b.1 = k'
      · have : ¬ k' = k := fun h => hb (hk.trans h)
        simp_all
      · simp_all

theorem find?_insert (k k' : κ) (a : α) (t : Table κ α) :
    (t.insert k a).find? k' = if k' = k then some a else t.find? k' := by
  have h := find?_erase k k' t
  simp only [insert, find?, List.find?_append, Option.map_or] at h ⊢
  rw [h]
  by_cases hk : k' = k
  · simp [hk]
  · have : ¬ k = k' := fun e => hk e.symm
    simp [hk, this]

private theorem keys_erase (k : κ) (t : Table κ α) : (t.erase k).keys = t.keys.filter (· ≠ k) := by
  simp only [keys, erase, List.filter_map]
  rfl

/-- Keys that are renamed without confusion can be erased before or after the renaming. -/
theorem map_erase {κ' β : Type} [DecidableEq κ'] {k : κ} {k' : κ'} {f : κ × α → κ' × β}
    (hf : ∀ b, (f b).1 = k' ↔ b.1 = k) (t : Table κ α) : (t.erase k).map f = Table.erase k' (t.map f) := by
  have hkept : (fun b => decide (b.1 ≠ k)) = (fun b => decide (b.1 ≠ k')) ∘ f := by
    funext b
    simp [hf b]
  simp only [erase, List.filter_map]
  rw [hkept]

theorem nodup_keys_erase {k : κ} {t : Table κ α} (h : t.keys.Nodup) : (t.erase k).keys.Nodup := by
  rw [keys_erase]
  exact h.filter _

theorem nodup_keys_insert {k : κ} {a : α} {t : Table κ α} (h : t.keys.Nodup) : (t.insert k a).keys.Nodup := by
  have hkeys : (t.insert k a).keys = (t.erase k).keys ++ [k] := List.map_append
  rw [hkeys, List.nodup_append]
  refine ⟨nodup_keys_erase h, by simp, ?_⟩
  intro x hx y hy
  rw [keys_erase] at hx
  have := (List.mem_filter.1 hx).2
  simp_all

/-- Without repeated keys, the bindings of a table are what can be read from it. -/
theorem find?_eq_some_iff {k : κ} {a : α} {t : Table κ α} (h : t.keys.Nodup) :
    t.find? k = some a ↔ (k, a) ∈ t := by
  induction t with
  | nil => simp [find?]
  | cons b t ih =>
    obtain ⟨hb, ht⟩ := List.nodup_cons.1 (show (b.1 :: keys t).Nodup from h)
    have ih := ih ht
    simp only [find?] at ih ⊢
    by_cases hk : b.1 = k
    · have hnot : (k, a) ∉ t := fun hm => hb (hk ▸ List.mem_map_of_mem hm)
      obtain ⟨k', a'⟩ := b
      subst hk
      simp [hnot, eq_comm]
    · have hne : (k, a) ≠ b := fun he => hk (he ▸ rfl)
      simp [hk, hne, ih]

/-- The values of a table are the one of a key, if there is one, and those of the others. -/
theorem values_perm (k : κ) {t : Table κ α} (h : t.keys.Nodup) :
    t.values.Perm ((t.find? k).toList ++ (t.erase k).values) := by
  induction t with
  | nil => exact .refl _
  | cons b t ih =>
    obtain ⟨hb, ht⟩ := List.nodup_cons.1 (show (b.1 :: keys t).Nodup from h)
    by_cases hk : b.1 = k
    · have hfind : find? k (b :: t) = some b.2 := by simp [find?, hk]
      have herase : erase k (b :: t) = t := by
        rw [erase, List.filter_cons_of_neg (by simp [hk]), List.filter_eq_self]
        exact fun b' hb' => decide_eq_true fun heq => hb (hk.trans heq.symm ▸ List.mem_map_of_mem hb')
      rw [hfind, herase]
      exact .refl _
    · have hfind : find? k (b :: t) = find? k t := by simp [find?, hk]
      have herase : erase k (b :: t) = b :: erase k t := by simp [erase, hk]
      rw [hfind, herase]
      exact ((ih ht).cons b.2).trans List.perm_middle.symm

theorem find?_map_values {β : Type} (f : α → β) (k : κ) (t : Table κ α) :
    find? k (t.map fun b => (b.1, f b.2)) = (t.find? k).map f := by
  simp [find?, List.find?_map, Function.comp_def]

theorem find?_filter_values {t : Table κ α} (h : t.keys.Nodup) (p : α → Bool) (k : κ) :
    find? k (t.filter fun b => p b.2) = (t.find? k).filter p := by
  have hkeys : (keys (t.filter fun b => p b.2)).Nodup := h.sublist (List.filter_sublist.map _)
  apply Option.ext
  intro a
  rw [find?_eq_some_iff hkeys, Option.filter_eq_some_iff, find?_eq_some_iff h, List.mem_filter]

/-- Two tables without repeated keys from which the same can be read have the same bindings. -/
theorem perm_of_find?_eq {t t' : Table κ α} (h : t.keys.Nodup) (h' : t'.keys.Nodup)
    (hfind : ∀ k, t.find? k = t'.find? k) : t.Perm t' := by
  have hnodup : ∀ {t : Table κ α}, t.keys.Nodup → List.Nodup t :=
    fun h => List.Pairwise.of_map Prod.fst (fun _ _ hne heq => hne (congrArg Prod.fst heq)) h
  refine (List.perm_ext_iff_of_nodup (hnodup h) (hnodup h')).2 fun b => ?_
  rw [← find?_eq_some_iff h, hfind, find?_eq_some_iff h']

end Table

end Coordination
