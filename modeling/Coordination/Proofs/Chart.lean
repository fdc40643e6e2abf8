import Coordination.Chart
import Mathlib.Data.List.Induction

/-!
# Charts and their rules

The edges of a chart are collected from its rules one after the other. Whatever the order of the rules, and however
often one is repeated, the chart allows a transition exactly if a rule declares it (`Chart.allows_ofRules`). The targets
of a state are those of its own rules, in the order in which they were first declared (`Chart.targets_ofRules`).
-/

namespace Coordination.Chart

variable {S : Type} [DecidableEq S]

private theorem find?_addEdge (edges : Table S (List S)) (r : Rule S) (source : S) :
    (addEdge edges r).find? source =
      if source = r.source then
        some (if r.target ∈ (edges.find? r.source).getD [] then (edges.find? r.source).getD []
          else (edges.find? r.source).getD [] ++ [r.target])
      else edges.find? source :=
  Table.find?_insert r.source source _ edges

/-- A rule adds its own target to the targets of its source, and no other. -/
private theorem mem_addEdge (edges : Table S (List S)) (r : Rule S) (source target : S) :
    target ∈ ((addEdge edges r).find? source).getD [] ↔
      target ∈ (edges.find? source).getD [] ∨ r = ⟨source, target⟩ := by
  obtain ⟨source', target'⟩ := r
  rw [find?_addEdge]
  by_cases hsource : source = source'
  · subst hsource
    by_cases hknown : target' ∈ (edges.find? source).getD []
    · simp only [hknown, ↓reduceIte, Option.getD_some, Rule.mk.injEq, true_and]
      constructor
      · exact Or.inl
      · rintro (h | rfl)
        · exact h
        · exact hknown
    · simp [hknown, eq_comm]
  · have hother : ¬ source' = source := fun h => hsource h.symm
    simp [hsource, hother]

private theorem mem_foldl_addEdge (rules : List (Rule S)) (edges : Table S (List S)) (source target : S) :
    target ∈ ((rules.foldl addEdge edges).find? source).getD [] ↔
      target ∈ (edges.find? source).getD [] ∨ ⟨source, target⟩ ∈ rules := by
  induction rules generalizing edges with
  | nil => simp
  | cons r rules ih =>
    rw [List.foldl_cons, ih, mem_addEdge, or_assoc, List.mem_cons, eq_comm]

/-- The targets of a state are the states that it can go to. -/
private theorem allows_iff_mem_targets (c : Chart S) (source target : S) :
    c.allows source target = true ↔ target ∈ c.targets source := by
  unfold allows targets
  cases c.edges.find? source <;> simp

/-- A transition is allowed exactly if it is declared. -/
theorem allows_ofRules (rules : List (Rule S)) (source target : S) :
    (ofRules rules).allows source target = true ↔ ⟨source, target⟩ ∈ rules := by
  have hmem := mem_foldl_addEdge rules [] source target
  simp only [Table.find?, List.find?_nil, Option.map_none, Option.getD_none, List.not_mem_nil, false_or] at hmem
  exact (allows_iff_mem_targets _ source target).trans hmem

theorem check_eq_ok_iff (c : Chart S) (source target : S) :
    c.check source target = .ok () ↔ c.allows source target = true := by
  unfold check
  cases c.allows source target <;> simp

/-- A refusal names the two states. -/
private theorem check_eq_error_iff (c : Chart S) (source target : S) (refusal : Refusal S) :
    c.check source target = .error refusal ↔ c.allows source target = false ∧ refusal = ⟨source, target⟩ := by
  unfold check
  cases c.allows source target <;> simp [eq_comm]

/-! ### The order of the targets -/

private theorem eraseDups_concat (states : List S) (state : S) :
    (states ++ [state]).eraseDups = if state ∈ states then states.eraseDups else states.eraseDups ++ [state] := by
  rw [List.eraseDups_append]
  by_cases hstate : state ∈ states <;> simp [List.removeAll, List.eraseDups_cons, hstate]

private theorem nodup_eraseDups (states : List S) : states.eraseDups.Nodup := by
  induction states using List.reverseRecOn with
  | nil => simp
  | append_singleton states state ih =>
    rw [eraseDups_concat]
    split
    · exact ih
    · rename_i hnew
      refine List.nodup_append.2 ⟨ih, List.pairwise_singleton .., ?_⟩
      rintro _ hknown _ hstate rfl
      obtain rfl := List.mem_singleton.1 hstate
      exact hnew (List.mem_eraseDups.1 hknown)

/-- The last rule adds its target to those of its source, unless it is there already. -/
private theorem targets_concat (rules : List (Rule S)) (r : Rule S) (source : S) :
    (ofRules (rules ++ [r])).targets source =
      if source = r.source ∧ r.target ∉ (ofRules rules).targets source then
        (ofRules rules).targets source ++ [r.target]
      else (ofRules rules).targets source := by
  have hedges : (ofRules (rules ++ [r])).edges = addEdge (ofRules rules).edges r := List.foldl_append
  unfold targets
  rw [hedges, find?_addEdge]
  by_cases hsource : source = r.source
  · subst hsource
    by_cases hknown : r.target ∈ ((ofRules rules).edges.find? r.source).getD [] <;> simp [hknown]
  · simp [hsource]

theorem targets_ofRules (rules : List (Rule S)) (source : S) :
    (ofRules rules).targets source = ((rules.filter fun r => r.source = source).map Rule.target).eraseDups := by
  induction rules using List.reverseRecOn with
  | nil => rfl
  | append_singleton rules r ih =>
    rw [targets_concat, ih, List.filter_append, List.map_append]
    by_cases hsource : source = r.source
    · subst hsource
      have hlast : [r].filter (fun r' => r'.source = r.source) = [r] := by simp
      rw [hlast, List.map_singleton, eraseDups_concat]
      simp only [true_and, List.mem_eraseDups, ite_not]
    · have hother : ¬ r.source = source := fun h => hsource h.symm
      simp [hsource, hother]

/-- **A chart tells what its rules declare.** Let the rules come in any order, with repetitions, loops and cycles. A
transition is allowed exactly if it is declared, if its target is listed for its source, and if the check of it passes;
otherwise the check names the two states. The targets that are listed for a state are those of its own rules in the
order of the declarations, of which later repetitions are left out; so none is listed twice, and the rules of other
states make no difference, wherever they stand. -/
theorem ofRules_declares (rules : List (Rule S)) (source target : S) :
    let c := ofRules rules
    let own := fun rules : List (Rule S) => rules.filter fun r => r.source = source
    (c.allows source target = true ↔ ⟨source, target⟩ ∈ rules) ∧
      (c.allows source target = true ↔ target ∈ c.targets source) ∧
      (c.allows source target = true ↔ c.check source target = .ok ()) ∧
      (∀ refusal, c.check source target = .error refusal ↔
        ⟨source, target⟩ ∉ rules ∧ refusal = ⟨source, target⟩) ∧
      c.targets source = ((own rules).map Rule.target).eraseDups ∧ (c.targets source).Nodup ∧
      ∀ rules', own rules' = own rules → (ofRules rules').targets source = c.targets source := by
  intro c own
  have hallows : c.allows source target = true ↔ ⟨source, target⟩ ∈ rules := allows_ofRules rules source target
  have htargets : c.targets source = ((own rules).map Rule.target).eraseDups := targets_ofRules rules source
  refine ⟨hallows, c.allows_iff_mem_targets source target, (c.check_eq_ok_iff source target).symm, ?_, htargets, ?_, ?_⟩
  · intro refusal
    rw [c.check_eq_error_iff, ← hallows, Bool.not_eq_true]
  · rw [htargets]
    exact nodup_eraseDups _
  · intro rules' hown
    rw [htargets, targets_ofRules rules' source]
    exact congrArg (fun own => (own.map Rule.target).eraseDups) hown

/-- A traffic light, with a rule that is declared twice. -/
example : (ofRules [⟨0, 1⟩, ⟨1, 2⟩, ⟨2, 0⟩, ⟨0, 3⟩, ⟨0, 1⟩] : Chart Nat).targets 0 = [1, 3] := by decide

end Coordination.Chart
