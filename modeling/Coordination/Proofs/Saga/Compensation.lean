import Coordination.Proofs.Saga.Statement

/-!
# What a run undoes

Whatever statements are made on a run, its compensations are carried out in one place: during the first rollback that
succeeds, and only if no commit has succeeded before. Then all the steps are undone that were completed until then, the
newest first (`undone_once`).
-/

namespace Coordination.Saga

variable {V : Type} (rt : Runtime) (statements : List (Statement V)) {r : Run V} {s : Scene V}

/-- What is undone for a run is undone in its turns. -/
theorem play_undoings (hknown : ¬ s.Unissued r.record.id) :
    undoings r.record.id (s.since (play rt statements r s).2.2) =
      (play rt statements r s).1.flatMap Turn.undone := by
  induction statements generalizing r s with
  | nil => exact congrArg (undoings r.record.id) (Scene.since_self s)
  | cons st statements ih =>
    have hturn : r.Leads s (st.turn rt r s).after := (st.turn_lawful rt hknown).leads
    have hrest := play_leads rt statements (hturn.known hknown)
    have hundone : undoings r.record.id (s.since (st.turn rt r s).after.2) = (st.turn rt r s).undone := rfl
    have hlater := ih (hturn.known hknown)
    rw [hturn.id] at hlater
    show undoings r.record.id (s.since (play rt statements _ _).2.2) = (_ :: _ : List (Turn V)).flatMap _
    rw [hturn.led.undoings_since hrest.led, hundone, List.flatMap_cons, hlater]

section

variable {earlier later : List (Turn V)} {t : Turn V}

/-- A rollback that succeeds undoes the steps that were completed before it, and nothing else undoes any. -/
theorem undone_of_split (hknown : ¬ s.Unissued r.record.id) (hsteps : r.steps = [])
    (h : (play rt statements r s).1 = earlier ++ t :: later) :
    t.undone = if t.rollsBack then ((completedIn rt earlier).map Step.bound).reverse else [] := by
  obtain ⟨before, st, after, rfl, rfl, rfl, rfl⟩ := play_split rt _ h
  have hlaw := st.turn_lawful rt ((play_leads rt before hknown).known hknown)
  rw [hlaw.undone]
  split
  · rename_i hroll
    have hrunning := hlaw.running_of_ends (by rw [Turn.ends, hroll, Bool.or_true])
    have hremembered := (play_going rt _ hknown (play_running rt _ hknown hrunning).2).2.1
    show (play rt before r s).2.1.steps.reverse.map _ = _
    rw [hremembered, hsteps, List.nil_append, List.map_reverse]
  · rfl

/-- A run ends at most once: before its end it is under way, and after it nothing is undone any more. -/
private theorem undone_of_ends (hknown : ¬ s.Unissued r.record.id)
    (h : (play rt statements r s).1 = earlier ++ t :: later) (hends : t.ends = true) :
    (∀ u ∈ earlier, u.undone = []) ∧ ∀ u ∈ later, u.undone = [] := by
  have hlawful := play_lawful rt statements hknown
  rw [h] at hlawful
  obtain ⟨before, st, after, rfl, rfl, rfl, rfl⟩ := play_split rt _ h
  have hbefore := (play_leads rt before hknown).known hknown
  have hlaw := st.turn_lawful rt hbefore
  have hrunning := play_running rt _ hknown (hlaw.running_of_ends hends)
  constructor
  · exact fun u hu => (hlawful u (List.mem_append_left _ hu)).undone_eq_nil (hrunning.2 u hu)
  · exact fun u hu => (play_ended rt _ (hlaw.leads.known hbefore) (hlaw.ended hends) u hu).2

/-- In all, no more is undone than was completed, and nothing twice. -/
private theorem undone_le_completed (hknown : ¬ s.Unissued r.record.id) (hsteps : r.steps = []) :
    ((play rt statements r s).1.flatMap Turn.undone).reverse <+:
      (completedIn rt (play rt statements r s).1).map Step.bound := by
  have hlawful := play_lawful rt statements hknown
  by_cases hends : ∃ t ∈ (play rt statements r s).1, t.ends = true
  · obtain ⟨t, ht, hends⟩ := hends
    obtain ⟨earlier, later, h⟩ := List.append_of_mem ht
    obtain ⟨hearlier, hlater⟩ := undone_of_ends rt _ hknown h hends
    have ht := undone_of_split rt _ hknown hsteps h
    rw [h, List.flatMap_append, List.flatMap_cons, List.flatMap_eq_nil_iff.2 hearlier,
      List.flatMap_eq_nil_iff.2 hlater, List.nil_append, List.append_nil, ht, completedIn_append, List.map_append]
    split
    · rw [List.reverse_reverse]
      exact List.prefix_append ..
    · exact List.nil_prefix
  · have hnone : ∀ t ∈ (play rt statements r s).1, t.undone = [] :=
      fun t ht => (hlawful t ht).undone_eq_nil (by simpa using fun h => hends ⟨t, ht, h⟩)
    rw [List.flatMap_eq_nil_iff.2 hnone]
    exact List.nil_prefix

end

/-- **Compensations are carried out once.** Let any statements be made on a run. What is undone for it is undone in its
turns; a step that was completed is undone at most once. A turn that is not a successful rollback undoes nothing, and a
successful rollback undoes exactly the steps that were completed before it, the newest first, each with the value that
its action came to and that the step answered. After a successful commit or rollback nothing is undone any more. -/
theorem undone_once (wiring : Wiring) (name : String) (correlation : Option String) (budget : Option Span)
    (s : Scene V) (statements : List (Statement V)) :
    let begun := Run.begin wiring name correlation budget s
    let played := play rt statements begun.1 begun.2
    undoings begun.1.record.id (begun.2.since played.2.2) = played.1.flatMap Turn.undone ∧
      (played.1.flatMap Turn.undone).reverse <+: (completedIn rt played.1).map Step.bound ∧
      ∀ earlier t later, played.1 = earlier ++ t :: later →
        t.undone = (if t.rollsBack then ((completedIn rt earlier).map Step.bound).reverse else []) ∧
        t.returned? = (t.completed? rt).map Step.value ∧
        (t.commits = true ∨ t.rollsBack = true → ∀ u ∈ later, u.undone = []) := by
  intro begun played
  have hknown : ¬ begun.2.Unissued begun.1.record.id := Run.begin_known wiring name correlation budget s
  refine ⟨play_undoings rt _ hknown, undone_le_completed rt _ hknown rfl, ?_⟩
  intro earlier t later h
  have hmem : t ∈ played.1 := by
    rw [h]
    exact List.mem_append_right _ (List.mem_cons_self ..)
  refine ⟨undone_of_split rt _ hknown rfl h, (play_lawful rt _ hknown t hmem).returned, ?_⟩
  intro hends
  exact (undone_of_ends rt _ hknown h (Bool.or_eq_true_iff.2 hends)).2

end Coordination.Saga
