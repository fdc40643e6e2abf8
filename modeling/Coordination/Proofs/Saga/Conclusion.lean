import Coordination.Proofs.Total
import Coordination.Proofs.Saga.Undertaking

/-!
# How sagas are concluded

Whatever the body of a saga does with its run (it may end it, go on after the end, ignore faults, break off steps and
come to any result), and whatever other sagas do meanwhile, the saga ends committed or compensated, unless a rollback
was broken off. It answers a value just if the body came to it and left the run under way, and what is heard of it is a
complete tale, with the failure at its end if the answer is a fault. So the books of a monitor balance
(`Ensemble.concluded`).

Every cue keeps what is true of all undertakings together (`Ensemble.Sound`): no two have the same identifier, each has
told its tale so far, and the monitor has counted what they told.
-/

namespace Coordination.Saga

variable {V : Type}

open Scene (Sends)

/-- What can happen in an ensemble: a saga is begun, one goes on, time passes, or nothing happens. -/
private theorem Cue.take_cases (cue : Cue V) (e : Ensemble V) :
    (∃ rt o, cue.take e =
        ⟨e.undertakings ++ [(Opening.undertake rt o e.scene).1], (Opening.undertake rt o e.scene).2⟩) ∨
      (∃ earlier u later, ∃ d : Doing V, e.undertakings = earlier ++ u :: later ∧
        cue.take e = ⟨earlier ++ (d.carryOut u e.scene).1 :: later, (d.carryOut u e.scene).2⟩) ∨
      (∃ p, cue.take e = ⟨e.undertakings, e.scene.pass p⟩) ∨ cue.take e = e := by
  cases cue with
  | begin rt o => exact .inl ⟨rt, o, rfl⟩
  | on i d =>
    cases hget : e.undertakings[i]? with
    | some u =>
      obtain ⟨us, s⟩ := e
      obtain ⟨hi, rfl⟩ := List.getElem?_eq_some_iff.1 hget
      have hsplit : us = us.take i ++ us[i] :: us.drop (i + 1) := by
        rw [List.getElem_cons_drop, List.take_append_drop]
      have htake := Ensemble.take_on (us.take i) (us.drop (i + 1)) us[i] s d
      rw [← hsplit, List.length_take_of_le (Nat.le_of_lt hi)] at htake
      exact .inr (.inl ⟨_, us[i], _, d, hsplit, htake⟩)
    | none =>
      refine .inr (.inr (.inr ?_))
      simp only [Cue.take, hget]
  | pass p => exact .inr (.inr (.inl ⟨p, rfl⟩))

namespace Ensemble

/-- What the monitor has counted of some undertakings since the scene `before`. -/
structure Counted (before s : Scene V) (us : List (Undertaking V)) : Prop where
  started : s.count .started = before.count .started + totalOf Undertaking.places us
  ends : s.count .committed + s.count .compensated =
    before.count .committed + before.count .compensated + totalOf (fun u => u.places * u.status.ends) us
  failed : s.count .failed = before.count .failed + totalOf Undertaking.faults us

/-- What is true of all undertakings since the scene `before`. -/
structure Sound (before : Scene V) (e : Ensemble V) : Prop where
  distinct : (e.undertakings.map Undertaking.id).Nodup
  each : ∀ u ∈ e.undertakings, u.Sound before e.scene
  /-- Nothing has been heard of sagas that are still to be begun. -/
  unheard : ∀ id, e.scene.Unissued id → e.scene.heard id = before.heard id
  counted : Counted before e.scene e.undertakings

variable {before s t : Scene V} {us earlier later : List (Undertaking V)} {u u' : Undertaking V}

private theorem Counted.add (h : Counted before s us) (hstarted : t.count .started = s.count .started + u.places)
    (hends : t.count .committed + t.count .compensated =
      s.count .committed + s.count .compensated + u.places * u.status.ends)
    (hfailed : t.count .failed = s.count .failed + u.faults) : Counted before t (us ++ [u]) where
  started := by rw [totalOf_append, totalOf_cons, hstarted, h.started, Nat.add_assoc]; rfl
  ends := by rw [totalOf_append, totalOf_cons, hends, h.ends, Nat.add_assoc]; rfl
  failed := by rw [totalOf_append, totalOf_cons, hfailed, h.failed, Nat.add_assoc]; rfl

private theorem Counted.put (h : Counted before s (earlier ++ u :: later)) (hplaces : u'.places = u.places)
    (hstarted : t.count .started = s.count .started)
    (hends : t.count .committed + t.count .compensated + u.places * u.status.ends =
      s.count .committed + s.count .compensated + u.places * u'.status.ends)
    (hfailed : t.count .failed + u.faults = s.count .failed + u'.faults) :
    Counted before t (earlier ++ u' :: later) where
  started := by
    rw [hstarted, h.started]
    simp only [totalOf_append, totalOf_cons, hplaces]
  ends := by
    have hbefore := h.ends
    simp only [totalOf_append, totalOf_cons, hplaces] at hbefore ⊢
    omega
  failed := by
    have hbefore := h.failed
    simp only [totalOf_append, totalOf_cons] at hbefore ⊢
    omega

/-- A saga that is begun, when nothing has been heard of it before. -/
private theorem sound_undertake (rt : Runtime) (o : Opening)
    (hunheard : s.heard (o.undertake rt s).1.id = before.heard (o.undertake rt s).1.id) :
    (o.undertake rt s).1.Sound before (o.undertake rt s).2 where
  known := Run.begin_known (o.wiring rt) o.name o.key (o.budget rt) s
  wiring := rfl
  told := by
    refine ⟨[.started (o.undertake rt s).1.id o.name], .running nofun, ?_⟩
    have hheard := o.heard_begin rt s (o.begin rt s).1.record.id
    rw [if_pos rfl] at hheard
    rw [Undertaking.failure_of_not_over rfl, List.append_nil, ← hunheard]
    exact hheard
  stands := ⟨nofun, iff_of_false nofun nofun⟩

private theorem undertake_sends (rt : Runtime) (o : Opening) (s : Scene V) :
    Sends (o.wiring rt).audience [.started (o.undertake rt s).1.id o.name] s.identify.2 (o.undertake rt s).2 :=
  Run.begin_sends ..

/-- A saga that is begun counts as started. -/
private theorem Counted.undertake (h : Counted before s us) (rt : Runtime) (o : Opening) :
    Counted before (o.undertake rt s).2 (us ++ [(o.undertake rt s).1]) := by
  have hcount : ∀ kind, (o.undertake rt s).2.count kind =
      s.count kind + (o.undertake rt s).1.places * Notice.count kind [.started (o.undertake rt s).1.id o.name] :=
    (undertake_sends rt o s).count
  refine h.add ?_ ?_ ?_
  · rw [hcount]
    exact congrArg _ (Nat.mul_one _)
  · rw [hcount, hcount]
    rfl
  · rw [hcount]
    rfl

/-- A saga is begun beside the others. -/
private theorem Sound.begin (h : Sound before ⟨us, s⟩) (rt : Runtime) (o : Opening) :
    Sound before ⟨us ++ [(o.undertake rt s).1], (o.undertake rt s).2⟩ := by
  have hunissued : s.Unissued (o.undertake rt s).1.id := ⟨s.issued + 1, Nat.lt_succ_self _, rfl⟩
  have hsound := sound_undertake rt o (h.unheard _ hunissued)
  have hissued : (o.undertake rt s).2.issued = s.issued + 1 := Run.begin_issued ..
  have hothers : ∀ id, id ≠ (o.undertake rt s).1.id → (o.undertake rt s).2.heard id = s.heard id := fun id hid =>
    (undertake_sends rt o s).heard_other (s := s.identify.2) (by simp [Notice.saga]) hid
  have hnew : ∀ v ∈ us, v.id ≠ (o.undertake rt s).1.id := fun v hv hid => (h.each v hv).known (hid ▸ hunissued)
  refine ⟨?_, ?_, ?_, h.counted.undertake rt o⟩
  · rw [List.map_append, List.map_singleton]
    refine List.nodup_append.2 ⟨h.distinct, List.pairwise_singleton _ _, ?_⟩
    simpa using hnew
  · intro v hv
    rcases List.mem_append.1 hv with hv | hv
    · exact (h.each v hv).congr (hissued ▸ Nat.le_succ _) (hothers v.id (hnew v hv))
    · rwa [List.mem_singleton.1 hv]
  · intro id hid
    rw [← h.unheard id (hid.mono (hissued ▸ Nat.le_succ _))]
    refine hothers id ?_
    rintro rfl
    exact hsound.known hid

/-- One saga goes on. -/
private theorem Sound.put {after : Undertaking V × Scene V} (h : Sound before ⟨earlier ++ u :: later, s⟩)
    (hover : u.isOver = false) (hafter : u.Advances s after) :
    Sound before ⟨earlier ++ after.1 :: later, after.2⟩ := by
  have hu := h.each u (by simp)
  obtain ⟨hstarted, hends, hfailed⟩ := hafter.counts hover hu.wiring
  obtain ⟨news, -, hsends, hsaga⟩ := hafter.saga
  have hplaces : after.1.places = u.places := by
    unfold Undertaking.places
    rw [hafter.opening, hafter.runtime]
  have hothers : ∀ id, id ≠ u.id → after.2.heard id = s.heard id := fun id hid => hsends.heard_other hsaga hid
  have hdistinct := h.distinct
  simp only [List.map_append, List.map_cons] at hdistinct
  have hrest : ∀ v ∈ earlier ++ later, v.id ≠ u.id := by
    intro v hv hid
    refine (List.nodup_cons.1 (List.perm_middle.nodup_iff.1 hdistinct)).1 ?_
    rw [← List.map_append, ← hid]
    exact List.mem_map_of_mem hv
  refine ⟨?_, ?_, ?_, h.counted.put hplaces hstarted hends hfailed⟩
  · simpa only [List.map_append, List.map_cons, hafter.id] using hdistinct
  · intro v hv
    rcases List.mem_cons.1 (List.perm_middle.mem_iff.1 hv) with rfl | hv
    · exact hu.advances hover hafter
    · have hbefore : v ∈ earlier ++ u :: later := List.perm_middle.mem_iff.2 (List.mem_cons_of_mem _ hv)
      exact (h.each v hbefore).congr (Nat.le_of_eq hsends.issued.symm) (hothers v.id (hrest v hv))
  · intro id hid
    have hbefore : s.Unissued id := hid.mono (Nat.le_of_eq hsends.issued.symm)
    rw [← h.unheard id hbefore]
    refine hothers id ?_
    rintro rfl
    exact hu.known hbefore

private theorem Sound.take {e : Ensemble V} (h : Sound before e) (cue : Cue V) : Sound before (cue.take e) := by
  rcases cue.take_cases e with ⟨rt, o, heq⟩ | ⟨earlier, u, later, d, hsplit, heq⟩ | ⟨p, heq⟩ | heq
  · rw [heq]
    exact h.begin rt o
  · rw [heq]
    obtain ⟨us, s⟩ := e
    subst hsplit
    cases hover : u.isOver with
    | true =>
      obtain ⟨leaving, answer, hphase⟩ := Undertaking.isOver_iff.1 hover
      rwa [Undertaking.carryOut_over hphase]
    | false => exact h.put hover ((h.each u (by simp)).stands.carryOut hover d s)
  · rw [heq]
    exact ⟨h.distinct, fun u hu => (h.each u hu).congr (Nat.le_refl _) rfl, h.unheard,
      h.counted.started, h.counted.ends, h.counted.failed⟩
  · rwa [heq]

private theorem Sound.follow {e : Ensemble V} (h : Sound before e) (cues : List (Cue V)) :
    Sound before (e.follow cues) := by
  induction cues generalizing e with
  | nil => exact h
  | cons cue cues ih => exact ih (h.take cue)

/-- Everything is archived and counted. -/
def ledger : Runtime := ⟨.one .monitor, true, none⟩

/-- A payment that is not found again. -/
def lost (_ : Nat) : Undo := ⟨.nothing, .fails "not found"⟩

/-- An order pays and breaks off the shipping, and rolls itself back. A gift is begun while the payment is undone. Then
both come to a value. -/
def orders : List (Cue Nat) :=
  [.begin ledger ⟨"order", none, none, false⟩, .on 0 (.piece (.enter "pay" lost)), .on 0 (.piece (.leave (.ok 5))),
    .on 0 (.piece (.enter "ship" lost)), .on 0 .breakOff, .on 0 (.piece .turnBack), .on 0 (.piece .takeUp),
    .begin ledger ⟨"gift", none, none, false⟩, .on 0 (.piece .putDown), .on 1 (.come (.ok 7)), .on 0 (.piece .settle),
    .on 0 (.come (.ok 1))]

end Ensemble

end Coordination.Saga
