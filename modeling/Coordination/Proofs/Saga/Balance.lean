import Coordination.Proofs.Saga.Ensemble
import Coordination.Proofs.Saga.Notices

/-!
# What a piece of a statement sends

A monitor counts the sagas that are started, committed, compensated and failed. It depends only on the notices that are
sent what is heard of a saga and what a monitor counts (`Scene.Sends`). Every piece of a statement sends what goes with
the change of the status (`Strand.tells`), so it keeps the tale of the saga, and the balance of starts and ends.
-/

namespace Coordination.Saga

variable {V : Type}

/-- How many times the monitor is among the listeners. -/
def monitors (audience : Audience Listener) : Nat := audience.leaves.count .monitor

namespace Notice

/-- How many events of a kind there are among some notices. -/
def count (kind : EventKind) (news : List Notice) : Nat := news.countP fun n => Announcement.kind? n = some kind

theorem count_append (kind : EventKind) (news later : List Notice) :
    count kind (news ++ later) = count kind news + count kind later :=
  List.countP_append

end Notice

/-- One for a saga that has come to its end. -/
def Status.ends (status : Status) : Nat := if status.isTerminal then 1 else 0

/-- No saga is started or fails while it goes on, and it ends once. -/
theorem Progress.count {id : SagaId} {status status' : Status} {news : List Notice}
    (h : Progress id status news status') :
    Notice.count .started news = 0 ∧ Notice.count .failed news = 0 ∧
      Notice.count .committed news + Notice.count .compensated news + status.ends = status'.ends := by
  cases h with
  | still => exact ⟨rfl, rfl, Nat.zero_add _⟩
  | step hn => obtain ⟨step, rfl | ⟨error, rfl⟩⟩ := hn <;> exact ⟨rfl, rfl, rfl⟩
  | commit => exact ⟨rfl, rfl, rfl⟩
  | turnBack => exact ⟨rfl, rfl, rfl⟩
  | undoing hn =>
    obtain ⟨step, error, rfl⟩ := hn
    exact ⟨rfl, rfl, rfl⟩
  | settle => exact ⟨rfl, rfl, rfl⟩

namespace Scene

/-- How many events of a kind the monitor has counted. -/
def count (kind : EventKind) (s : Scene V) : Nat := s.chronicle.tally.count kind

/-- From `s` to `t`, only `news` is sent, and no saga is begun. -/
structure Sends (audience : Audience Listener) (news : List Notice) (s t : Scene V) : Prop where
  issued : t.issued = s.issued
  sent : t.chronicle.sent = s.chronicle.sent ++ news
  count : ∀ kind, t.count kind = s.count kind + monitors audience * Notice.count kind news

variable {audience : Audience Listener} {news later : List Notice} {s t u : Scene V}

namespace Sends

theorem of_eq (hissued : t.issued = s.issued) (hsent : t.chronicle.sent = s.chronicle.sent)
    (htally : t.chronicle.tally = s.chronicle.tally) : Sends audience [] s t where
  issued := hissued
  sent := by rw [hsent, List.append_nil]
  count := by
    intro kind
    unfold Scene.count
    rw [htally]
    rfl

theorem trans (h : Sends audience news s t) (h' : Sends audience later t u) : Sends audience (news ++ later) s u where
  issued := h'.issued.trans h.issued
  sent := by rw [h'.sent, h.sent, List.append_assoc]
  count := by
    intro kind
    rw [h'.count, h.count, Notice.count_append, Nat.mul_add, Nat.add_assoc]

private theorem heard (h : Sends audience news s t) (id : SagaId) :
    t.heard id = s.heard id ++ news.filter fun n => n.saga = id := by
  rw [Scene.heard, h.sent, List.filter_append]
  rfl

theorem heard_self (h : Sends audience news s t) {id : SagaId} (hnews : ∀ n ∈ news, n.saga = id) :
    t.heard id = s.heard id ++ news := by
  rw [h.heard, List.filter_eq_self.2 fun n hn => decide_eq_true (hnews n hn)]

theorem heard_other (h : Sends audience news s t) {id id' : SagaId} (hnews : ∀ n ∈ news, n.saga = id) (hid : id' ≠ id) :
    t.heard id' = s.heard id' := by
  rw [h.heard, List.filter_eq_nil_iff.2 fun n hn => by simpa [hnews n hn] using hid.symm, List.append_nil]

end Sends

private theorem persist_sends (audience : Audience Listener) (r : Record) (s : Scene V) :
    Sends audience [] s (s.persist r) := by
  unfold persist
  split <;> exact .of_eq rfl rfl rfl

private theorem announce_sends (audience : Audience Listener) (n : Notice) (s : Scene V) :
    Sends audience [n] s (s.announce audience n) where
  issued := rfl
  sent := sent_announce ..
  count := by
    intro kind
    refine (count_announce audience s.clock n s.chronicle kind).trans ?_
    rw [Notice.count, List.countP_singleton]
    by_cases hkind : Announcement.kind? n = some kind
    · rw [if_pos hkind, if_pos (decide_eq_true hkind), Nat.mul_one]
      rfl
    · rw [if_neg hkind, if_neg (by simpa using hkind), Nat.mul_zero]
      rfl

end Scene

open Scene (Sends)

namespace Run

theorem persist_sends (r : Run V) (s : Scene V) : Sends r.wiring.audience [] s (r.persist s) := by
  unfold persist
  split
  · exact Scene.persist_sends _ r.record s
  · exact .of_eq rfl rfl rfl

private theorem announce_sends (n : Notice) (r : Run V) (s : Scene V) :
    Sends r.wiring.audience [n] s (r.announce n s) :=
  Scene.announce_sends r.wiring.audience n s

/-- A notice, and then the record. -/
theorem announced_sends (n : Notice) (r : Run V) (s : Scene V) :
    Sends r.wiring.audience [n] s (r.persist (r.announce n s)) :=
  (announce_sends n r s).trans (persist_sends r _)

theorem begin_sends (wiring : Wiring) (name : String) (correlation : Option String) (budget : Option Span)
    (s : Scene V) :
    Sends wiring.audience [.started (begin wiring name correlation budget s).1.record.id name] s.identify.2
      (begin wiring name correlation budget s).2 :=
  announced_sends (.started s.identify.1 name) (begin wiring name correlation budget s).1 s.identify.2

theorem fail_sends (fault : Fault) (outcome : Except Fault Unit) (r : Run V) (s : Scene V) :
    Sends r.wiring.audience [.failed r.record.id (some fault.message)] s (r.fail fault outcome s) := by
  cases outcome with
  | ok _ => exact announce_sends _ r s
  | error skipped =>
    have hskipped : Sends r.wiring.audience [] s (s.write ⟨.warn, "Rollback skipped",
        [("saga_id", r.record.id.text), ("error", skipped.message)]⟩) := .of_eq rfl rfl rfl
    exact hskipped.trans (announce_sends _ r _)

end Run

/-! ### Motions -/

namespace Strand

def status (x : Strand V) : Status := x.run.record.status

/-- What the status is in the middle of a statement. It tells of a rollback if one is under way, or was broken off. -/
def Fits (brokenOff : Bool) (x : Strand V) : Prop :=
  match x.pending with
  | .nothing => x.status = .compensating → brokenOff = true
  | .acting _ _ => x.status = .running
  | .rollingBack _ => x.status = .compensating
  | .undoing _ _ => x.status = .compensating

/-- What comes of a motion. -/
structure Tells (x : Strand V) (s : Scene V) (after : Option (Report V) × Strand V × Scene V) : Prop where
  id : after.2.1.id = x.id
  wiring : after.2.1.run.wiring = x.run.wiring
  news : ∃ news, Progress x.id x.status news after.2.1.status ∧ Sends x.run.wiring.audience news s after.2.2
  fits : ∀ brokenOff, x.Fits brokenOff → after.2.1.Fits brokenOff
  /-- A run is committed by a commit. -/
  commits : after.2.1.status = .committed ↔ x.status = .committed ∨ after.1 = some (.commit (.ok ()))

variable {x y : Strand V} {s t : Scene V} {report : Report V}

/-- The status stays, and nothing is sent. -/
private theorem tells_of_still (hid : y.id = x.id) (hwiring : y.run.wiring = x.run.wiring)
    (hstatus : y.status = x.status)
    (hsends : Sends x.run.wiring.audience [] s t) (hfits : ∀ brokenOff, x.Fits brokenOff → y.Fits brokenOff)
    (hreport : report ≠ .commit (.ok ())) : x.Tells s (some report, y, t) where
  id := hid
  wiring := hwiring
  news := by
    refine ⟨[], ?_, hsends⟩
    show Progress x.id x.status [] y.status
    rw [hstatus]
    exact .still _
  fits := hfits
  commits := by simp [hstatus, hreport]

/-- The run is committed neither before nor after. -/
private theorem tells_of_uncommitted {news : List Notice} (hid : y.id = x.id) (hwiring : y.run.wiring = x.run.wiring)
    (hnext : Progress x.id x.status news y.status) (hsends : Sends x.run.wiring.audience news s t)
    (hfits : ∀ brokenOff, y.Fits brokenOff) (hbefore : x.status ≠ .committed) (hafter : y.status ≠ .committed)
    (hreport : report ≠ .commit (.ok ())) : x.Tells s (some report, y, t) where
  id := hid
  wiring := hwiring
  news := ⟨news, hnext, hsends⟩
  fits := fun brokenOff _ => hfits brokenOff
  commits := by simp [hbefore, hafter, hreport]

section

variable {r : Run V}

private theorem tells_enter (name : String) (undo : V → Undo) (r : Run V) (s : Scene V) :
    Tells ⟨r, .nothing⟩ s ((Motion.enter name undo).carryOut ⟨r, .nothing⟩ s) := by
  unfold Motion.carryOut
  dsimp only
  cases hrefusal : r.stepRefusal? s with
  | some fault => exact tells_of_still rfl rfl rfl (.of_eq rfl rfl rfl) (fun _ h => h) nofun
  | none =>
    have hrunning : r.record.status = .running := Run.status_of_isRunning (Run.isRunning_of_stepRefusal? hrefusal)
    exact tells_of_still rfl rfl rfl (.of_eq rfl rfl rfl) (fun _ _ => hrunning) nofun

private theorem tells_leave (name : String) (undo : V → Undo) (hrunning : r.record.status = .running)
    (outcome : Except String V) (s : Scene V) :
    Tells ⟨r, .acting name undo⟩ s ((Motion.leave outcome).carryOut ⟨r, .acting name undo⟩ s) := by
  have hfits : ∀ brokenOff, r.record.status = .compensating → brokenOff = true := by
    rw [hrunning]
    nofun
  have hnext : ∀ {n : Notice}, n.OfStep r.record.id → Progress r.record.id r.record.status [n] r.record.status := by
    rw [hrunning]
    exact .step
  have hcommitted : r.record.status ≠ .committed := by
    rw [hrunning]
    nofun
  cases outcome with
  | error error =>
    exact tells_of_uncommitted rfl rfl (hnext ⟨name, .inr ⟨error, rfl⟩⟩) (Run.announce_sends _ r s) hfits hcommitted
      hcommitted nofun
  | ok value =>
    exact tells_of_uncommitted rfl rfl (hnext ⟨name, .inl rfl⟩)
      (Run.announced_sends _ ((r.remember ⟨name, value, undo value⟩).touch s) s) hfits hcommitted hcommitted nofun

private theorem tells_commit (r : Run V) (s : Scene V) :
    Tells ⟨r, .nothing⟩ s (Motion.commit.carryOut ⟨r, .nothing⟩ s) := by
  unfold Motion.carryOut Run.commit
  dsimp only
  cases hrunning : r.isRunning with
  | true =>
    have hsends := Run.announced_sends (.committed r.record.id) ((r.forget.withStatus .committed).touch s) s
    refine ⟨rfl, rfl, ⟨_, ?_, hsends⟩, fun _ _ => nofun, ?_⟩
    · show Progress r.record.id r.record.status _ .committed
      rw [Run.status_of_isRunning hrunning]
      exact .commit
    · exact ⟨fun _ => .inr rfl, fun _ => rfl⟩
  | false => exact tells_of_still rfl rfl rfl (.of_eq rfl rfl rfl) (fun _ h => h) nofun

private theorem tells_turnBack (r : Run V) (s : Scene V) :
    Tells ⟨r, .nothing⟩ s (Motion.turnBack.carryOut ⟨r, .nothing⟩ s) := by
  unfold Motion.carryOut
  dsimp only
  cases hrunning : r.isRunning with
  | true =>
    have hstatus := Run.status_of_isRunning hrunning
    have hnext : Progress r.record.id r.record.status [] .compensating := by
      rw [hstatus]
      exact .turnBack
    exact tells_of_uncommitted rfl rfl hnext (Run.persist_sends (r.turnBack s).1 s) (fun _ => rfl)
      (show r.record.status ≠ _ by rw [hstatus]; nofun) nofun nofun
  | false => exact tells_of_still rfl rfl rfl (.of_eq rfl rfl rfl) (fun _ h => h) nofun

private theorem tells_putDown {step : Step V} {left : List (Step V)} (hstatus : r.record.status = .compensating)
    (s : Scene V) :
    Tells ⟨r, .undoing step left⟩ s (Motion.putDown.carryOut ⟨r, .undoing step left⟩ s) := by
  have hcommitted : r.record.status ≠ .committed := by
    rw [hstatus]
    nofun
  unfold Motion.carryOut Run.putDown
  dsimp only
  cases step.undo.ending.error? with
  | none => exact tells_of_still rfl rfl rfl (.of_eq rfl rfl rfl) (fun _ h => h) nofun
  | some error =>
    have hnext : Progress r.record.id r.record.status [.compensationFailed r.record.id step.name error]
        r.record.status := by
      rw [hstatus]
      exact .undoing ⟨step.name, error, rfl⟩
    exact tells_of_uncommitted rfl rfl hnext (Run.announce_sends _ r s) (fun _ => hstatus) hcommitted hcommitted nofun

private theorem tells_settle (hstatus : r.record.status = .compensating) (s : Scene V) :
    Tells ⟨r, .rollingBack []⟩ s (Motion.settle.carryOut ⟨r, .rollingBack []⟩ s) := by
  have hnext : Progress r.record.id r.record.status [.compensated r.record.id] .compensated := by
    rw [hstatus]
    exact .settle
  exact tells_of_uncommitted rfl rfl hnext (Run.announced_sends _ (r.settle s).1 s) (fun _ => nofun)
    (show r.record.status ≠ _ by rw [hstatus]; nofun) nofun nofun

end

/-- A motion that does not fit does nothing. -/
private theorem tells_of_misfit (x : Strand V) (s : Scene V) : x.Tells s (none, x, s) where
  id := rfl
  wiring := rfl
  news := ⟨[], .still _, .of_eq rfl rfl rfl⟩
  fits := fun _ h => h
  commits := by simp

/-- **Every motion tells what becomes of its saga.** -/
theorem tells {brokenOff : Bool} (h : x.Fits brokenOff) (m : Motion V) (s : Scene V) : x.Tells s (m.carryOut x s) := by
  obtain ⟨r, pending⟩ := x
  cases m with
  | enter name undo =>
    cases pending with
    | nothing => exact tells_enter name undo r s
    | _ => exact tells_of_misfit _ s
  | leave outcome =>
    cases pending with
    | acting name undo => exact tells_leave name undo h outcome s
    | _ => exact tells_of_misfit _ s
  | commit =>
    cases pending with
    | nothing => exact tells_commit r s
    | _ => exact tells_of_misfit _ s
  | note error =>
    cases pending with
    | nothing => exact tells_of_still rfl rfl rfl (.of_eq rfl rfl rfl) (fun _ h => h) nofun
    | _ => exact tells_of_misfit _ s
  | turnBack =>
    cases pending with
    | nothing => exact tells_turnBack r s
    | _ => exact tells_of_misfit _ s
  | takeUp =>
    rcases pending with _ | _ | (_ | ⟨step, left⟩) | _
    case rollingBack.cons => exact tells_of_still rfl rfl rfl (.of_eq rfl rfl rfl) (fun _ h => h) nofun
    all_goals exact tells_of_misfit _ s
  | putDown =>
    cases pending with
    | undoing step left => exact tells_putDown h s
    | _ => exact tells_of_misfit _ s
  | settle =>
    rcases pending with _ | _ | (_ | ⟨step, left⟩) | _
    case rollingBack.nil => exact tells_settle h s
    all_goals exact tells_of_misfit _ s

end Strand

end Coordination.Saga
