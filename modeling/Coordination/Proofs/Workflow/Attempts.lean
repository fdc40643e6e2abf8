import Coordination.Proofs.Workflow.Permanence

/-!
# Attempts to expire a process

Two calls of the store can fail when a process is expired: the load, and the save of the timed out record. The notice
goes out in between. So an attempt whose load fails has done nothing, but one whose save fails has announced an ending
that the store does not know of (`Office.Attempted`). If attempts are repeated until the process has ended, each of
those is announced once more (`Office.expire_attempts`).
-/

namespace Coordination.Workflow

variable {S : Type}

/-- How an attempt to expire a process comes out. -/
inductive Outcome (S : Type) where
  /-- The process was running and is stored as timed out. -/
  | expired (next : Record S)
  /-- There is no such process, or it has ended. -/
  | passedOver
  | unread (fault : Fault S)
  /-- The process was running, but the timed out record could not be saved. -/
  | unsaved (fault : Fault S)

namespace Outcome

def isExpired : Outcome S → Bool
  | .expired _ => true
  | _ => false

def isUnsaved : Outcome S → Bool
  | .unsaved _ => true
  | _ => false

/-- The process was found running. -/
def isFound (u : Outcome S) : Bool := u.isUnsaved || u.isExpired

private theorem countP_isFound (outcomes : List (Outcome S)) :
    outcomes.countP isFound = outcomes.countP isUnsaved + outcomes.countP isExpired := by
  induction outcomes with
  | nil => rfl
  | cons u outcomes ih =>
    rw [List.countP_cons, List.countP_cons, List.countP_cons, ih]
    cases u <;> simp [isFound, isUnsaved, isExpired] <;> omega

end Outcome

private theorem Record.isTerminal_of_ended {r : Record S} (h : r.isRunning = false) : r.isTerminal = true := by
  have hstatus : r.status ≠ .running := of_decide_eq_false h
  unfold isTerminal
  cases hcase : r.status with
  | running => exact absurd hcase hstatus
  | completed => rfl
  | failed => rfl
  | timedOut => rfl

namespace Office

variable [ToString S]

def outcome (now : Millis) (id : ProcessId) (o : Office S) : Outcome S :=
  match (o.load id).1, (o.expire now id).1 with
  | .error fault, _ => .unread fault
  | .ok _, .ok (some next) => .expired next
  | .ok _, .ok none => .passedOver
  | .ok _, .error fault => .unsaved fault

/-- Attempts at the given times, one after the other. -/
def attempts (id : ProcessId) : List Millis → Office S → List (Outcome S) × Office S
  | [], o => ([], o)
  | now :: times, o =>
    let (outcomes, last) := attempts id times (o.expire now id).2
    (o.outcome now id :: outcomes, last)

/-- What an attempt answers and leaves behind, by its outcome. -/
def Attempted (now : Millis) (id : ProcessId) (o : Office S) (after : Except (Fault S) (Option (Record S)) × Office S) :
    Outcome S → Prop
  | .expired next =>
    after.1 = .ok (some next) ∧
      (∃ r, o.stored id = some r ∧ r.isRunning = true ∧ r.updatedAt ≤ next.updatedAt ∧
        next = { r with status := .timedOut, error := none, updatedAt := max now r.updatedAt }) ∧
      (∀ i, after.2.stored i = if i = id then some next else o.stored i) ∧
      after.2.chronicle = o.chronicle.announce o.audience now (.timedOut id)
  | .passedOver =>
    after.1 = .ok none ∧ (∀ r, o.stored id = some r → r.isTerminal = true) ∧
      after.2.store.inner = o.store.inner ∧ after.2.chronicle = o.chronicle
  | .unread fault =>
    after.1 = .error fault ∧ (o.load id).1 = .error fault ∧
      after.2.store.inner = o.store.inner ∧ after.2.chronicle = o.chronicle
  | .unsaved fault =>
    after.1 = .error fault ∧ (∃ r, o.stored id = some r ∧ r.isRunning = true) ∧
      after.2.store.inner = o.store.inner ∧
      after.2.chronicle = o.chronicle.announce o.audience now (.timedOut id)

/-! ### One attempt -/

omit [ToString S] in
private theorem load_asked (id : ProcessId) (o : Office S) : (o.load id).2 = o.asked := by
  unfold load Guarded.ask
  dsimp only
  split <;> rfl

private theorem finish_timedOut {r : Record S} (h : r.isRunning = true) (now : Millis) (o : Office S) :
    o.finish now .timedOut r = (.ok (r.timedOutAt now), o.announce now (.timedOut r.id)) := by
  unfold finish
  rw [Record.finish_timedOut h]
  rfl

/-- Only a running record that is loaded leads to anything. -/
private theorem expire_eq (now : Millis) (id : ProcessId) (o : Office S) :
    o.expire now id =
      match (o.load id).1 with
      | .error fault => (.error fault, o.asked)
      | .ok none => (.ok none, o.asked)
      | .ok (some r) =>
        if r.isRunning then
          let saved := (o.asked.announce now (.timedOut r.id)).save (r.timedOutAt now)
          (saved.1.map fun _ => some (r.timedOutAt now), saved.2)
        else (.ok none, o.asked) := by
  have hasked := o.load_asked id
  unfold expire
  generalize o.load id = loaded at hasked
  obtain ⟨_ | _ | r, o₁⟩ := loaded
  · exact congrArg (Prod.mk _) hasked
  · exact congrArg (Prod.mk _) hasked
  · obtain rfl : o₁ = o.asked := hasked
    dsimp only
    split
    · rename_i hrunning
      rw [finish_timedOut hrunning]
      dsimp only
      generalize (o.asked.announce now (.timedOut r.id)).save (r.timedOutAt now) = saved
      obtain ⟨_ | _, o₂⟩ := saved <;> rfl
    · rfl

/-- Every attempt has one of the four outcomes. -/
private theorem expire_attempted {o : Office S} (hsound : o.store.inner.Sound) (now : Millis) (id : ProcessId) :
    Attempted now id o (o.expire now id) (o.outcome now id) := by
  unfold outcome
  rw [expire_eq]
  cases hloaded : (o.load id).1 with
  | error fault => exact ⟨rfl, hloaded, rfl, rfl⟩
  | ok found =>
    have hfound := stored_of_load hloaded
    cases found with
    | none => exact ⟨rfl, by simp [hfound], rfl, rfl⟩
    | some r =>
      dsimp only
      split
      · rename_i hrunning
        obtain rfl : r.id = id := hsound.id_eq hfound
        rcases (o.asked.announce now (.timedOut r.id)).save_cases (r.timedOutAt now) with
          ⟨fault, hanswer, hinner⟩ | ⟨hanswer, -, -, hstored⟩
        · rw [hanswer]
          exact ⟨rfl, ⟨r, hfound, hrunning⟩, hinner, rfl⟩
        · rw [hanswer]
          exact ⟨rfl, ⟨r, hfound, hrunning, Millis.le_max_right _ _, rfl⟩, hstored, rfl⟩
      · rename_i hended
        refine ⟨rfl, ?_, rfl, rfl⟩
        rintro r' hr'
        obtain rfl : r = r' := Option.some.inj (hfound.symm.trans hr')
        exact Record.isTerminal_of_ended (Bool.eq_false_iff.2 hended)

/-- The process is gone or has ended. -/
def Ended (id : ProcessId) (o : Office S) : Prop := ∀ r, o.stored id = some r → r.isTerminal = true

namespace Attempted

variable {now : Millis} {id : ProcessId} {o : Office S} {u : Outcome S}
  {after : Except (Fault S) (Option (Record S)) × Office S}

/-- The notice goes out when the process is found running, before it is known whether it can be saved. -/
private theorem chronicle (h : Attempted now id o after u) :
    after.2.chronicle = if u.isFound then o.chronicle.announce o.audience now (.timedOut id) else o.chronicle := by
  cases u with
  | expired next => exact h.2.2.2
  | passedOver => exact h.2.2.2
  | unread fault => exact h.2.2.2
  | unsaved fault => exact h.2.2.2

/-- A process that has ended is not found running any more. -/
private theorem ended (h : Attempted now id o after u) (hended : Ended id o) :
    u.isFound = false ∧ Ended id after.2 := by
  have hrunning : ∀ r, o.stored id = some r → r.isRunning ≠ true := by
    intro r hr hrunning
    have hterminal := hended r hr
    rw [Record.isTerminal_of_isRunning hrunning] at hterminal
    cases hterminal
  have hkept : after.2.store.inner = o.store.inner → Ended id after.2 := by
    intro hinner
    unfold Ended stored
    rw [hinner]
    exact hended
  cases u with
  | expired next =>
    obtain ⟨r, hr, hr', -⟩ := h.2.1
    exact absurd hr' (hrunning r hr)
  | passedOver => exact ⟨rfl, hkept h.2.2.1⟩
  | unread fault => exact ⟨rfl, hkept h.2.2.1⟩
  | unsaved fault =>
    obtain ⟨r, hr, hr'⟩ := h.2.1
    exact absurd hr' (hrunning r hr)

/-- A process that is expired has ended. -/
private theorem ended_of_expired (h : Attempted now id o after u) (hu : u.isExpired = true) : Ended id after.2 := by
  cases u with
  | expired next =>
    obtain ⟨-, ⟨r, -, -, -, rfl⟩, hstored, -⟩ := h
    intro r' hr'
    rw [hstored, if_pos rfl, Option.some.injEq] at hr'
    rw [← hr']
    rfl
  | passedOver => cases hu
  | unread fault => cases hu
  | unsaved fault => cases hu

end Attempted

/-! ### Attempts one after the other -/

private theorem audience_expire (now : Millis) (id : ProcessId) (o : Office S) :
    (o.expire now id).2.audience = o.audience := by
  rw [expire_eq]
  split
  · rfl
  · rfl
  · split <;> rfl

private theorem sound_expire {o : Office S} (h : o.store.inner.Sound) (now : Millis) (id : ProcessId) :
    (o.expire now id).2.store.inner.Sound := by
  rcases o.expire_cases now id with hinner | ⟨r, next, -, -, hsound, -⟩
  · rw [hinner]
    exact h
  · exact hsound h

section

variable {o : Office S} (hsound : o.store.inner.Sound) (id : ProcessId) (times : List Millis)

include hsound

/-- Each attempt that finds the process running sends its notice once more. -/
private theorem sent_attempts : (o.attempts id times).2.chronicle.sent =
    o.chronicle.sent ++ List.replicate ((o.attempts id times).1.countP Outcome.isFound) (.timedOut id) := by
  induction times generalizing o with
  | nil => exact (List.append_nil _).symm
  | cons now times ih =>
    have hfirst := (expire_attempted hsound now id).chronicle
    have hrest := ih (sound_expire hsound now id)
    rw [attempts]
    dsimp only
    rw [hrest, hfirst, List.countP_cons]
    split
    · rw [Coordination.sent_announce, List.replicate_succ, List.append_assoc]
      rfl
    · rfl

/-- Every monitor counts each of these notices. -/
private theorem count_attempts : (o.attempts id times).2.chronicle.tally.count .timedOut =
    o.chronicle.tally.count .timedOut +
      (o.attempts id times).1.countP Outcome.isFound * o.audience.leaves.count .monitor := by
  induction times generalizing o with
  | nil => simp [attempts]
  | cons now times ih =>
    have hfirst := (expire_attempted hsound now id).chronicle
    have hrest := ih (sound_expire hsound now id)
    rw [attempts]
    dsimp only
    rw [hrest, hfirst, audience_expire, List.countP_cons]
    split
    · have hkind : Announcement.kind? (Notice.timedOut id : Notice S) = some EventKind.timedOut := rfl
      rw [count_announce, if_pos hkind, Nat.add_mul, Nat.one_mul, Nat.add_assoc,
        Nat.add_comm (o.audience.leaves.count _)]
    · rfl

/-- Once the process has ended, no attempt finds it running. -/
private theorem countP_attempts_ended (hended : Ended id o) : (o.attempts id times).1.countP Outcome.isFound = 0 := by
  induction times generalizing o with
  | nil => rfl
  | cons now times ih =>
    obtain ⟨hfirst, hended⟩ := (expire_attempted hsound now id).ended hended
    have hrest := ih (sound_expire hsound now id) hended
    rw [attempts]
    dsimp only
    rw [List.countP_cons, hrest, hfirst]
    rfl

private theorem countP_isExpired_attempts : (o.attempts id times).1.countP Outcome.isExpired ≤ 1 := by
  induction times generalizing o with
  | nil => exact Nat.zero_le 1
  | cons now times ih =>
    have hsound' := sound_expire hsound now id
    have hrest := ih hsound'
    rw [attempts]
    dsimp only
    rw [List.countP_cons]
    split
    · rename_i hexpired
      have hended := (expire_attempted hsound now id).ended_of_expired hexpired
      have hnone := countP_attempts_ended hsound' id times hended
      rw [Outcome.countP_isFound] at hnone
      omega
    · exact hrest

end

/-- **An expiry is atomic with its notice, unless the save fails.** Let any calls of the store fail. An attempt to
expire a process has one of four outcomes. If it answers a record, then the stored record was running, it is replaced by
this one, which is timed out, and the notice was sent once. If it answers none, or if the load fails, nothing is stored
and nothing is sent. If the save fails, nothing is stored, but the notice was sent. So if attempts are repeated, the
notice is sent, and counted by every monitor, once for the attempt that succeeds, if there is one, and once for each
attempt whose save failed. -/
theorem expire_attempts {o : Office S} (hsound : o.store.inner.Sound) (id : ProcessId) (times : List Millis) :
    let tried := o.attempts id times
    let expired := tried.1.countP Outcome.isExpired
    let unsaved := tried.1.countP Outcome.isUnsaved
    (∀ now, Attempted now id o (o.expire now id) (o.outcome now id)) ∧
      tried.2.chronicle.sent = o.chronicle.sent ++ List.replicate (unsaved + expired) (.timedOut id) ∧
      tried.2.chronicle.tally.count .timedOut =
        o.chronicle.tally.count .timedOut + (unsaved + expired) * o.audience.leaves.count .monitor ∧
      expired ≤ 1 := by
  intro tried expired unsaved
  have hfound : tried.1.countP Outcome.isFound = unsaved + expired := Outcome.countP_isFound tried.1
  rw [← hfound]
  exact ⟨fun now => expire_attempted hsound now id, sent_attempts hsound id times, count_attempts hsound id times,
    countP_isExpired_attempts hsound id times⟩

/-! ### A ticket -/

/-- A ticket office with one ticket, where the first save fails. -/
def ticketOffice : Office Nat where
  design := ⟨"ticket", 0, .ofRules [], none⟩
  audience := .one .monitor
  store := ⟨⟨[(⟨"t"⟩, ⟨⟨"t"⟩, "ticket", .running, 0, 0, 0, none, none, none⟩)], [], false⟩,
    fun call n => if call = .save ∧ n = 1 then some "disk full" else none, 0⟩
  issued := 0
  chronicle := .empty

theorem expire_attempts_ticket :
    ticketOffice.store.inner.Sound ∧
      (ticketOffice.attempts ⟨"t"⟩ [100, 200, 300]).1.countP Outcome.isUnsaved = 1 ∧
      (ticketOffice.attempts ⟨"t"⟩ [100, 200, 300]).1.countP Outcome.isExpired = 1 ∧
      (ticketOffice.attempts ⟨"t"⟩ [100, 200, 300]).2.chronicle.sent = [.timedOut ⟨"t"⟩, .timedOut ⟨"t"⟩] := by
  have hsound : ticketOffice.store.inner.Sound := ⟨by decide, by decide⟩
  obtain ⟨-, hsent, -, -⟩ := expire_attempts hsound ⟨"t"⟩ [100, 200, 300]
  exact ⟨hsound, rfl, rfl, hsent⟩

/-- The save of the timed out ticket fails. It stays as it was, but its ending has been announced, and the attempt that
succeeds then counts it a second time. -/
theorem expire_unsaved :
    let failed := ticketOffice.expire 100 ⟨"t"⟩
    let retried := failed.2.expire 200 ⟨"t"⟩
    failed.1 = .error (.storage (.refused "disk full")) ∧
      failed.2.stored ⟨"t"⟩ = ticketOffice.stored ⟨"t"⟩ ∧
      ticketOffice.chronicle.sent = [] ∧ failed.2.chronicle.sent = [.timedOut ⟨"t"⟩] ∧
      (retried.2.stored ⟨"t"⟩).map Record.status = some .timedOut ∧
      retried.2.chronicle.tally.count .timedOut = 2 :=
  ⟨rfl, rfl, rfl, rfl, rfl, rfl⟩

end Office

end Coordination.Workflow
