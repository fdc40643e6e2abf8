import Coordination.Proofs.Alarm.Surroundings
import Coordination.Proofs.Workflow.Recovery
import Coordination.Proofs.Workflow.Treatment

/-!
# The permanence of endings

The store accepts any record in the place of any other. That a process stays ended is due to the paths that lead to a
save: each loads the record first and passes over one that has ended, or saves it as it is. `Command` are the ways in
which a watch is used, with calls of the store that fail at any point; whatever is done, a record that has ended stays,
and a treatment that fails leaves the shelf as it was (`Watch.ended_stays`).

The invariant is `Office.Holds`: the shelf is sound, and given ended records are on it.
-/

namespace Coordination.Workflow

variable {S : Type}

namespace Office

/-- An expiry either leaves the shelf as it was, or saves the record that the stored one becomes when it is ended. -/
theorem expire_written [ToString S] (now : Millis) (id : ProcessId) (o : Office S) :
    (o.expire now id).2.store.inner = o.store.inner ∨
      ∃ r next, o.stored id = some r ∧ r.finish .timedOut now = .ok next ∧
        o.store.inner.save next = .ok (o.expire now id).2.store.inner := by
  have hload : ∀ r, (o.load id).1 = .ok (some r) → o.stored id = some r := fun _ => load_some
  have hinner := o.inner_load id
  unfold expire
  generalize o.load id = loaded at hload hinner
  obtain ⟨_ | _ | r, o₁⟩ := loaded
  · exact Or.inl hinner
  · exact Or.inl hinner
  dsimp only
  split
  · have hstore := store_finish .timedOut r o₁ now
    have hfinish : ∀ next, (o₁.finish now .timedOut r).1 = .ok next → r.finish .timedOut now = .ok next := by
      intro next h
      unfold finish at h
      split at h
      · cases h
      · rename_i heq
        exact heq.trans h
    generalize o₁.finish now .timedOut r = finished at hfinish hstore
    obtain ⟨_ | next, o₂⟩ := finished
    · exact Or.inl ((congrArg Guarded.inner hstore).trans hinner)
    have hinner₂ : o₂.store.inner = o.store.inner := (congrArg Guarded.inner hstore).trans hinner
    have hsave := o₂.save_written next
    dsimp only
    generalize o₂.save next = saved at hsave
    obtain ⟨_ | _, o₃⟩ := saved
    · rcases hsave with ⟨fault, -, hinner₃⟩ | ⟨h, -⟩
      · exact Or.inl (hinner₃.trans hinner₂)
      · cases h
    · rcases hsave with ⟨fault, h, -⟩ | ⟨-, hwrite⟩
      · cases h
      · exact Or.inr ⟨r, next, hload r rfl, hfinish next rfl, hinner₂ ▸ hwrite⟩
  · exact Or.inl hinner

/-- An expiry either leaves the shelf as it was, or files one record, in the place of a running one. -/
theorem expire_cases [ToString S] (now : Millis) (id : ProcessId) (o : Office S) :
    (o.expire now id).2.store.inner = o.store.inner ∨
      ∃ r next, o.stored id = some r ∧ next.Follows r ∧
        (o.store.inner.Sound → (o.expire now id).2.store.inner.Sound) ∧
        ∀ i, (o.expire now id).2.stored i = if i = next.id then some next else o.stored i := by
  rcases o.expire_written now id with hinner | ⟨r, next, hr, hfinish, hwrite⟩
  · exact Or.inl hinner
  · obtain ⟨hrunning, hnext⟩ := Record.finish_ok hfinish
    obtain ⟨hsound, -, hstored⟩ := Shelf.save_ok hwrite
    exact Or.inr ⟨r, next, hr, .of_running (by rw [hnext]) (by rw [hnext]) hrunning, hsound, hstored⟩

/-- What an alarm does to the shelf is the expiry. -/
theorem inner_expireOnAlarm [ToString S] (e : Expiry) (now : Millis) (o : Office S) :
    (o.expireOnAlarm e now).store.inner = (o.expire now e.id).2.store.inner := by
  unfold expireOnAlarm
  split <;> rename_i heq <;> rw [heq] <;> rfl

/-- A save that breaks off poisons the shelf, and changes no record. -/
theorem inner_breakOff (o : Office S) : o.breakOff.2.store.inner = o.store.inner ∨
    o.breakOff.2.store.inner = { o.store.inner with poisoned := true } := by
  rcases o.store.change_cases .save Shelf.breakOff with ⟨fault, -, hinner⟩ | ⟨-, hwrite⟩
  · exact Or.inl hinner
  · right
    unfold Shelf.breakOff at hwrite
    split at hwrite
    · cases hwrite
    · exact (Except.ok.inj hwrite).symm

/-- The shelf is sound, and the records `kept`, which have ended, are on it. -/
structure Holds (kept : Record S → Prop) (o : Office S) : Prop where
  sound : o.store.inner.Sound
  stored : ∀ r, kept r → r.isTerminal = true ∧ o.stored r.id = some r

namespace Holds

variable {kept : Record S → Prop} {o o' : Office S}

private theorem of_inner (h : o.Holds kept) (hinner : o'.store.inner = o.store.inner) : o'.Holds kept where
  sound := hinner ▸ h.sound
  stored := by
    unfold Office.stored
    rw [hinner]
    exact h.stored

/-- A record may be filed if it takes no ended record's place, unless it is the same. -/
private theorem file (h : o.Holds kept) {next : Record S} (hsound : o'.store.inner.Sound)
    (hnext : ∀ r, o.stored next.id = some r → next.Follows r)
    (hstored : ∀ id, o'.stored id = if id = next.id then some next else o.stored id) : o'.Holds kept where
  sound := hsound
  stored := by
    intro r hr
    obtain ⟨hended, hr⟩ := h.stored r hr
    refine ⟨hended, ?_⟩
    rw [hstored]
    split
    · rename_i hid
      rw [(hnext r (hid ▸ hr)).ended hended]
    · exact hr

private theorem breakOff (h : o.Holds kept) : o.breakOff.2.Holds kept := by
  rcases o.inner_breakOff with hinner | hinner
  · exact h.of_inner hinner
  · refine ⟨?_, ?_⟩
    · rw [hinner]
      exact ⟨h.sound.keys, h.sound.filed⟩
    · unfold Office.stored
      rw [hinner]
      exact h.stored

variable [ToString S]

private theorem expire (h : o.Holds kept) (now : Millis) (id : ProcessId) : (o.expire now id).2.Holds kept := by
  rcases o.expire_cases now id with hinner | ⟨r, next, hr, hfollows, hsound, hstored⟩
  · exact h.of_inner hinner
  · refine h.file (hsound h.sound) ?_ hstored
    intro r' hr'
    have hid : next.id = id := hfollows.id.trans (h.sound.id_eq hr)
    rw [hid, hr, Option.some.injEq] at hr'
    exact hr' ▸ hfollows

private theorem handle [DecidableEq S] (h : o.Holds kept) (now : Millis) (e : Event S)
    (hfresh : ∀ id, o.begun? e = some id → o.stored id = none) : (o.handle now e).2.Holds kept := by
  rcases o.handle_cases now e with ⟨fault, -, hinner⟩ | ⟨next, -, hsound, hstored⟩
  · exact h.of_inner hinner
  · obtain ⟨hsound, horigin⟩ := hsound h.sound
    refine h.file hsound ?_ hstored
    intro r hr
    rcases horigin with hbegun | ⟨r', hr', hfollows⟩
    · rw [hfresh _ hbegun] at hr
      cases hr
    · rw [hr', Option.some.injEq] at hr
      exact hr ▸ hfollows

end Holds

end Office

/-! ### Runs of a watch -/

/-- What is done to a watch. -/
inductive Command (S : Type) where
  | handle (e : Event S)
  | expire (id : ProcessId)
  /-- Arms the alarm of a process. -/
  | guard (r : Record S)
  | recover
  /-- Uses the agenda: sweeps, arms, disarms, or moves the clock. -/
  | call (c : Alarm.Call Expiry)
  /-- From now on, these calls of the store fail. -/
  | fail (plan : FaultPlan)
  /-- A save breaks off and poisons the store. -/
  | breakOff

section

variable [ToString S] [DecidableEq S] (s : Alarm.Setting Expiry (Office S))

def Command.carryOut : Command S → Watch S → Watch S
  | .handle e, w => { w with outside := (w.outside.handle w.clock e).2 }
  | .expire id, w => { w with outside := (w.outside.expire w.clock id).2 }
  | .guard r, w => (Watch.guard r w).2
  | .recover, w => w.recover.2
  | .call c, w => (c.perform s w).2
  | .fail plan, w => { w with outside := { w.outside with store := { w.outside.store with plan := plan } } }
  | .breakOff, w => { w with outside := w.outside.breakOff.2 }

namespace Watch

/-- Carries out commands one after the other. -/
def carryOut (commands : List (Command S)) (w : Watch S) : Watch S := commands.foldl (fun w c => c.carryOut s w) w

/-- No event begins a process under the identifier of a stored one. -/
def BeginsAnew : List (Command S) → Watch S → Prop
  | [], _ => True
  | c :: commands, w =>
    (∀ e id, c = .handle e → w.outside.begun? e = some id → w.outside.stored id = none) ∧
      BeginsAnew commands (c.carryOut s w)

private theorem beginsAnew_append (earlier later : List (Command S)) (w : Watch S) :
    BeginsAnew s (earlier ++ later) w ↔ BeginsAnew s earlier w ∧ BeginsAnew s later (w.carryOut s earlier) := by
  induction earlier generalizing w with
  | nil => simp [BeginsAnew, carryOut]
  | cons c earlier ih =>
    rw [List.cons_append, BeginsAnew, BeginsAnew, ih, and_assoc]
    rfl

variable {s} (hs : s.act = Office.expireOnAlarm)

include hs

/-- A command keeps what expiries, broken saves and its own treatment keep, if nothing but the shelf counts. -/
theorem keeps_carryOut {P : Office S → Prop} (hinner : ∀ o o' : Office S, o'.store.inner = o.store.inner → P o → P o')
    (hexpire : ∀ now id (o : Office S), P o → P (o.expire now id).2)
    (hbreakOff : ∀ o : Office S, P o → P o.breakOff.2) (c : Command S) {w : Watch S} (h : P w.outside)
    (hhandle : ∀ e, c = .handle e → P (w.outside.handle w.clock e).2) : P (c.carryOut s w).outside := by
  cases c with
  | handle e => exact hhandle e rfl
  | expire id => exact hexpire w.clock id w.outside h
  | guard r =>
    show P (Watch.guard r w).2.outside
    rw [(guard_surroundings r w).1]
    exact h
  | recover =>
    show P w.recover.2.outside
    have hfound := w.outside.inner_findByStatus .running
    unfold Watch.recover
    generalize w.outside.findByStatus .running = found at hfound
    obtain ⟨_ | running, o⟩ := found
    · exact hinner _ _ hfound h
    · refine hinner _ _ ?_ h
      show (Watch.guardAll running { w with outside := o }).2.outside.store.inner = _
      rw [(guardAll_surroundings running _).1]
      exact hfound
  | call c =>
    have hkeeps : s.Keeps P := by
      intro e now o ho
      rw [hs]
      exact hinner _ _ (o.inner_expireOnAlarm e now) (hexpire now e.id o ho)
    exact hkeeps.perform c w h
  | fail plan => exact hinner w.outside _ rfl h
  | breakOff => exact hbreakOff w.outside h

variable {kept : Record S → Prop}

/-- One command keeps the records that have ended. -/
private theorem holds_carryOut_one (c : Command S) {w : Watch S} (h : w.outside.Holds kept)
    (hfresh : ∀ e id, c = .handle e → w.outside.begun? e = some id → w.outside.stored id = none) :
    (c.carryOut s w).outside.Holds kept := by
  have hinner : ∀ o o' : Office S, o'.store.inner = o.store.inner → o.Holds kept → o'.Holds kept :=
    fun _ _ hsame ho => ho.of_inner hsame
  refine keeps_carryOut hs hinner (fun now id _ ho => ho.expire now id) (fun _ ho => ho.breakOff) c h ?_
  exact fun e he => h.handle w.clock e fun id => hfresh e id he

private theorem holds_carryOut (commands : List (Command S)) {w : Watch S} (h : w.outside.Holds kept)
    (hfresh : BeginsAnew s commands w) : (w.carryOut s commands).outside.Holds kept := by
  induction commands generalizing w with
  | nil => exact h
  | cons c commands ih => exact ih (holds_carryOut_one hs c h hfresh.1) hfresh.2

/-- **Endings are permanent.** Let a watch with an empty store be used in any way, with calls of the store that fail at
any point, but never begin a process under the identifier of a stored one. A record that has ended is never replaced
by another one. And a treatment of an event that fails, at whatever point, leaves the shelf, that is every record and
every lookup, as it was. -/
theorem ended_stays {w : Watch S} (hempty : w.outside.store.inner = .empty) (earlier later : List (Command S))
    (hfresh : BeginsAnew s (earlier ++ later) w) :
    let before := w.carryOut s earlier
    let after := before.carryOut s later
    (∀ id r, before.outside.stored id = some r → r.isTerminal = true → after.outside.stored id = some r) ∧
      ∀ now e fault, (before.outside.handle now e).1 = .error fault →
        (before.outside.handle now e).2.store.inner = before.outside.store.inner := by
  intro before after
  obtain ⟨hearlier, hlater⟩ := (beginsAnew_append s earlier later w).1 hfresh
  have hopened : w.outside.Holds fun _ => False := ⟨hempty ▸ Shelf.Sound.empty, fun _ h => h.elim⟩
  have hsound := (holds_carryOut hs earlier hopened hearlier).sound
  refine ⟨?_, ?_⟩
  · intro id r hr hended
    obtain rfl : r.id = id := hsound.id_eq hr
    have hbefore : before.outside.Holds (· = r) := ⟨hsound, fun r' h => h ▸ ⟨hended, hr⟩⟩
    exact ((holds_carryOut hs later hbefore hlater).stored r rfl).2
  · intro now e fault hfault
    rcases before.outside.handle_cases now e with ⟨-, -, hinner⟩ | ⟨next, hnext, -⟩
    · exact hinner
    · rw [hfault] at hnext
      cases hnext

end Watch

end

namespace Watch

/-- A shop at the time 5, where orders may take ten milliseconds. -/
def shop : Watch Nat := .opened 5 (.opened ⟨"order", 0, .ofRules [⟨0, 1⟩], some (.ofMillis 10)⟩ .nobody)

/-- An event for the order of a cart. -/
def cart (target : Option Nat) (ending : Option Ending) : Command Nat :=
  .handle ⟨"cart", none, true, none, target, ending⟩

/-- What comes after the end of the order: an event that would move it, an alarm armed too late, an event that would end
it again, and faults of the store. -/
def belated : List (Command Nat) :=
  [cart (some 1) none, .guard ⟨.nth 1, "order", .running, 0, 5, 5, some "cart", some 15, none⟩,
    .fail (.failing [.save] "full"), cart none (some .timedOut), .call (.sweep 20), .recover, .breakOff]

theorem ended_stays_cart :
    BeginsAnew Watch.setting ([cart (some 1) (some .completed)] ++ belated) shop ∧
      ((shop.carryOut Watch.setting [cart (some 1) (some .completed)]).carryOut Watch.setting belated).outside.stored
        (.nth 1) = some ⟨.nth 1, "order", .completed, 1, 5, 5, some "cart", some 15, none⟩ := by
  have hfresh : BeginsAnew Watch.setting ([cart (some 1) (some .completed)] ++ belated) shop := by
    refine ⟨?_, ?_, ?_, ?_, ?_, ?_, ?_, ?_, trivial⟩
    · rintro e id h hbegun
      cases h
      rfl
    all_goals
      rintro e id h hbegun
      cases h
    · cases hbegun
    · cases hbegun
  exact ⟨hfresh, (ended_stays (s := Watch.setting) rfl rfl _ _ hfresh).1 _ _ (by decide +kernel) rfl⟩

end Watch

end Coordination.Workflow
