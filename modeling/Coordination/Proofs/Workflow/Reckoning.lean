import Coordination.Proofs.Workflow.Course

/-!
# The reckoning of the monitor

An office does not keep the records that it makes; whoever was given the record of a process goes on with it. A
`Practice` is an office together with a table of the newest record of every process, and processes are driven on one
line if every operation is applied to the newest record of its process (`Practice.Linear`). Then what a monitor has
counted and logged can be reckoned from the table (`Practice.Reckoned`): every process was started once, and has one
more entry in the log just if its newest record has ended.

Whatever is done in an office comes down to acts of three kinds (`Office.perform_acts`): a process is begun, an
operation is applied to a record, or the store is called. So the reckoning is right at any moment, also in the middle of
the treatment of an event (`Practice.reckoning`). -/

namespace Coordination.Workflow

variable {S : Type}

/-- The event by which a monitor hears of the end of a process. -/
def Status.ending? : Status → Option EventKind
  | .running => none
  | .completed => some .completed
  | .failed => some .failed
  | .timedOut => some .timedOut

/-- What there is to log of a process with this record: that it was started, and how it ended, if it has. -/
def Record.account (r : Record S) : List (EventKind × Option String) :=
  (.started, none) :: r.status.ending?.toList.map fun kind => (kind, r.error)

private theorem Record.account_of_running {r : Record S} (h : r.isTerminal = false) :
    r.account = [(.started, none)] := by
  unfold isTerminal at h
  rw [account]
  cases hstatus : r.status with
  | running => rfl
  | completed | failed | timedOut =>
    rw [hstatus] at h
    cases h

/-- How many entries of an account are of a kind. -/
def entries (account : List (EventKind × Option String)) (kind : EventKind) : Nat :=
  account.countP fun entry => entry.1 = kind

private theorem entries_append (account account' : List (EventKind × Option String)) (kind : EventKind) :
    entries (account ++ account') kind = entries account kind + entries account' kind :=
  List.countP_append

/-- By its account, a process that was started is running or has ended. -/
private theorem Record.entries_account (r : Record S) :
    entries r.account .started = (if r.isRunning then 1 else 0) +
      entries r.account .completed + entries r.account .failed + entries r.account .timedOut := by
  obtain ⟨_, _, status, _⟩ := r
  cases status <;> rfl

private theorem entries_accounts (records : List (Record S)) :
    let all := records.flatMap Record.account
    entries all .started =
      records.countP Record.isRunning + entries all .completed + entries all .failed + entries all .timedOut := by
  induction records with
  | nil => rfl
  | cons r records ih =>
    have hfirst := r.entries_account
    simp only [List.flatMap_cons, entries_append, List.countP_cons] at ih ⊢
    omega

/-- What an entry of the log says of its process. -/
def detail (e : EventRecord .process EventKind) : EventKind × Option String := (e.kind, e.error)

inductive Act (S : Type) where
  | begin (id : Option ProcessId) (key : Option String)
  | apply (op : Operation S) (r : Record S)
  /-- The store is called, to read or to write. -/
  | visit (change : Guarded (Shelf S) → Guarded (Shelf S))

namespace Act

/-- The record of a process is looked up. -/
def load (id : ProcessId) : Act S := .visit fun g => (g.ask .findById (Shelf.findById id)).2

def findByCorrelation (key : String) : Act S :=
  .visit fun g => (g.ask .findByCorrelation (Shelf.findByCorrelation key)).2

def save (r : Record S) : Act S := .visit fun g => (g.change .save (Shelf.save r)).2

end Act

/-- Everything that can be done in an office. The workflow treats its events as it likes. -/
inductive Deed (S : Type) where
  | act (a : Act S)
  | expire (id : ProcessId)
  | treat (t : Treatment S)

structure Practice (S : Type) where
  office : Office S
  /-- The record of every process that was made last. -/
  newest : Table ProcessId (Record S)

def Practice.opened (design : Design S) (audience : Audience Listener) : Practice S := ⟨.opened design audience, []⟩

/-! ### What a monitor hears -/

/-- From `o` to `o'`, a monitor that is the only one has heard of these events. -/
structure Office.Hears (events : List (EventRecord .process EventKind)) (o o' : Office S) : Prop where
  audience : o'.audience = o.audience
  count : ∀ kind, o'.chronicle.tally.count kind =
    o.chronicle.tally.count kind + entries (events.map detail) kind
  log : o'.chronicle.tally.log = o.chronicle.tally.log ++ events

namespace Office

private theorem Hears.nothing {o o' : Office S} (haudience : o'.audience = o.audience)
    (hchronicle : o'.chronicle = o.chronicle) :
    Hears [] o o' where
  audience := haudience
  count := fun kind => by rw [hchronicle]; rfl
  log := by rw [hchronicle, List.append_nil]

end Office

namespace Practice

/-- What a monitor that is the only one has counted and logged is what the newest records of all processes make of
it. -/
structure Reckoned (p : Practice S) : Prop where
  keys : p.newest.keys.Nodup
  monitor : p.office.audience.leaves.count .monitor = 1
  count : ∀ kind, p.office.chronicle.tally.count kind = entries (p.newest.values.flatMap Record.account) kind
  log : ∀ id, (p.office.chronicle.tally.log.filter fun e => e.subject = id).map detail =
    (p.newest.find? id).toList.flatMap Record.account

namespace Reckoned

variable {p : Practice S}

private theorem opened (design : Design S) {audience : Audience Listener}
    (hmonitor : audience.leaves.count .monitor = 1) :
    (Practice.opened design audience).Reckoned where
  keys := List.nodup_nil
  monitor := hmonitor
  count := fun _ => rfl
  log := fun _ => rfl

/-- Nothing was heard, and no record was made. -/
private theorem stay (h : p.Reckoned) {o : Office S} (hears : p.office.Hears [] o) :
    (⟨o, p.newest⟩ : Practice S).Reckoned where
  keys := h.keys
  monitor := hears.audience ▸ h.monitor
  count := fun kind => (hears.count kind).trans (h.count kind)
  log := fun id => by
    rw [hears.log, List.append_nil]
    exact h.log id

/-- A record was made, and what there is to add to the log for its process was heard. -/
private theorem goOn (h : p.Reckoned) {o : Office S} {next : Record S} {events : List (EventRecord .process EventKind)}
    (hears : p.office.Hears events o) (hsubject : ∀ e ∈ events, e.subject = next.id)
    (haccount : next.account = (p.newest.find? next.id).toList.flatMap Record.account ++ events.map detail) :
    (⟨o, p.newest.insert next.id next⟩ : Practice S).Reckoned where
  keys := Table.nodup_keys_insert h.keys
  monitor := hears.audience ▸ h.monitor
  count := fun kind => by
    have hbefore : entries (p.newest.values.flatMap Record.account) kind = entries _ kind :=
      ((Table.values_perm next.id h.keys).flatMap_right Record.account).countP_eq _
    have hvalues : (p.newest.insert next.id next).values = (p.newest.erase next.id).values ++ [next] :=
      List.map_append
    rw [hears.count, h.count, hbefore, hvalues]
    simp only [List.flatMap_append, entries_append, List.flatMap_singleton, haccount]
    omega
  log := fun id => by
    rw [hears.log, List.filter_append, List.map_append, h.log, Table.find?_insert]
    by_cases hid : id = next.id
    · have hall : events.filter (fun e => e.subject = id) = events :=
        List.filter_eq_self.2 fun e he => decide_eq_true ((hsubject e he).trans hid.symm)
      rw [if_pos hid, hall, hid, ← haccount]
      exact (List.append_nil _).symm
    · have hnone : events.filter (fun e => e.subject = id) = [] :=
        List.filter_eq_nil_iff.2 fun e he => by simpa [hsubject e he] using fun heq => hid heq.symm
      rw [if_neg hid, hnone]
      exact List.append_nil _

end Reckoned

end Practice

section

variable [ToString S]

namespace Office

private theorem announce_hears {o : Office S} (hmonitor : o.audience.leaves.count .monitor = 1) (now : Millis)
    (n : Notice S) :
    Hears (Announcement.events now n) o (o.announce now n) where
  audience := rfl
  count := fun kind => by
    refine (count_announce o.audience now n o.chronicle kind).trans ?_
    rw [hmonitor, entries, List.countP_map]
    exact congrArg _ (Announcement.countP_events now n kind).symm
  log := by
    refine (log_announce o.audience now n o.chronicle).trans ?_
    rw [hmonitor, List.replicate_one, List.flatten_singleton]

/-- The beginning of a process is heard. -/
private theorem start_hears {o : Office S} (hmonitor : o.audience.leaves.count .monitor = 1) (now : Millis)
    (id : Option ProcessId) (key : Option String) :
    o.Hears (Announcement.events now (.started (o.identify id).1 o.design.name : Notice S)) (o.start now id key).2 := by
  have hears := announce_hears (o := (o.identify id).2) (by cases id <;> exact hmonitor) now
    (.started (o.identify id).1 o.design.name)
  cases id <;> exact ⟨hears.audience, hears.count, hears.log⟩

end Office

private theorem subject_events_endNotice (now : Millis) (id : ProcessId) (ending : Ending) :
    ∀ e ∈ Announcement.events now (Office.endNotice id ending : Notice S), e.subject = id := by
  cases ending <;> exact List.forall_mem_singleton.2 rfl

variable [DecidableEq S]

/-- An operation that succeeds adds to the log what there is to add for its process. -/
private theorem Operation.carryOut_hears {o : Office S} (hmonitor : o.audience.leaves.count .monitor = 1) (now : Millis)
    (r : Record S) (op : Operation S) :
    (∃ fault, op.carryOut now r o = (.error fault, o)) ∨
      ∃ next o' events, op.carryOut now r o = (.ok next, o') ∧ next.id = r.id ∧ o.Hears events o' ∧
        (∀ e ∈ events, e.subject = r.id) ∧ next.account = r.account ++ events.map detail := by
  cases op with
  | move target =>
    cases hmove : r.move o.design.chart now target with
    | error fault => exact .inl ⟨fault, by simp only [carryOut, Office.move, hmove]⟩
    | ok next =>
      obtain ⟨-, -, hnext⟩ := Record.move_ok hmove
      have haccount : next.account = r.account ++ [].map detail := by
        rw [hnext]
        exact (List.append_nil _).symm
      exact .inr ⟨next, o.announce now (.moved r.id r.state target), [],
        by simp only [carryOut, Office.move, hmove], by rw [hnext],
        Office.announce_hears hmonitor now (.moved r.id r.state target), List.forall_mem_nil _, haccount⟩
  | finish ending =>
    cases hfinish : r.finish ending now with
    | error fault => exact .inl ⟨fault, by simp only [carryOut, Office.finish, hfinish]⟩
    | ok next =>
      obtain ⟨hrunning, hnext⟩ := Record.finish_ok hfinish
      have hid : next.id = r.id := by rw [hnext]
      refine .inr ⟨next, o.announce now (Office.endNotice next.id ending), _,
        by simp only [carryOut, Office.finish, hfinish], hid,
        Office.announce_hears hmonitor now (Office.endNotice next.id ending), ?_, ?_⟩
      · rw [hid]
        exact subject_events_endNotice now r.id ending
      · rw [hnext, r.account_of_running hrunning]
        cases ending <;> rfl
  | postpone deadline =>
    exact .inr ⟨r.postpone deadline now, o, [], rfl, rfl, .nothing rfl rfl, List.forall_mem_nil _,
      (List.append_nil _).symm⟩

/-! ### What is done in an office comes down to acts -/

/-- An act, and the record that it makes, if any. -/
def Act.carryOut (now : Millis) : Act S → Office S → Option (Record S) × Office S
  | .begin id key, o =>
    let (r, o) := o.start now id key
    (some r, o)
  | .apply op r, o =>
    match op.carryOut now r o with
    | (.error _, o) => (none, o)
    | (.ok next, o) => (some next, o)
  | .visit change, o => (none, { o with store := change o.store })

def Deed.carryOut (now : Millis) : Deed S → Office S → Office S
  | .act a, o => (a.carryOut now o).2
  | .expire id, o => (o.expire now id).2
  | .treat t, o => (o.treat now t).2

/-- The acts by which a record undergoes a course. -/
def Course.acts (now : Millis) : Course S → Record S → Office S → List (Millis × Act S)
  | .save, r, _ => [(now, .save r)]
  | .refuse _, _, _ => []
  | .apply op next, r, o => (now, .apply op r) ::
    match op.carryOut now r o with
    | (.error fault, o) => (next (.error fault)).acts now r o
    | (.ok r', o) => (next (.ok r')).acts now r' o

/-- The acts of a deed. -/
def Deed.acts (now : Millis) : Deed S → Office S → List (Millis × Act S)
  | .act a, _ => [(now, a)]
  | .expire id, o => (now, .load id) ::
    match o.load id with
    | (.ok (some r), o) => if r.isRunning then (Course.inTurn [.finish .timedOut]).acts now r o else []
    | _ => []
  | .treat t, o =>
    match t.raises with
    | some _ => []
    | none => (now, .findByCorrelation t.key) ::
      match o.findByCorrelation t.key with
      | (.error _, _) => []
      | (.ok (some r), o) => (t.course r).acts now r o
      | (.ok none, o) =>
        match t.unknown with
        | .error _ => []
        | .ok id =>
          let (r, o) := o.start now id (some t.key)
          (now, .begin id (some t.key)) :: (t.course r).acts now r o

namespace Office

def perform (acts : List (Millis × Act S)) (o : Office S) : Office S := acts.foldl (fun o a => (a.2.carryOut a.1 o).2) o

def carryOut (deeds : List (Millis × Deed S)) (o : Office S) : Office S := deeds.foldl (fun o d => d.2.carryOut d.1 o) o

/-- The acts of deeds that are done one after the other. -/
def acts : List (Millis × Deed S) → Office S → List (Millis × Act S)
  | [], _ => []
  | (now, d) :: deeds, o => d.acts now o ++ acts deeds (d.carryOut now o)

private theorem perform_append (earlier later : List (Millis × Act S)) (o : Office S) :
    o.perform (earlier ++ later) = (o.perform earlier).perform later :=
  List.foldl_append

private theorem perform_course (now : Millis) (c : Course S) (r : Record S) (o : Office S) :
    o.perform (c.acts now r o) = (o.undergo now c r).2 := by
  induction c generalizing r o with
  | save =>
    have hsave : o.perform [(now, .save r)] = (o.save r).2 := rfl
    rw [Course.acts, hsave, undergo, Course.run]
    dsimp only
    generalize o.save r = saved
    obtain ⟨_ | _, _⟩ := saved <;> rfl
  | refuse fault => rfl
  | apply op next ih =>
    have hfirst : ∀ acts, o.perform ((now, .apply op r) :: acts) = (op.carryOut now r o).2.perform acts := by
      intro acts
      show (Act.carryOut now (.apply op r) o).2.perform acts = _
      rw [Act.carryOut]
      obtain ⟨_ | _, _⟩ := op.carryOut now r o <;> rfl
    rw [Course.acts, hfirst, undergo, Course.run]
    obtain ⟨_ | r', o'⟩ := op.carryOut now r o
    · exact ih _ r o'
    · exact ih _ r' o'

private theorem perform_expire (now : Millis) (id : ProcessId) (o : Office S) :
    o.perform (Deed.acts now (.expire id) o) = (o.expire now id).2 := by
  have hload : ∀ acts, o.perform ((now, .load id) :: acts) = (o.load id).2.perform acts := fun _ => rfl
  rw [Deed.acts, hload, expire]
  obtain ⟨_ | _ | r, o'⟩ := o.load id
  · rfl
  · rfl
  dsimp only
  split
  · rw [perform_course, undergo, Course.run_inTurn_cons, Operation.carryOut]
    obtain ⟨_ | next, o''⟩ := o'.finish now .timedOut r
    · rfl
    · dsimp only [Course.inTurn, Course.run]
      generalize o''.save next = saved
      obtain ⟨_ | _, _⟩ := saved <;> rfl
  · rfl

private theorem perform_treat (now : Millis) (t : Treatment S) (o : Office S) :
    o.perform (Deed.acts now (.treat t) o) = (o.treat now t).2 := by
  have hfind : ∀ acts, o.perform ((now, .findByCorrelation t.key) :: acts) =
      (o.findByCorrelation t.key).2.perform acts := fun _ => rfl
  rw [Deed.acts, treat]
  cases t.raises with
  | some fault => rfl
  | none =>
    dsimp only
    rw [hfind, recipient]
    obtain ⟨_ | _ | r, o'⟩ := o.findByCorrelation t.key
    · rfl
    · cases t.unknown with
      | error fault => rfl
      | ok id =>
        have hbegin : ∀ acts, o'.perform ((now, .begin id (some t.key)) :: acts) =
            (o'.start now id (some t.key)).2.perform acts := fun _ => rfl
        dsimp only
        rw [hbegin]
        exact perform_course ..
    · exact perform_course ..

/-- Whatever is done in an office, its acts do it. -/
theorem perform_acts (deeds : List (Millis × Deed S)) (o : Office S) :
    o.perform (o.acts deeds) = o.carryOut deeds := by
  induction deeds generalizing o with
  | nil => rfl
  | cons d deeds ih =>
    obtain ⟨now, d⟩ := d
    have hfirst : o.perform (d.acts now o) = d.carryOut now o := by
      cases d with
      | act a => rfl
      | expire id => exact o.perform_expire now id
      | treat t => exact o.perform_treat now t
    rw [acts, perform_append, hfirst]
    exact ih _

end Office

/-! ### Practices -/

/-- A process is begun under an identifier of its own; an operation is applied to the newest record of its process. -/
def Act.Linear : Act S → Practice S → Prop
  | .begin id _, p => p.newest.find? (p.office.identify id).1 = none
  | .apply _ r, p => p.newest.find? r.id = some r
  | .visit _, _ => True

namespace Practice

def act (now : Millis) (a : Act S) (p : Practice S) : Practice S :=
  match a.carryOut now p.office with
  | (some r, o) => ⟨o, p.newest.insert r.id r⟩
  | (none, o) => ⟨o, p.newest⟩

def perform (acts : List (Millis × Act S)) (p : Practice S) : Practice S := acts.foldl (fun p a => p.act a.1 a.2) p

/-- All processes are driven on one line. -/
def Linear : List (Millis × Act S) → Practice S → Prop
  | [], _ => True
  | (now, a) :: acts, p => a.Linear p ∧ Linear acts (p.act now a)

instance (a : Act S) (p : Practice S) : Decidable (a.Linear p) :=
  match a with
  | .begin _ _ => inferInstanceAs (Decidable (_ = _))
  | .apply _ _ => inferInstanceAs (Decidable (_ = _))
  | .visit _ => inferInstanceAs (Decidable True)

instance instDecidableLinearActs : (acts : List (Millis × Act S)) → (p : Practice S) → Decidable (p.Linear acts)
  | [], _ => inferInstanceAs (Decidable True)
  | (now, a) :: acts, p =>
    have := instDecidableLinearActs acts (p.act now a)
    inferInstanceAs (Decidable (a.Linear p ∧ Linear acts (p.act now a)))

private theorem Linear.earlier {earlier later : List (Millis × Act S)} {p : Practice S}
    (h : p.Linear (earlier ++ later)) :
    p.Linear earlier := by
  induction earlier generalizing p with
  | nil => trivial
  | cons a earlier ih => exact ⟨h.1, ih h.2⟩

private theorem office_act (now : Millis) (a : Act S) (p : Practice S) :
    (p.act now a).office = (a.carryOut now p.office).2 := by
  unfold act
  split <;> rename_i heq <;> rw [heq]

private theorem office_perform (acts : List (Millis × Act S)) (p : Practice S) :
    (p.perform acts).office = p.office.perform acts := by
  induction acts generalizing p with
  | nil => rfl
  | cons a acts ih => exact (ih _).trans (congrArg (Office.perform acts) (p.office_act a.1 a.2))

private theorem act_made {p : Practice S} {a : Act S} {now : Millis} {r : Record S} {o : Office S}
    (h : a.carryOut now p.office = (some r, o)) : p.act now a = ⟨o, p.newest.insert r.id r⟩ := by
  rw [act, h]

private theorem act_idle {p : Practice S} {a : Act S} {now : Millis} {o : Office S}
    (h : a.carryOut now p.office = (none, o)) : p.act now a = ⟨o, p.newest⟩ := by
  rw [act, h]

namespace Reckoned

variable {p : Practice S}

private theorem begin (h : p.Reckoned) (now : Millis) {id : Option ProcessId} {key : Option String}
    (hnew : p.newest.find? (p.office.identify id).1 = none) : (p.act now (.begin id key)).Reckoned := by
  have hstart := p.office.start_fresh now id key
  have hid : (p.office.start now id key).1.id = (p.office.identify id).1 := by rw [hstart]; rfl
  rw [act_made (r := (p.office.start now id key).1) (o := (p.office.start now id key).2) rfl]
  refine h.goOn (Office.start_hears h.monitor now id key) ?_ ?_
  · rw [hid]
    exact List.forall_mem_singleton.2 rfl
  · rw [hid, hnew, hstart]
    rfl

private theorem apply (h : p.Reckoned) (now : Millis) (op : Operation S) {r : Record S}
    (hr : p.newest.find? r.id = some r) :
    (p.act now (.apply op r)).Reckoned := by
  rcases op.carryOut_hears h.monitor now r with
    ⟨fault, hrefused⟩ | ⟨next, o, events, hmade, hid, hears, hsubject, haccount⟩
  · rw [act_idle (o := p.office) (by rw [Act.carryOut, hrefused])]
    exact h
  · rw [act_made (r := next) (o := o) (by rw [Act.carryOut, hmade])]
    refine h.goOn hears (hid ▸ hsubject) ?_
    rw [hid, hr, haccount]
    simp

private theorem act (h : p.Reckoned) {a : Act S} (hlinear : a.Linear p) (now : Millis) : (p.act now a).Reckoned := by
  cases a with
  | begin id key => exact h.begin now hlinear
  | apply op r => exact h.apply now op hlinear
  | visit change => exact h.stay (.nothing rfl rfl)

/-- As long as processes are driven on one line, the reckoning is right. -/
private theorem perform (h : p.Reckoned) {acts : List (Millis × Act S)} (hlinear : p.Linear acts) :
    (p.perform acts).Reckoned := by
  induction acts generalizing p with
  | nil => exact h
  | cons a acts ih => exact ih (h.act hlinear.1 a.1) hlinear.2

end Reckoned

/-- **The reckoning of the monitor.** Let anything be done in an office that opens with one monitor: processes are
begun, moved, ended and postponed, they expire, events are treated, and the store is called; some of it is refused. If
the processes that are begun have identifiers of their own, and every operation is applied to the newest record of its
process, then at any moment, also in the middle of an expiry or a treatment, the monitor has counted as many starts as
there are processes whose newest record is running, and ends together. In its log there is of each process that was
begun the start, and one more entry just if its newest record has ended: of the kind that the status tells, and with the
error of the record. -/
theorem reckoning {design : Design S} {audience : Audience Listener}
    (hmonitor : audience.leaves.count .monitor = 1) (deeds : List (Millis × Deed S))
    (hlinear : (opened design audience).Linear ((Office.opened design audience).acts deeds)) :
    let acts := (Office.opened design audience).acts deeds
    ((opened design audience).perform acts).office = (Office.opened design audience).carryOut deeds ∧
      ∀ earlier later, acts = earlier ++ later →
        let p := (opened design audience).perform earlier
        let tally := p.office.chronicle.tally
        (tally.count .started = p.newest.values.countP Record.isRunning +
          tally.count .completed + tally.count .failed + tally.count .timedOut) ∧
        ∀ id, (tally.log.filter fun e => e.subject = id).map (fun e => (e.kind, e.error)) =
          match p.newest.find? id with
          | none => []
          | some r => (.started, none) :: r.status.ending?.toList.map fun kind => (kind, r.error) := by
  intro acts
  refine ⟨(office_perform acts _).trans (Office.perform_acts deeds _), ?_⟩
  intro earlier later hacts p tally
  have hwhole : (opened design audience).Linear acts := hlinear
  rw [hacts] at hwhole
  have hreckoned : p.Reckoned := (Reckoned.opened design hmonitor).perform hwhole.earlier
  refine ⟨?_, fun id => (hreckoned.log id).trans ?_⟩
  · rw [hreckoned.count, hreckoned.count, hreckoned.count, hreckoned.count]
    exact entries_accounts p.newest.values
  · cases p.newest.find? id with
    | none => rfl
    | some r => exact List.flatMap_singleton ..

end Practice

end

namespace Practice

/-- Orders are paid and then shipped. -/
def stall : Design Nat := ⟨"order", 0, .ofRules [⟨0, 1⟩, ⟨1, 2⟩], some (.ofMillis 50)⟩

/-- One order cannot be shipped before it is paid, and is lost; then it cannot be completed any more. Another one is
begun for an event of its cart, is paid, and is not completed in time. -/
def market : List (Millis × Deed Nat) :=
  let p : Record Nat := stall.fresh ⟨"p"⟩ none 100
  [(100, .act (.begin (some ⟨"p"⟩) none)), (101, .act (.apply (.move 2) p)),
    (102, .treat ⟨"cart", none, .ok (some ⟨"q"⟩), fun _ => .inTurn [.move 1]⟩),
    (103, .act (.apply (.finish (.failed "lost")) p)),
    (104, .act (.apply (.finish .completed) { p with status := .failed, updatedAt := 103, error := some "lost" })),
    (160, .expire ⟨"q"⟩)]

theorem reckoning_market :
    (Audience.one Listener.monitor).leaves.count .monitor = 1 ∧
      (opened stall (.one .monitor)).Linear ((Office.opened stall (.one .monitor)).acts market) ∧
      let tally := ((Office.opened stall (.one .monitor)).carryOut market).chronicle.tally
      (tally.count .started = 0 + tally.count .completed + tally.count .failed + tally.count .timedOut) ∧
        (tally.log.filter fun e => e.subject = ⟨"p"⟩).map (fun e => (e.kind, e.error)) =
          [(.started, none), (.failed, some "lost")] ∧
        (tally.log.filter fun e => e.subject = ⟨"q"⟩).map (fun e => (e.kind, e.error)) =
          [(.started, none), (.timedOut, none)] := by
  have hmonitor : (Audience.one Listener.monitor).leaves.count .monitor = 1 := rfl
  have hlinear : (opened stall (.one .monitor)).Linear ((Office.opened stall (.one .monitor)).acts market) := by
    decide +kernel
  obtain ⟨hoffice, hmoments⟩ := reckoning hmonitor market hlinear
  obtain ⟨hcount, hlog⟩ := hmoments _ [] (List.append_nil _).symm
  have hrunning : ((opened stall (.one .monitor)).perform
      ((Office.opened stall (.one .monitor)).acts market)).newest.values.countP Record.isRunning = 0 := by
    decide +kernel
  rw [hoffice, hrunning] at hcount
  rw [hoffice] at hlog
  exact ⟨hmonitor, hlinear, hcount, (hlog ⟨"p"⟩).trans (by decide +kernel), (hlog ⟨"q"⟩).trans (by decide +kernel)⟩

end Practice

end Coordination.Workflow
