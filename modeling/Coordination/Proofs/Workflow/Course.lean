import Coordination.Proofs.Workflow.Lineage

/-!
# Courses of treatment

Workflows treat their events in different ways, but by one pattern: a workflow looks up the process that answers to the
key of the event, or begins one under this key, changes it by operations of the office, and saves it. What it changes
is its own affair. A `Course` is any sequence of operations, each chosen in view of how the earlier ones went, and
`Office.treat` treats an event by such a course; `Office.handle` is one case of it (`Office.handle_eq_treat`).

A course does nothing but announce what it does, and whatever it does concerns its own process (`Course.run_eq`). So a
treatment either fails and leaves the shelf as it was, or saves a record of the process that was found or begun
(`Office.treat_cases`).
-/

namespace Coordination.Workflow

variable {S : Type}

/-- The process that a notice is about. -/
def Notice.process : Notice S → ProcessId
  | .started id _ => id
  | .completed id => id
  | .failed id _ => id
  | .timedOut id => id
  | .moved id _ _ => id

/-- What a workflow does to a process before it saves it. -/
inductive Course (S : Type) where
  | save
  /-- Gives up; nothing is saved. -/
  | refuse (fault : Fault S)
  /-- Goes on with the record that the operation makes, or with the old one if it fails. -/
  | apply (op : Operation S) (next : Except (Fault S) (Record S) → Course S)

namespace Course

def run [ToString S] [DecidableEq S] (now : Millis) : Course S → Record S → Office S →
    Except (Fault S) (Record S) × Office S
  | .save, r, o => (.ok r, o)
  | .refuse fault, _, o => (.error fault, o)
  | .apply op next, r, o =>
    match op.carryOut now r o with
    | (.error fault, o) => (next (.error fault)).run now r o
    | (.ok r', o) => (next (.ok r')).run now r' o

/-- Operations one after the other, until one fails. -/
def inTurn : List (Operation S) → Course S
  | [] => .save
  | op :: ops => .apply op fun
    | .ok _ => inTurn ops
    | .error fault => .refuse fault

end Course

/-- How a workflow treats an event. -/
structure Treatment (S : Type) where
  /-- The key that names the process. -/
  key : String
  /-- A failure raised before anything else is done. -/
  raises : Option (Fault S)
  /-- What is done if no process answers to the key: it is a fault, or one is begun under the given identifier or under
  one that is handed out. -/
  unknown : Except (Fault S) (Option ProcessId)
  course : Record S → Course S

/-- The treatment of an event that asks for at most a transition and an ending. -/
def Event.treatment (e : Event S) : Treatment S where
  key := e.key
  raises := e.raises.map .handler
  unknown := if e.begins then .ok e.id else .error (.notFound ⟨e.key⟩)
  course := fun _ => .inTurn (e.target.toList.map .move ++ e.ending.toList.map .finish)

/-- An answer and notices that concern the process of `r` alone: the record that is made of `r`, if there is one, has
its identity. -/
structure Record.Confines (r : Record S) (answer : Except (Fault S) (Record S)) (notices : List (Notice S)) :
    Prop where
  process : ∀ n ∈ notices, n.process = r.id
  kept : ∀ next, answer = .ok next → next.id = r.id ∧ next.correlation = r.correlation

private theorem Record.Confines.refused (r : Record S) (fault : Fault S) :
    r.Confines (.error fault) [] := ⟨nofun, nofun⟩

private theorem Record.Confines.made {r next : Record S} {notices : List (Notice S)} (hid : next.id = r.id)
    (hcorrelation : next.correlation = r.correlation) (hprocess : ∀ n ∈ notices, n.process = r.id) :
    r.Confines (.ok next) notices := by
  refine ⟨hprocess, ?_⟩
  rintro _ h
  obtain rfl := Except.ok.inj h
  exact ⟨hid, hcorrelation⟩

section

variable [ToString S] [DecidableEq S]

/-! ### Handling as a treatment -/

theorem Course.run_inTurn_cons (now : Millis) (op : Operation S) (ops : List (Operation S)) (r : Record S)
    (o : Office S) : (inTurn (op :: ops)).run now r o =
      match op.carryOut now r o with
      | (.error fault, o) => (.error fault, o)
      | (.ok r, o) => (inTurn ops).run now r o := by
  rw [inTurn, run]
  obtain ⟨_ | _, _⟩ := op.carryOut now r o <;> rfl

namespace Office

/-- The process that is treated. -/
def recipient (now : Millis) (t : Treatment S) (o : Office S) : Except (Fault S) (Record S) × Office S :=
  match o.findByCorrelation t.key with
  | (.error fault, o) => (.error fault, o)
  | (.ok (some r), o) => (.ok r, o)
  | (.ok none, o) =>
    match t.unknown with
    | .error fault => (.error fault, o)
    | .ok id =>
      let (r, o) := o.start now id (some t.key)
      (.ok r, o)

/-- The process is changed, and saved. -/
def undergo (now : Millis) (c : Course S) (r : Record S) (o : Office S) : Except (Fault S) (Record S) × Office S :=
  match c.run now r o with
  | (.error fault, o) => (.error fault, o)
  | (.ok r, o) =>
    match o.save r with
    | (.error fault, o) => (.error fault, o)
    | (.ok (), o) => (.ok r, o)

def treat (now : Millis) (t : Treatment S) (o : Office S) : Except (Fault S) (Record S) × Office S :=
  match t.raises with
  | some fault => (.error fault, o)
  | none =>
    match o.recipient now t with
    | (.error fault, o) => (.error fault, o)
    | (.ok r, o) => o.undergo now (t.course r) r

omit [DecidableEq S] in
private theorem resolve_eq_recipient (now : Millis) (e : Event S) (o : Office S) :
    o.resolve now e = o.recipient now e.treatment := by
  unfold resolve recipient
  have hkey : e.treatment.key = e.key := rfl
  rw [hkey]
  obtain ⟨_ | _ | r, o'⟩ := o.findByCorrelation e.key
  · rfl
  · unfold Event.treatment
    cases e.begins <;> rfl
  · rfl

/-- A transition and an ending are a course of operations. -/
private theorem run_treatment (now : Millis) (e : Event S) (r : Record S) (o : Office S) :
    (e.treatment.course r).run now r o =
      match o.moveTo now e.target r with
      | (.error fault, o) => (.error fault, o)
      | (.ok r, o) => o.finishWith now e.ending r := by
  have hlast : ∀ (r : Record S) (o : Office S),
      (Course.inTurn (e.ending.toList.map .finish)).run now r o = o.finishWith now e.ending r := by
    intro r o
    cases e.ending with
    | none => rfl
    | some ending =>
      have hfinish : (Operation.finish ending).carryOut now r o = o.finish now ending r := rfl
      refine (Course.run_inTurn_cons now (.finish ending) [] r o).trans ?_
      rw [hfinish, finishWith]
      obtain ⟨_ | _, _⟩ := o.finish now ending r <;> rfl
  unfold Event.treatment
  cases e.target with
  | none => exact hlast r o
  | some target =>
    have hmove : (Operation.move target).carryOut now r o = o.move now target r := rfl
    refine (Course.run_inTurn_cons now (.move target) _ r o).trans ?_
    rw [hmove, moveTo]
    obtain ⟨_ | r', o'⟩ := o.move now target r
    · rfl
    · exact hlast r' o'

/-- To handle an event is to treat it. -/
theorem handle_eq_treat (now : Millis) (e : Event S) (o : Office S) : o.handle now e = o.treat now e.treatment := by
  unfold handle treat
  rw [resolve_eq_recipient]
  cases hraises : e.raises with
  | some reason => simp [Event.treatment, hraises]
  | none =>
    have hnone : e.treatment.raises = none := by simp [Event.treatment, hraises]
    rw [hnone]
    dsimp only
    obtain ⟨_ | r, o₁⟩ := o.recipient now e.treatment
    · rfl
    · dsimp only
      rw [undergo, run_treatment]
      obtain ⟨_ | r', o₂⟩ := o₁.moveTo now e.target r <;> rfl

/-! ### What courses do -/

/-- Announces one notice after the other. -/
def announceAll (now : Millis) (notices : List (Notice S)) (o : Office S) : Office S :=
  notices.foldl (fun o n => o.announce now n) o

omit [DecidableEq S] in
private theorem announceAll_append (now : Millis) (notices notices' : List (Notice S)) (o : Office S) :
    o.announceAll now (notices ++ notices') = (o.announceAll now notices).announceAll now notices' :=
  List.foldl_append

omit [DecidableEq S] in
/-- To announce changes nothing but the chronicle. -/
theorem announceAll_frame (now : Millis) (notices : List (Notice S)) (o : Office S) :
    (o.announceAll now notices).store = o.store ∧ (o.announceAll now notices).design = o.design ∧
      (o.announceAll now notices).chronicle.sent = o.chronicle.sent ++ notices := by
  induction notices generalizing o with
  | nil => exact ⟨rfl, rfl, (List.append_nil _).symm⟩
  | cons n notices ih =>
    obtain ⟨hstore, hdesign, hsent⟩ := ih (o.announce now n)
    have hfirst : (o.announce now n).chronicle.sent = o.chronicle.sent ++ [n] :=
      Coordination.sent_announce o.audience now n o.chronicle
    refine ⟨hstore, hdesign, ?_⟩
    rw [List.append_cons, ← hfirst]
    exact hsent

end Office

/-- What an operation answers and announces is the same in every office of the design. -/
private theorem Operation.carryOut_eq (design : Design S) (now : Millis) (r : Record S) (op : Operation S) :
    ∃ answer notices, r.Confines answer notices ∧
      ∀ o : Office S, o.design = design → op.carryOut now r o = (answer, o.announceAll now notices) := by
  cases op with
  | move target =>
    cases hmove : r.move design.chart now target with
    | error fault =>
      refine ⟨.error fault, [], .refused r fault, ?_⟩
      rintro o rfl
      simp only [carryOut, Office.move, hmove]
      rfl
    | ok next =>
      obtain ⟨-, -, hnext⟩ := Record.move_ok hmove
      refine ⟨.ok next, [.moved r.id r.state target],
        .made (by rw [hnext]) (by rw [hnext]) (by simp [Notice.process]), ?_⟩
      rintro o rfl
      simp only [carryOut, Office.move, hmove]
      rfl
  | finish ending =>
    cases hfinish : r.finish ending now with
    | error fault =>
      refine ⟨.error fault, [], .refused r fault, ?_⟩
      rintro o rfl
      simp only [carryOut, Office.finish, hfinish]
      rfl
    | ok next =>
      obtain ⟨-, hnext⟩ := Record.finish_ok hfinish
      have hnotice : (Office.endNotice r.id ending : Notice S).process = r.id := by cases ending <;> rfl
      have hid : next.id = r.id := by rw [hnext]
      refine ⟨.ok next, [Office.endNotice next.id ending], .made hid (by rw [hnext]) (by simp [hid, hnotice]), ?_⟩
      rintro o rfl
      simp only [carryOut, Office.finish, hfinish]
      rfl
  | postpone deadline =>
    exact ⟨.ok (r.postpone deadline now), [], .made rfl rfl (List.forall_mem_nil _), fun _ _ => rfl⟩

/-- What a course answers and announces is the same in every office of the design, and it does nothing else. -/
theorem Course.run_eq (design : Design S) (now : Millis) (c : Course S) (r : Record S) :
    ∃ answer notices, r.Confines answer notices ∧
      ∀ o : Office S, o.design = design → c.run now r o = (answer, o.announceAll now notices) := by
  induction c generalizing r with
  | save => exact ⟨.ok r, [], .made rfl rfl (List.forall_mem_nil _), fun _ _ => rfl⟩
  | refuse fault => exact ⟨.error fault, [], .refused r fault, fun _ _ => rfl⟩
  | apply op next ih =>
    obtain ⟨answer, notices, hconfines, hop⟩ := op.carryOut_eq design now r
    -- the record that the rest of the course goes on with
    obtain ⟨r', hid, hcorrelation, hrest⟩ : ∃ r' : Record S, r'.id = r.id ∧ r'.correlation = r.correlation ∧
        ∀ o : Office S, o.design = design →
          (apply op next).run now r o = (next answer).run now r' (o.announceAll now notices) := by
      cases answer with
      | error fault =>
        refine ⟨r, rfl, rfl, fun o ho => ?_⟩
        rw [run, hop o ho]
      | ok r' =>
        obtain ⟨hid, hcorrelation⟩ := hconfines.kept r' rfl
        refine ⟨r', hid, hcorrelation, fun o ho => ?_⟩
        rw [run, hop o ho]
    obtain ⟨answer', notices', hconfines', hnext⟩ := ih answer r'
    refine ⟨answer', notices ++ notices', ⟨?_, ?_⟩, ?_⟩
    · intro n hn
      rcases List.mem_append.1 hn with hn | hn
      · exact hconfines.process n hn
      · exact (hconfines'.process n hn).trans hid
    · intro last hlast
      obtain ⟨hid', hcorrelation'⟩ := hconfines'.kept last hlast
      exact ⟨hid'.trans hid, hcorrelation'.trans hcorrelation⟩
    · intro o ho
      rw [hrest o ho, hnext _ ((o.announceAll_frame now notices).2.1.trans ho), Office.announceAll_append]

namespace Office

/-- `r` is the record that answers to the key on the shelf, or one of a new process, if none does. -/
def IsRecipient (t : Treatment S) (r : Record S) (o : Office S) : Prop :=
  o.store.inner.findByCorrelation t.key = .ok (some r) ∨
    (o.store.inner.findByCorrelation t.key = .ok none ∧ r.correlation = some t.key)

omit [DecidableEq S] in
/-- To get at the recipient leaves the shelf alone, and announces at most this process. -/
private theorem recipient_cases (now : Millis) (t : Treatment S) (o : Office S) :
    (o.recipient now t).2.store.inner = o.store.inner ∧ ∃ notices,
      (o.recipient now t).2.chronicle.sent = o.chronicle.sent ++ notices ∧
        ((∃ fault, (o.recipient now t).1 = .error fault ∧ notices = []) ∨
          ∃ r, (o.recipient now t).1 = .ok r ∧ o.IsRecipient t r ∧ ∀ n ∈ notices, n.process = r.id) := by
  have hinner := o.inner_findByCorrelation t.key
  have hsent : (o.findByCorrelation t.key).2.chronicle = o.chronicle := rfl
  have hread : ∀ found, (o.findByCorrelation t.key).1 = .ok found →
      o.store.inner.findByCorrelation t.key = .ok found := fun _ => found_of_findByCorrelation
  unfold recipient
  generalize o.findByCorrelation t.key = asked at hinner hsent hread
  obtain ⟨fault | _ | r, o₁⟩ := asked
  · exact ⟨hinner, [], by rw [← hsent, List.append_nil], Or.inl ⟨fault, rfl, rfl⟩⟩
  · dsimp only
    cases t.unknown with
    | error fault => exact ⟨hinner, [], by rw [← hsent, List.append_nil], Or.inl ⟨fault, rfl, rfl⟩⟩
    | ok id =>
      refine ⟨(congrArg Guarded.inner (store_start now id (some t.key) o₁)).trans hinner,
        [.started (o₁.identify id).1 o₁.design.name], ?_, Or.inr ⟨_, rfl, Or.inr ⟨hread none rfl, ?_⟩, ?_⟩⟩
      · rw [← hsent]
        cases id <;> exact Coordination.sent_announce ..
      · rw [start_fresh]
        rfl
      · rw [start_fresh]
        intro n hn
        obtain rfl := List.mem_singleton.1 hn
        rfl
  · exact ⟨hinner, [], by rw [← hsent, List.append_nil], Or.inr ⟨r, rfl, Or.inl (hread (some r) rfl), nofun⟩⟩

/-- To undergo a course is announced for the process of the record only; it either fails and leaves the shelf as it
was, or saves a record that the process becomes. -/
private theorem undergo_cases (now : Millis) (c : Course S) (r : Record S) (o : Office S) :
    ∃ notices, (o.undergo now c r).2.chronicle.sent = o.chronicle.sent ++ notices ∧
      (∀ n ∈ notices, n.process = r.id) ∧
      ((∃ fault, (o.undergo now c r).1 = .error fault ∧ (o.undergo now c r).2.store.inner = o.store.inner) ∨
        ∃ next, (o.undergo now c r).1 = .ok next ∧ next.id = r.id ∧ next.correlation = r.correlation ∧
          o.store.inner.save next = .ok (o.undergo now c r).2.store.inner) := by
  obtain ⟨answer, notices, hconfines, hrun⟩ := c.run_eq o.design now r
  obtain ⟨hstore, -, hsent⟩ := o.announceAll_frame now notices
  refine ⟨notices, ?_⟩
  unfold undergo
  rw [hrun o rfl]
  cases answer with
  | error fault => exact ⟨hsent, hconfines.process, Or.inl ⟨fault, rfl, congrArg Guarded.inner hstore⟩⟩
  | ok next =>
    obtain ⟨hid, hcorrelation⟩ := hconfines.kept next rfl
    have hsave := (o.announceAll now notices).save_written next
    have hquiet : ((o.announceAll now notices).save next).2.chronicle.sent = _ := hsent
    rw [hstore] at hsave
    dsimp only
    generalize (o.announceAll now notices).save next = saved at hsave hquiet
    obtain ⟨fault | _, o'⟩ := saved
    · rcases hsave with ⟨-, -, hinner⟩ | ⟨h, -⟩
      · exact ⟨hquiet, hconfines.process, Or.inl ⟨fault, rfl, hinner⟩⟩
      · cases h
    · rcases hsave with ⟨_, h, -⟩ | ⟨-, hwrite⟩
      · cases h
      · exact ⟨hquiet, hconfines.process, Or.inr ⟨next, rfl, hid, hcorrelation, hwrite⟩⟩

/-- A treatment that does not get as far as a process does nothing. One that does announces this process only; it either
fails and leaves the shelf as it was, or saves a record that the process becomes. -/
theorem treat_cases (now : Millis) (t : Treatment S) (o : Office S) :
    ∃ notices, (o.treat now t).2.chronicle.sent = o.chronicle.sent ++ notices ∧
      ((∃ fault, (o.treat now t).1 = .error fault ∧ (o.treat now t).2.store.inner = o.store.inner ∧ notices = []) ∨
        ∃ r, o.IsRecipient t r ∧ (∀ n ∈ notices, n.process = r.id) ∧
          ((∃ fault, (o.treat now t).1 = .error fault ∧ (o.treat now t).2.store.inner = o.store.inner) ∨
            ∃ next, (o.treat now t).1 = .ok next ∧ next.id = r.id ∧ next.correlation = r.correlation ∧
              o.store.inner.save next = .ok (o.treat now t).2.store.inner)) := by
  unfold treat
  cases t.raises with
  | some fault => exact ⟨[], (List.append_nil _).symm, Or.inl ⟨fault, rfl, rfl, rfl⟩⟩
  | none =>
    obtain ⟨hinner, notices, hsent, horigin⟩ := o.recipient_cases now t
    dsimp only
    generalize o.recipient now t = found at hinner hsent horigin
    obtain ⟨fault | r, o₁⟩ := found
    · rcases horigin with ⟨_, -, rfl⟩ | ⟨_, h, -⟩
      · exact ⟨[], hsent, Or.inl ⟨fault, rfl, hinner, rfl⟩⟩
      · cases h
    · rcases horigin with ⟨_, h, -⟩ | ⟨_, h, hrecipient, habout⟩
      · cases h
      obtain rfl := Except.ok.inj h
      obtain ⟨notices', hsent', habout', hcases⟩ := o₁.undergo_cases now (t.course r) r
      rw [hsent, List.append_assoc] at hsent'
      rw [hinner] at hcases
      refine ⟨_, hsent', Or.inr ⟨r, hrecipient, ?_, hcases⟩⟩
      intro n hn
      rcases List.mem_append.1 hn with hn | hn
      · exact habout n hn
      · exact habout' n hn

end Office

end

end Coordination.Workflow
