import Coordination.Proofs.Saga.Balance

/-!
# What becomes of an undertaking

A saga that is conducted keeps to its phase (`Undertaking.Stands`), and whatever it does next, it tells what becomes of
it (`Undertaking.Advances`): the notices that are sent are those of its progress, and its failure when it comes to that.
So its tale is complete when it is over (`Undertaking.Sound`).
-/

namespace Coordination.Saga

variable {V : Type}

/-- A fault is announced when a saga fails. -/
def failure (id : SagaId) : Except Fault V → List Notice
  | .ok _ => []
  | .error fault => [.failed id (some fault.message)]

open Scene (Sends)

/-- A motion goes on with a rollback that is under way, or ends it. -/
private theorem Motion.carryOut_undoing (m : Motion V) {x : Strand V} (h : x.pending.isUndoing = true) (s : Scene V) :
    ((m.carryOut x s).2.1.pending.isUndoing = true ∧ (∀ result, (m.carryOut x s).1 ≠ some (.commit result)) ∧
        ∀ outcome, (m.carryOut x s).1 ≠ some (.rollback outcome)) ∨
      x = ⟨x.run, .rollingBack []⟩ ∧ m = .settle := by
  obtain ⟨r, pending⟩ := x
  rcases pending with _ | _ | (_ | ⟨step, left⟩) | ⟨step, left⟩
  case nothing => cases h
  case acting => cases h
  case rollingBack.nil =>
    cases m with
    | settle => exact .inr ⟨rfl, rfl⟩
    | _ => exact .inl ⟨rfl, fun _ h => (nomatch h), fun _ h => (nomatch h)⟩
  case rollingBack.cons => cases m <;> exact .inl ⟨rfl, fun _ h => (nomatch h), fun _ h => (nomatch h)⟩
  case undoing => cases m <;> exact .inl ⟨rfl, fun _ h => (nomatch h), fun _ h => (nomatch h)⟩

/-- A run that is being compensated is in the middle of a rollback, or a rollback was broken off before. -/
private theorem Strand.Fits.breakOff {brokenOff : Bool} {x : Strand V} (h : x.Fits brokenOff) :
    Strand.Fits (brokenOff || x.pending.isUndoing) ⟨x.run, .nothing⟩ := by
  obtain ⟨r, _ | _ | _ | _⟩ := x
  · exact fun hstatus => by simpa [Pending.isUndoing] using h hstatus
  · intro hstatus
    cases hstatus.symm.trans h
  · exact fun _ => Bool.or_true _
  · exact fun _ => Bool.or_true _

namespace Undertaking

/-- The body committed the run. -/
def Commits (u : Undertaking V) : Prop := .commit (.ok ()) ∈ u.reports

/-- The failure of a saga that is over. -/
def failure (u : Undertaking V) : List Notice :=
  match u.phase with
  | .answered _ answer => Saga.failure u.id answer
  | _ => []

/-- The saga answered a fault. -/
def isFault (u : Undertaking V) : Bool :=
  match u.phase with
  | .answered _ (.error _) => true
  | _ => false

/-- How many times a monitor hears what is announced of the saga. -/
def places (u : Undertaking V) : Nat := monitors (u.opening.wiring u.runtime).audience

/-- How a saga is concluded. -/
structure Concluded (leaving : Leaving V) (answer : Except Fault V) (u : Undertaking V) : Prop where
  ended : u.status ≠ .running
  free : u.strand.pending = .nothing
  value : ∀ value, answer = .ok value ↔ leaving.result = .ok value ∧ leaving.status = .running
  commits : (∃ fault, answer = .error fault) ∧ u.status = .committed ↔ u.Commits

/-- What is true of a saga in its phase. -/
def InPhase (u : Undertaking V) : Prop :=
  match u.phase with
  | .playing => u.status = .committed ↔ u.Commits
  | .givingUp leaving fault => leaving.result = .error fault ∧ u.strand.pending.isUndoing = true ∧ ¬ u.Commits
  | .answered leaving answer => u.Concluded leaving answer

/-- What is true of a saga all along. -/
structure Stands (u : Undertaking V) : Prop where
  fits : u.strand.Fits u.brokenOff
  inPhase : u.InPhase

/-- A saga that was not over goes on, and tells what becomes of it. -/
structure Advances (u : Undertaking V) (s : Scene V) (after : Undertaking V × Scene V) : Prop where
  id : after.1.id = u.id
  runtime : after.1.runtime = u.runtime
  opening : after.1.opening = u.opening
  wiring : after.1.run.wiring = u.run.wiring
  news : ∃ news, Progress u.id u.status news after.1.status ∧
    Sends u.run.wiring.audience (news ++ after.1.failure) s after.2
  stands : after.1.Stands

variable {u : Undertaking V} {s : Scene V} {leaving : Leaving V} {fault : Fault}

private theorem commits_goOn {x : Strand V} {told : List (Report V)} :
    (u.goOn x told).Commits ↔ u.Commits ∨ .commit (.ok ()) ∈ told :=
  List.mem_append

/-- A fault is answered. -/
private theorem concluded_of_fault (hended : u.status ≠ .running) (hfree : u.strand.pending = .nothing)
    (hleaving : leaving.status = .running → leaving.result = .error fault)
    (hcommits : u.status = .committed ↔ u.Commits) : u.Concluded leaving (.error fault) where
  ended := hended
  free := hfree
  value := by
    refine fun value => ⟨nofun, ?_⟩
    rintro ⟨hvalue, hrunning⟩
    rw [hleaving hrunning] at hvalue
    cases hvalue
  commits := by simp [hcommits]

private theorem Stands.playing (h : u.Stands) (hphase : u.phase = .playing) : u.status = .committed ↔ u.Commits := by
  have hinPhase := h.inPhase
  unfold InPhase at hinPhase
  rwa [hphase] at hinPhase

private theorem Stands.givingUp (h : u.Stands) (hphase : u.phase = .givingUp leaving fault) :
    leaving.result = .error fault ∧ u.strand.pending.isUndoing = true ∧ ¬ u.Commits := by
  have hinPhase := h.inPhase
  unfold InPhase at hinPhase
  rwa [hphase] at hinPhase

theorem Stands.answered (h : u.Stands) {answer : Except Fault V} (hphase : u.phase = .answered leaving answer) :
    u.Concluded leaving answer := by
  have hinPhase := h.inPhase
  unfold InPhase at hinPhase
  rwa [hphase] at hinPhase

/-- A run that is being rolled back is being compensated. -/
private theorem Stands.compensating (h : u.Stands) (hpending : u.strand.pending.isUndoing = true) :
    u.status = .compensating := by
  have hfits := h.fits
  unfold Strand.Fits at hfits
  split at hfits <;> rename_i heq <;> rw [heq] at hpending
  · cases hpending
  · cases hpending
  · exact hfits
  · exact hfits

/-! ### Pieces of statements -/

theorem failure_of_not_over (hover : u.isOver = false) : u.failure = [] := by
  unfold isOver at hover
  unfold failure
  split
  · rename_i heq
    rw [heq] at hover
    cases hover
  · rfl

/-- A motion tells what becomes of a saga that stays in its phase. -/
private theorem Stands.moved (h : u.Stands) (hover : u.isOver = false) (m : Motion V)
    (hinPhase : (u.moved (m.carryOut u.strand s)).1.InPhase) : u.Advances s (u.moved (m.carryOut u.strand s)) := by
  have htells := Strand.tells h.fits m s
  have hfailure : (u.moved (m.carryOut u.strand s)).1.failure = [] := failure_of_not_over hover
  obtain ⟨news, hnext, hsends⟩ := htells.news
  refine ⟨htells.id, rfl, rfl, htells.wiring, ⟨news, hnext, ?_⟩, htells.fits _ h.fits, hinPhase⟩
  rw [hfailure, List.append_nil]
  exact hsends

private theorem Stands.piece_playing (h : u.Stands) (hphase : u.phase = .playing) (m : Motion V) (s : Scene V) :
    u.Advances s (u.piece m s) := by
  rw [Undertaking.piece_playing hphase]
  refine h.moved (isOver_playing hphase) m ?_
  unfold InPhase
  rw [show (u.moved (m.carryOut u.strand s)).1.phase = .playing from hphase]
  show (m.carryOut u.strand s).2.1.status = .committed ↔ _
  rw [(Strand.tells h.fits m s).commits, Undertaking.moved, commits_goOn, ← h.playing hphase, Option.mem_toList]
  rfl

private theorem Stands.piece_givingUp (h : u.Stands) (hphase : u.phase = .givingUp leaving fault) (m : Motion V)
    (s : Scene V) : u.Advances s (u.piece m s) := by
  obtain ⟨hresult, hundoing, hcommits⟩ := h.givingUp hphase
  rcases m.carryOut_undoing hundoing s with ⟨hgoesOn, hcommit, hreport⟩ | ⟨hx, rfl⟩
  · rw [Undertaking.piece_givingUp hphase hreport]
    refine h.moved (isOver_givingUp hphase) m ?_
    unfold InPhase
    rw [show (u.moved (m.carryOut u.strand s)).1.phase = .givingUp leaving fault from hphase]
    refine ⟨hresult, hgoesOn, ?_⟩
    rw [Undertaking.moved, commits_goOn, Option.mem_toList]
    exact fun hcommitted => hcommitted.elim hcommits (hcommit _)
  · -- the last piece of the rollback, and then the failure
    have hpiece : u.piece .settle s =
        ({ u.goOn ⟨(u.run.settle s).1, .nothing⟩ [.rollback (.ok ())] with phase := .answered leaving (.error fault) },
          (u.run.settle s).1.fail fault (.ok ()) (u.run.settle s).2) := by
      unfold piece
      rw [hphase, hx]
      rfl
    have hsettled := Run.announced_sends (.compensated u.id) (u.run.settle s).1 s
    have hfailed := (u.run.settle s).1.fail_sends fault (.ok ()) (u.run.settle s).2
    have hcommits' : ¬ (u.goOn ⟨(u.run.settle s).1, .nothing⟩ [.rollback (.ok ())]).Commits := by
      rw [commits_goOn]
      simpa using hcommits
    rw [hpiece]
    refine ⟨rfl, rfl, rfl, rfl, ⟨[.compensated u.id], ?_, hsettled.trans hfailed⟩, ?_, ?_⟩
    · rw [h.compensating hundoing]
      exact .settle
    · exact fun hcompensating => absurd hcompensating (by decide : Status.compensated ≠ .compensating)
    · exact concluded_of_fault (by decide : Status.compensated ≠ .running) rfl (fun _ => hresult)
        (iff_of_false (by decide : Status.compensated ≠ .committed) hcommits')

/-! ### The end of the body -/

private theorem Stands.giveUp (h : u.Stands) (hphase : u.phase = .playing) (hpending : u.strand.pending = .nothing)
    (hstatus : leaving.status = u.status) (hresult : u.status = .running → leaving.result = .error fault)
    (s : Scene V) : u.Advances s (u.giveUp leaving fault s) := by
  have hplaying := h.playing hphase
  unfold Undertaking.giveUp Undertaking.piece
  dsimp only [Motion.carryOut]
  cases hrunning : (u.run.note fault.message s).isRunning with
  | true =>
    have hrunning : u.status = .running := Run.status_of_isRunning hrunning
    have hsends := Run.persist_sends ((u.run.note fault.message s).turnBack s).1 s
    have hcommits : ¬ (u.goOn u.strand [.turnedBack]).Commits := by
      rw [commits_goOn, ← hplaying, hrunning]
      simp
    refine ⟨rfl, rfl, rfl, rfl, ⟨[], ?_, hsends⟩, rfl, hresult hrunning, rfl, hcommits⟩
    rw [hrunning]
    exact .turnBack
  | false =>
    have hended : u.status ≠ .running := of_decide_eq_false hrunning
    have hfits : u.strand.Fits u.brokenOff := h.fits
    have hfailed := (u.run.note fault.message s).fail_sends fault (.error (.finished .rollBack u.status)) s
    have hcommits : u.status = .committed ↔
        (u.goOn u.strand [.rollback (.error (.finished .rollBack u.status))]).Commits := by
      rw [commits_goOn, ← hplaying]
      simp
    unfold Strand.Fits at hfits
    rw [hpending] at hfits
    refine ⟨rfl, rfl, rfl, rfl, ⟨[], .still _, hfailed⟩, hfits, ?_⟩
    exact concluded_of_fault hended rfl (fun hleft => absurd (hstatus.symm.trans hleft) hended) hcommits

/-- What does not fit does nothing. -/
private theorem Stands.stays (h : u.Stands) (hover : u.isOver = false) (s : Scene V) : u.Advances s (u, s) := by
  refine ⟨rfl, rfl, rfl, rfl, ⟨[], .still _, ?_⟩, h⟩
  rw [failure_of_not_over hover]
  exact .of_eq rfl rfl rfl

/-- A value is answered when the run is committed. -/
private theorem Stands.commit (h : u.Stands) (hphase : u.phase = .playing) (hrunning : u.status = .running) (value : V)
    (s : Scene V) :
    let r := (u.run.forget.withStatus .committed).touch s
    u.Advances s ({ u with strand := ⟨r, .nothing⟩, phase := .answered ⟨.ok value, u.status⟩ (.ok value) },
      r.persist (r.announce (.committed u.id) s)) := by
  intro r
  have hcommits : ¬ u.Commits := by
    rw [← h.playing hphase, hrunning]
    decide
  have hnext : Progress u.id u.status [.committed u.id] .committed := by
    rw [hrunning]
    exact .commit
  refine ⟨rfl, rfl, rfl, rfl, ⟨[.committed u.id], hnext, Run.announced_sends (.committed u.id) r s⟩, ?_, ?_⟩
  · exact fun hcompensating => absurd hcompensating (by decide : Status.committed ≠ .compensating)
  · refine ⟨(by decide : Status.committed ≠ .running), rfl, ?_, iff_of_false ?_ hcommits⟩
    · exact fun value' => ⟨fun h => ⟨h, hrunning⟩, fun h => h.1⟩
    · rintro ⟨⟨fault, hfault⟩, -⟩
      cases hfault

private theorem Stands.come (h : u.Stands) (hphase : u.phase = .playing) (result : Except Fault V) (s : Scene V) :
    u.Advances s (u.come result s) := by
  obtain ⟨rt, o, ⟨r, pending⟩, phase, reports, brokenOff⟩ := u
  cases hphase
  cases pending with
  | nothing =>
    cases result with
    | error fault => exact h.giveUp rfl rfl rfl (fun _ => rfl) s
    | ok value =>
      unfold Undertaking.come
      dsimp only [run]
      cases hrunning : r.isRunning with
      | true =>
        rw [Run.commit, if_pos hrunning]
        exact h.commit rfl (Run.status_of_isRunning hrunning) value s
      | false =>
        have hended : r.record.status ≠ .running := of_decide_eq_false hrunning
        rw [r.commit_of_ended hrunning]
        exact h.giveUp rfl rfl rfl (fun hrunning => absurd hrunning hended) s
  | _ => exact h.stays rfl s

private theorem Stands.breakOff (h : u.Stands) (hphase : u.phase = .playing) (s : Scene V) :
    u.Advances s (u.breakOff, s) := by
  obtain ⟨rt, o, x, phase, reports, brokenOff⟩ := u
  cases hphase
  exact ⟨rfl, rfl, rfl, rfl, ⟨[], .still _, .of_eq rfl rfl rfl⟩, h.fits.breakOff, h.inPhase⟩

/-- **An undertaking that is not over goes on** and tells what becomes of it. -/
theorem Stands.carryOut (h : u.Stands) (hover : u.isOver = false) (d : Doing V)
    (s : Scene V) : u.Advances s (d.carryOut u s) := by
  cases hphase : u.phase with
  | playing =>
    cases d with
    | piece m => exact h.piece_playing hphase m s
    | breakOff => exact h.breakOff hphase s
    | come result => exact h.come hphase result s
  | givingUp leaving fault =>
    cases d with
    | piece m => exact h.piece_givingUp hphase m s
    | breakOff =>
      rw [Doing.carryOut, Undertaking.breakOff, hphase]
      exact h.stays hover s
    | come result =>
      rw [Doing.carryOut, Undertaking.come, hphase]
      exact h.stays hover s
  | answered leaving answer =>
    rw [isOver_iff.2 ⟨leaving, answer, hphase⟩] at hover
    cases hover

/-- Nothing becomes of a saga that is over. -/
theorem carryOut_over {answer : Except Fault V} (hphase : u.phase = .answered leaving answer) (d : Doing V) (s : Scene V) :
    d.carryOut u s = (u, s) := by
  cases d with
  | piece m => rw [Doing.carryOut, piece, hphase]
  | breakOff => rw [Doing.carryOut, Undertaking.breakOff, hphase]
  | come result => rw [Doing.carryOut, Undertaking.come, hphase]

/-- What is true of an undertaking in an ensemble that began with the scene `before`. -/
structure Sound (before s : Scene V) (u : Undertaking V) : Prop where
  known : ¬ s.Unissued u.id
  wiring : u.run.wiring = u.opening.wiring u.runtime
  told : ∃ tale, Tale u.id u.opening.name u.status tale ∧ s.heard u.id = before.heard u.id ++ tale ++ u.failure
  stands : u.Stands

variable {before t : Scene V} {after : Undertaking V × Scene V}

/-- Only what is heard of the saga itself counts. -/
theorem Sound.congr (h : u.Sound before s) (hissued : s.issued ≤ t.issued) (hheard : t.heard u.id = s.heard u.id) :
    u.Sound before t where
  known := fun hlater => h.known (hlater.mono hissued)
  wiring := h.wiring
  told := by
    rw [hheard]
    exact h.told
  stands := h.stands

theorem Advances.saga (h : u.Advances s after) : ∃ news, Progress u.id u.status news after.1.status ∧
    Sends u.run.wiring.audience (news ++ after.1.failure) s after.2 ∧ ∀ n ∈ news ++ after.1.failure, n.saga = u.id := by
  obtain ⟨news, hnext, hsends⟩ := h.news
  refine ⟨news, hnext, hsends, List.forall_mem_append.2 ⟨hnext.saga, ?_⟩⟩
  rw [← h.id]
  unfold failure
  split
  · rename_i answer _
    cases answer with
    | ok value => exact List.forall_mem_nil _
    | error fault => simp [Saga.failure, Notice.saga]
  · exact List.forall_mem_nil _

theorem Sound.advances (h : u.Sound before s) (hover : u.isOver = false)
    (hafter : u.Advances s after) : after.1.Sound before after.2 where
  known := by
    obtain ⟨news, -, hsends⟩ := hafter.news
    rw [hafter.id]
    exact fun hlater => h.known (hlater.mono (Nat.le_of_eq hsends.issued.symm))
  wiring := by
    rw [hafter.wiring, hafter.opening, hafter.runtime]
    exact h.wiring
  told := by
    obtain ⟨tale, htale, hheard⟩ := h.told
    obtain ⟨news, hnext, hsends, hsaga⟩ := hafter.saga
    rw [failure_of_not_over hover, List.append_nil] at hheard
    rw [hafter.id, hafter.opening]
    refine ⟨tale ++ news, htale.goOn hnext, ?_⟩
    rw [hsends.heard_self hsaga, hheard]
    simp only [List.append_assoc]
  stands := hafter.stands

/-- A saga that is over has ended, if no rollback was broken off. -/
theorem Sound.ended (h : u.Sound before s) {answer : Except Fault V} (hphase : u.phase = .answered leaving answer)
    (hbrokenOff : u.brokenOff = false) : u.status = .committed ∨ u.status = .compensated := by
  have hconcluded := h.stands.answered hphase
  have hfits := h.stands.fits
  unfold Strand.Fits at hfits
  rw [hconcluded.free, hbrokenOff] at hfits
  obtain ⟨tale, htale, -⟩ := h.told
  rcases htale.status_cases with hrunning | hcommitted | hcompensating | hcompensated
  · exact absurd hrunning hconcluded.ended
  · exact .inl hcommitted
  · cases hfits hcompensating
  · exact .inr hcompensated

/-- How many failures a monitor hears of. -/
def faults (u : Undertaking V) : Nat := if u.isFault then u.places else 0

private theorem count_failure (u : Undertaking V) :
    Notice.count .started u.failure = 0 ∧ Notice.count .committed u.failure = 0 ∧
      Notice.count .compensated u.failure = 0 ∧ u.places * Notice.count .failed u.failure = u.faults := by
  unfold faults failure isFault
  cases u.phase with
  | answered leaving answer =>
    cases answer with
    | ok value => exact ⟨rfl, rfl, rfl, Nat.mul_zero _⟩
    | error fault => exact ⟨rfl, rfl, rfl, Nat.mul_one _⟩
  | _ => exact ⟨rfl, rfl, rfl, Nat.mul_zero _⟩

/-- What a monitor counts while a saga goes on: it ends at most once, and may fail. -/
theorem Advances.counts (h : u.Advances s after) (hover : u.isOver = false)
    (hwiring : u.run.wiring = u.opening.wiring u.runtime) :
    after.2.count .started = s.count .started ∧
      after.2.count .committed + after.2.count .compensated + u.places * u.status.ends =
        s.count .committed + s.count .compensated + u.places * after.1.status.ends ∧
      after.2.count .failed + u.faults = s.count .failed + after.1.faults := by
  obtain ⟨news, hnext, hsends⟩ := h.news
  obtain ⟨hstarted, hfailed, hends⟩ := hnext.count
  obtain ⟨hstarted', hcommitted', hcompensated', hfailed'⟩ := after.1.count_failure
  have hplaces : monitors u.run.wiring.audience = u.places := by rw [hwiring]; rfl
  have hplaces' : after.1.places = u.places := by rw [places, h.opening, h.runtime]; rfl
  have hnone : u.faults = 0 := by
    have hnone := u.count_failure.2.2.2
    rwa [failure_of_not_over hover, eq_comm] at hnone
  have hcount : ∀ kind, after.2.count kind =
      s.count kind + u.places * (Notice.count kind news + Notice.count kind after.1.failure) := by
    intro kind
    rw [hsends.count, hplaces, Notice.count_append]
  refine ⟨?_, ?_, ?_⟩
  · rw [hcount, hstarted, hstarted']
    rfl
  · rw [hcount, hcount, hcommitted', hcompensated', ← hends]
    simp only [Nat.add_zero, Nat.mul_add]
    omega
  · rw [hcount, hfailed, Nat.zero_add, hnone, ← hfailed', hplaces']
    rfl

end Undertaking

end Coordination.Saga
