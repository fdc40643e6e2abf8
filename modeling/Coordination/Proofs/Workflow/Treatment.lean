import Coordination.Proofs.Workflow.Custody

/-!
# The treatment of events

An event is treated in four stages: the process is found or begun, moved, ended, and saved. Only the last one touches
the shelf, so a treatment that fails leaves every record and the directory as they were. One that succeeds files a
single record, and never another one in the place of a record that has ended (`Office.handle_cases`).
-/

namespace Coordination.Workflow

variable {S : Type}

namespace Record

variable {r next : Record S} {now : Millis}

theorem requireRunning_eq_ok : r.requireRunning = .ok () ↔ r.isTerminal = false := by
  unfold requireRunning
  cases r.isTerminal <;> simp

theorem move_ok [DecidableEq S] {chart : Chart S} {target : S} (h : r.move chart now target = .ok next) :
    r.isTerminal = false ∧ chart.allows r.state target = true ∧
      next = { r with state := target, updatedAt := r.touchedAt now } := by
  unfold move at h
  cases hrunning : r.requireRunning with
  | error fault =>
    rw [hrunning] at h
    cases h
  | ok _ =>
    rw [hrunning] at h
    refine ⟨requireRunning_eq_ok.1 hrunning, ?_⟩
    unfold Chart.check at h
    cases hallows : chart.allows r.state target with
    | false => simp [hallows] at h
    | true => simpa [hallows, eq_comm] using h

theorem finish_ok {ending : Ending} (h : r.finish ending now = .ok next) :
    r.isTerminal = false ∧ next = { r with
      status := ending.status, error := ending.error, updatedAt := r.touchedAt now } := by
  unfold finish at h
  cases hrunning : r.requireRunning with
  | error fault =>
    rw [hrunning] at h
    cases h
  | ok _ =>
    rw [hrunning] at h
    exact ⟨requireRunning_eq_ok.1 hrunning, by simpa [eq_comm] using h⟩

/-- `next` takes the place of `r`: the process and its deadline are the same, and a process that has ended is left as it
is. -/
structure Follows (next r : Record S) : Prop where
  id : next.id = r.id
  deadline : next.deadline = r.deadline
  ended : r.isTerminal = true → next = r

private theorem Follows.refl (r : Record S) : r.Follows r := ⟨rfl, rfl, fun _ => rfl⟩

private theorem Follows.trans {last : Record S} (h : last.Follows next) (h' : next.Follows r) : last.Follows r where
  id := h.id.trans h'.id
  deadline := h.deadline.trans h'.deadline
  ended := fun hr => by
    have hnext := h'.ended hr
    exact (h.ended (hnext ▸ hr)).trans hnext

theorem Follows.of_running (hid : next.id = r.id) (hdeadline : next.deadline = r.deadline) (hr : r.isTerminal = false) :
    next.Follows r where
  id := hid
  deadline := hdeadline
  ended := fun h => by
    rw [hr] at h
    cases h

end Record

namespace Office

variable [ToString S] {o : Office S} {now : Millis}

/-! ### Finding, moving and ending -/

theorem store_finish (ending : Ending) (r : Record S) (o : Office S) (now : Millis) :
    (o.finish now ending r).2.store = o.store := by
  unfold finish
  split <;> rfl

private theorem finish_follows {ending : Ending} {r next : Record S} (h : (o.finish now ending r).1 = .ok next) :
    next.Follows r := by
  unfold finish at h
  split at h
  · cases h
  · rename_i heq
    cases h
    obtain ⟨hr, rfl⟩ := Record.finish_ok heq
    exact .of_running rfl rfl hr

private theorem store_finishWith (ending : Option Ending) (r : Record S) (o : Office S) (now : Millis) :
    (o.finishWith now ending r).2.store = o.store := by
  cases ending with
  | none => rfl
  | some ending => exact store_finish ending r o now

private theorem finishWith_follows {ending : Option Ending} {r next : Record S}
    (h : (o.finishWith now ending r).1 = .ok next) : next.Follows r := by
  cases ending with
  | none =>
    cases h
    exact .refl r
  | some ending => exact finish_follows h

/-- The identifier of the process that an event begins, if it begins one. -/
def begun? (e : Event S) (o : Office S) : Option ProcessId :=
  match e.raises, (o.findByCorrelation e.key).1 with
  | none, .ok none => if e.begins then some (o.identify e.id).1 else none
  | _, _ => none

theorem store_start (now : Millis) (id : Option ProcessId) (key : Option String) (o : Office S) :
    (o.start now id key).2.store = o.store := by
  cases id <;> rfl

private theorem inner_resolve (now : Millis) (e : Event S) (o : Office S) :
    (o.resolve now e).2.store.inner = o.store.inner := by
  have hinner := o.inner_findByCorrelation e.key
  unfold resolve
  cases hfind : o.findByCorrelation e.key with
  | mk answer o' =>
    rw [hfind] at hinner
    rcases answer with fault | _ | r
    · exact hinner
    · dsimp only
      split
      · exact (congrArg Guarded.inner (store_start now e.id (some e.key) o')).trans hinner
      · exact hinner
    · exact hinner

/-- The process of an event is a stored one or a new one. -/
private theorem resolve_ok {e : Event S} {r : Record S} (hsound : o.store.inner.Sound) (hraises : e.raises = none)
    (h : (o.resolve now e).1 = .ok r) : o.stored r.id = some r ∨ o.begun? e = some r.id := by
  have hfound : (o.findByCorrelation e.key).1 = .ok (some r) → o.stored r.id = some r := findByCorrelation_some hsound
  unfold resolve at h
  unfold begun?
  rw [hraises]
  cases hfind : o.findByCorrelation e.key with
  | mk answer o' =>
    rw [hfind] at h hfound
    rcases answer with fault | _ | r'
    · cases h
    · right
      dsimp only at h ⊢
      split at h
      · rename_i hbegins
        rw [if_pos hbegins]
        cases h
        have hissued : o'.issued = o.issued := by
          rw [show o' = (o.findByCorrelation e.key).2 by rw [hfind]]
          rfl
        unfold start identify
        cases e.id with
        | none => simp [Design.fresh, hissued]
        | some id => rfl
      · cases h
    · cases h
      exact Or.inl (hfound rfl)

variable [DecidableEq S]

private theorem store_moveTo (target : Option S) (r : Record S) (o : Office S) (now : Millis) :
    (o.moveTo now target r).2.store = o.store := by
  cases target with
  | none => rfl
  | some target =>
    unfold moveTo move
    dsimp only
    split <;> rfl

private theorem moveTo_follows {target : Option S} {r next : Record S} (h : (o.moveTo now target r).1 = .ok next) :
    next.Follows r := by
  cases target with
  | none =>
    cases h
    exact .refl r
  | some target =>
    unfold moveTo move at h
    dsimp only at h
    split at h
    · cases h
    · rename_i heq
      cases h
      obtain ⟨hr, -, rfl⟩ := Record.move_ok heq
      exact .of_running rfl rfl hr

/-! ### The treatment as a whole -/

/-- A treatment either fails, and the shelf is as it was, or it files one record: of a new process, or one that may take
the place of the record that the process had. -/
theorem handle_cases (now : Millis) (e : Event S) (o : Office S) :
    (∃ fault, (o.handle now e).1 = .error fault ∧ (o.handle now e).2.store.inner = o.store.inner) ∨
      ∃ next, (o.handle now e).1 = .ok next ∧
        (o.store.inner.Sound → (o.handle now e).2.store.inner.Sound ∧
          (o.begun? e = some next.id ∨ ∃ r, o.stored next.id = some r ∧ next.Follows r)) ∧
        ∀ id, (o.handle now e).2.stored id = if id = next.id then some next else o.stored id := by
  unfold handle
  cases hraises : e.raises with
  | some reason => exact Or.inl ⟨_, rfl, rfl⟩
  | none =>
    have hresolve : ∀ r, o.store.inner.Sound → (o.resolve now e).1 = .ok r →
        o.stored r.id = some r ∨ o.begun? e = some r.id := fun _ hsound => resolve_ok hsound hraises
    have hinner := inner_resolve now e o
    dsimp only
    generalize o.resolve now e = resolved at hresolve hinner
    obtain ⟨_ | r, o₁⟩ := resolved
    · exact Or.inl ⟨_, rfl, hinner⟩
    have hmove : ∀ next, (o₁.moveTo now e.target r).1 = .ok next → next.Follows r := fun _ => moveTo_follows
    have hstore := store_moveTo e.target r o₁ now
    dsimp only
    generalize o₁.moveTo now e.target r = moved at hmove hstore
    obtain ⟨_ | r₁, o₂⟩ := moved
    · exact Or.inl ⟨_, rfl, (congrArg Guarded.inner hstore).trans hinner⟩
    have hfinish : ∀ next, (o₂.finishWith now e.ending r₁).1 = .ok next → next.Follows r₁ :=
      fun _ => finishWith_follows
    have hstore' := store_finishWith e.ending r₁ o₂ now
    dsimp only
    generalize o₂.finishWith now e.ending r₁ = finished at hfinish hstore'
    obtain ⟨_ | r₂, o₃⟩ := finished
    · exact Or.inl ⟨_, rfl, (congrArg Guarded.inner (hstore'.trans hstore)).trans hinner⟩
    have hinner₃ : o₃.store.inner = o.store.inner := (congrArg Guarded.inner (hstore'.trans hstore)).trans hinner
    have hsave := o₃.save_cases r₂
    dsimp only
    generalize o₃.save r₂ = saved at hsave
    obtain ⟨_ | _, o₄⟩ := saved
    · rcases hsave with ⟨fault, -, hinner₄⟩ | ⟨h, -⟩
      · exact Or.inl ⟨_, rfl, hinner₄.trans hinner₃⟩
      · cases h
    · rcases hsave with ⟨fault, h, -⟩ | ⟨-, hsound, -, hstored⟩
      · cases h
      · have hfollows : r₂.Follows r := (hfinish r₂ rfl).trans (hmove r₁ rfl)
        refine Or.inr ⟨r₂, rfl, fun h => ⟨hsound (hinner₃ ▸ h), ?_⟩, ?_⟩
        · rcases hresolve r h rfl with hr | hbegun
          · exact Or.inr ⟨r, hfollows.id ▸ hr, hfollows⟩
          · exact Or.inl (hfollows.id ▸ hbegun)
        · intro id
          rw [hstored id]
          unfold stored
          rw [hinner₃]

end Office

end Coordination.Workflow
