import Coordination.Workflow.Shelf
import Mathlib.Data.List.Induction

/-!
# Correlation on a shelf

A shelf is changed by saves and deletes. What is on it after a history of changes can be read off the history alone:
`current` is the record that a process has in the end, `claimant` the process whose record was the last one saved
under a key. The key facts: the directory leads from a key to a process exactly if this process is the last claimant
of the key and its record still carries the key (`Filed`), every change keeps it so (`Filed.apply`), and therefore
a lookup by key finds the record of the last claimant, or nothing (`findByCorrelation_replay`).
-/

namespace Coordination.Workflow

variable {S : Type}

/-! ### The directory -/

namespace Directory

private theorem lookup_enter (key key' : String) (id : ProcessId) (d : Directory) :
    (d.enter key id).lookup key' = if key' = key then some id else d.lookup key' :=
  Table.find?_insert key key' id d

private theorem lookup_strikeIf (key key' : String) (id : ProcessId) (d : Directory) :
    (d.strikeIf key id).lookup key' = if key' = key ∧ d.lookup key = some id then none else d.lookup key' := by
  unfold strikeIf
  split
  · rename_i h
    have hs : (d.strike key).lookup key' = if key' = key then none else d.lookup key' :=
      Table.find?_erase key key' d
    simp [hs, h]
  · rename_i h
    simp [h]

/-- The directory after `id` gave up the key `old`, if it had one. -/
def release (old : Option String) (id : ProcessId) (d : Directory) : Directory :=
  match old with
  | some key => d.strikeIf key id
  | none => d

private theorem lookup_release (old : Option String) (key : String) (id : ProcessId) (d : Directory) :
    (d.release old id).lookup key = if old = some key ∧ d.lookup key = some id then none else d.lookup key := by
  cases old with
  | none => simp [release]
  | some k =>
    unfold release
    rw [lookup_strikeIf]
    by_cases hk : k = key
    · subst hk; simp
    · simp [hk, Ne.symm hk]

end Directory

namespace Shelf

/-- Filing a record away enters its key; for every other key it makes no difference whether the old one was kept. -/
private theorem lookup_refile (previous : Option (Record S)) (r : Record S) (d : Directory) (key : String) :
    (refile previous r d).lookup key =
      if r.correlation = some key then some r.id
      else (d.release (previous.bind Record.correlation) r.id).lookup key := by
  have hold : r.correlation ≠ some key → ((match previous.bind Record.correlation with
      | some old => if r.correlation = some old then d else d.strikeIf old r.id
      | none => d : Directory).lookup key) = (d.release (previous.bind Record.correlation) r.id).lookup key := by
    intro hr
    rw [Directory.lookup_release]
    cases previous.bind Record.correlation with
    | none => simp
    | some old =>
      by_cases ho : old = key
      · subst ho
        simp [hr, Directory.lookup_strikeIf]
      · dsimp only
        split
        · simp [ho]
        · simp [Directory.lookup_strikeIf, ho, Ne.symm ho]
  unfold refile
  cases hc : r.correlation with
  | none =>
    rw [hc] at hold
    exact hold (by simp)
  | some new =>
    rw [hc] at hold
    dsimp only
    rw [Directory.lookup_enter]
    by_cases hk : key = new
    · simp [hk]
    · rw [if_neg hk, if_neg fun h => hk (Option.some.inj h).symm]
      exact hold fun h => hk (Option.some.inj h).symm

/-- The directory leads to processes whose record carries the key, and to no others. -/
def Leads (sh : Shelf S) : Prop :=
  ∀ key id, sh.directory.lookup key = some id → ∃ r, sh.records.find? id = some r ∧ r.correlation = some key

/-- A process that gives its key up is the only one that loses it. -/
theorem Leads.lookup_release {sh : Shelf S} (h : sh.Leads) (gone : ProcessId) (key : String) :
    (sh.directory.release ((sh.records.find? gone).bind Record.correlation) gone).lookup key =
      (sh.directory.lookup key).filter (· ≠ gone) := by
  rw [Directory.lookup_release]
  cases hl : sh.directory.lookup key with
  | none => simp
  | some id =>
    by_cases hid : id = gone
    · subst hid
      obtain ⟨r, hr, hkey⟩ := h key id hl
      simp [hr, hkey, Option.filter_some]
    · simp [hid, Option.filter_some]

/-- To file a record away enters its key, and takes its other keys from its process. -/
theorem Leads.lookup_refile {sh : Shelf S} (h : sh.Leads) (r : Record S) (key : String) :
    (refile (sh.records.find? r.id) r sh.directory).lookup key =
      if r.correlation = some key then some r.id else (sh.directory.lookup key).filter (· ≠ r.id) := by
  rw [Shelf.lookup_refile, h.lookup_release]

theorem save_eq {sh : Shelf S} (h : sh.poisoned = false) (r : Record S) :
    sh.save r = .ok { sh with
      records := sh.records.insert r.id r, directory := refile (sh.records.find? r.id) r sh.directory } := by
  simp [save, open?, h]

theorem delete_eq {sh : Shelf S} (h : sh.poisoned = false) (id : ProcessId) :
    sh.delete id = .ok { sh with
      records := sh.records.erase id
      directory := sh.directory.release ((sh.records.find? id).bind Record.correlation) id } := by
  simp only [delete, open?, h, Bool.false_eq_true, ↓reduceIte]
  rfl

end Shelf

/-! ### Histories of changes -/

/-- A change of a shelf. -/
inductive Change (S : Type) where
  | save (r : Record S)
  | delete (id : ProcessId)

namespace Change

/-- The process that is changed. -/
def id : Change S → ProcessId
  | .save r => r.id
  | .delete id => id

/-- The record that the process has afterwards. -/
def record? : Change S → Option (Record S)
  | .save r => some r
  | .delete _ => none

/-- The process that a change files under `key`, if it files one there. -/
def claimant? (key : String) : Change S → Option ProcessId
  | .save r => if r.correlation = some key then some r.id else none
  | .delete _ => none

def apply : Change S → Shelf S → Except StorageFault (Shelf S)
  | .save r, sh => sh.save r
  | .delete id, sh => sh.delete id

end Change

/-- The record that `id` has after a history of changes, oldest first. -/
def current (id : ProcessId) (changes : List (Change S)) : Option (Record S) :=
  (changes.reverse.find? fun c => c.id = id).bind Change.record?

/-- The process of the last save under `key`. -/
def claimant (key : String) (changes : List (Change S)) : Option ProcessId :=
  changes.reverse.findSome? (Change.claimant? key)

/-- The shelf after a history of changes. -/
def Shelf.replay (changes : List (Change S)) : Except StorageFault (Shelf S) :=
  changes.foldlM (fun sh c => c.apply sh) Shelf.empty

private theorem current_append (id : ProcessId) (changes : List (Change S)) (c : Change S) :
    current id (changes ++ [c]) = if c.id = id then c.record? else current id changes := by
  unfold current
  rw [List.reverse_append, List.reverse_singleton, List.singleton_append, List.find?_cons]
  by_cases h : c.id = id <;> simp [h]

private theorem claimant_append (key : String) (changes : List (Change S)) (c : Change S) :
    claimant key (changes ++ [c]) = (c.claimant? key).or (claimant key changes) := by
  unfold claimant
  rw [List.reverse_append, List.reverse_singleton, List.singleton_append, List.findSome?_cons]
  cases c.claimant? key <;> rfl

theorem current_id {id : ProcessId} {changes : List (Change S)} {r : Record S}
    (h : current id changes = some r) : r.id = id := by
  obtain ⟨c, hc, hr⟩ := Option.bind_eq_some_iff.1 h
  have hid : c.id = id := by simpa using List.find?_some hc
  cases c with
  | save r' =>
    obtain rfl : r' = r := Option.some.inj hr
    exact hid
  | delete _ => cases hr

/-! ### The invariant -/

/-- A shelf holds what its history says, and its directory leads to the last claimant of a key as long as the record
of this process carries the key. -/
structure Filed (changes : List (Change S)) (sh : Shelf S) : Prop where
  unlocked : sh.poisoned = false
  records : ∀ id, sh.records.find? id = current id changes
  directory : ∀ key id, sh.directory.lookup key = some id ↔
    claimant key changes = some id ∧ ∃ r, current id changes = some r ∧ r.correlation = some key

namespace Filed

variable {changes : List (Change S)} {sh : Shelf S}

theorem empty : Filed ([] : List (Change S)) Shelf.empty where
  unlocked := rfl
  records _ := rfl
  directory key id := by simp [Shelf.empty, Directory.lookup, Table.find?, claimant]

theorem leads (h : Filed changes sh) : sh.Leads := by
  intro key id hl
  obtain ⟨-, r, hr, hkey⟩ := (h.directory key id).1 hl
  exact ⟨r, (h.records id).trans hr, hkey⟩

private theorem lookup_release (h : Filed changes sh) (gone id : ProcessId) (key : String) :
    (sh.directory.release ((current gone changes).bind Record.correlation) gone).lookup key = some id ↔
      id ≠ gone ∧ sh.directory.lookup key = some id := by
  rw [← h.records, h.leads.lookup_release]
  simp [Option.filter_eq_some_iff, and_comm]

private theorem save (h : Filed changes sh) (r : Record S) :
    ∃ sh', sh.save r = .ok sh' ∧ Filed (changes ++ [.save r]) sh' := by
  refine ⟨_, Shelf.save_eq h.unlocked r, h.unlocked, ?_, ?_⟩
  · intro id
    rw [Table.find?_insert, current_append, h.records]
    by_cases hid : id = r.id
    · simp [hid, Change.id, Change.record?]
    · simp [hid, Ne.symm hid, Change.id]
  · intro key id
    rw [Shelf.lookup_refile, h.records, claimant_append, current_append]
    by_cases hkey : r.correlation = some key
    · simp only [hkey, ↓reduceIte, Change.claimant?, Option.some_or, Option.some.injEq]
      constructor
      · rintro rfl
        exact ⟨rfl, r, by simp [Change.id, Change.record?], hkey⟩
      · exact fun hr => hr.1
    · rw [if_neg hkey, h.lookup_release, h.directory]
      by_cases hid : r.id = id
      · subst hid
        simp [Change.claimant?, Change.id, Change.record?, hkey]
      · simp [Change.claimant?, Change.id, hkey, hid, Ne.symm hid]

private theorem delete (h : Filed changes sh) (gone : ProcessId) :
    ∃ sh', sh.delete gone = .ok sh' ∧ Filed (changes ++ [.delete gone]) sh' := by
  refine ⟨_, Shelf.delete_eq h.unlocked gone, h.unlocked, ?_, ?_⟩
  · intro id
    rw [Table.find?_erase, current_append, h.records]
    by_cases hid : id = gone
    · simp [hid, Change.id, Change.record?]
    · simp [hid, Ne.symm hid, Change.id]
  · intro key id
    rw [h.records, h.lookup_release, h.directory, claimant_append, current_append]
    by_cases hid : gone = id
    · subst hid
      simp [Change.id, Change.record?]
    · simp [Change.claimant?, Change.id, hid, Ne.symm hid]

/-- Every change succeeds and keeps the shelf filed. -/
theorem apply (h : Filed changes sh) (c : Change S) :
    ∃ sh', c.apply sh = .ok sh' ∧ Filed (changes ++ [c]) sh' := by
  cases c with
  | save r => exact h.save r
  | delete id => exact h.delete id

theorem findById (h : Filed changes sh) (id : ProcessId) : sh.findById id = .ok (current id changes) := by
  simp [Shelf.findById, Shelf.open?, h.unlocked, h.records]

end Filed

theorem Shelf.replay_append (changes : List (Change S)) (c : Change S) :
    Shelf.replay (changes ++ [c]) = Shelf.replay changes >>= c.apply := by
  unfold Shelf.replay
  rw [List.foldlM_append]
  congr 1
  funext sh
  simp

theorem Filed.replay (changes : List (Change S)) : ∃ sh, Shelf.replay changes = .ok sh ∧ Filed changes sh := by
  induction changes using List.reverseRecOn with
  | nil => exact ⟨Shelf.empty, rfl, Filed.empty⟩
  | append_singleton changes c ih =>
    obtain ⟨sh, hrun, hfiled⟩ := ih
    obtain ⟨sh', hstep, hfiled'⟩ := hfiled.apply c
    refine ⟨sh', ?_, hfiled'⟩
    rw [Shelf.replay_append, hrun]
    exact hstep

/-- A lookup by key after any history of changes finds the record of the last claimant of the key if it still carries
the key, and nothing otherwise; so the directory never leads to a process that is gone or has another key. -/
theorem Shelf.findByCorrelation_replay (changes : List (Change S)) :
    ∃ sh, Shelf.replay changes = .ok sh ∧
      (∀ id, sh.findById id = .ok (current id changes)) ∧
      (∀ key, sh.findByCorrelation key =
        .ok ((claimant key changes).bind fun id =>
          (current id changes).filter fun r => r.correlation = some key)) ∧
      ∀ key id, sh.directory.lookup key = some id →
        ∃ r, sh.findById id = .ok (some r) ∧ r.id = id ∧ r.correlation = some key := by
  obtain ⟨sh, hrun, h⟩ := Filed.replay changes
  refine ⟨sh, hrun, h.findById, ?_, ?_⟩
  · intro key
    unfold Shelf.findByCorrelation
    cases hl : sh.directory.lookup key with
    | some id =>
      obtain ⟨hclaim, r, hr, hk⟩ := (h.directory key id).1 hl
      simp [h.findById, hclaim, hr, Option.filter_some, hk]
    | none =>
      cases hclaim : claimant key changes with
      | none => rfl
      | some id =>
        -- the last claimant is gone or has another key, else the directory would lead to it
        have hlost : (current id changes).filter (fun r => r.correlation = some key) = none := by
          rw [Option.filter_eq_none_iff]
          intro r hr hk
          have := (h.directory key id).2 ⟨hclaim, r, hr, by simpa using hk⟩
          rw [hl] at this
          cases this
        simp [hlost]
  · intro key id hl
    obtain ⟨-, r, hr, hk⟩ := (h.directory key id).1 hl
    exact ⟨r, by rw [h.findById, hr], current_id hr, hk⟩

end Coordination.Workflow
