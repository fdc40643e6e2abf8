import Coordination.Proofs.Workflow.Custody
import Coordination.Saga.Archive

/-!
# Keys that are taken over

The directory of a shelf leads from a key to one process, the last one that was saved under the key. The record of an
earlier process may go on carrying the key. It is not found under the key then, and it stays so when the process that
took the key over is gone (`Shelf.sole_not_found`). An archive of sagas keeps no directory and goes through its
records instead.

Let a single record carry a key. The archive of the same history finds it, and the shelf finds it exactly if its process
was the last one saved under the key (`Shelf.findByCorrelation_sole`).
-/

namespace Coordination.Workflow

variable {S : Type}

/-! ### The same history in an archive -/

/-- Sagas that stand for processes: each has the identifier of its process, in words, and the same key. -/
structure Counterpart (S : Type) where
  record : Record S → Saga.Record
  id_text : ∀ r, (record r).id.text = r.id.text
  correlation : ∀ r, (record r).correlation = r.correlation

namespace Counterpart

variable (k : Counterpart S)

/-- The change of an archive that corresponds to the change of a shelf. -/
def apply : Change S → Saga.Archive → Saga.Archive
  | .save r, a => a.save (k.record r)
  | .delete id, a => a.delete ⟨id.text⟩

/-- The archive after a history of changes. -/
def replay (changes : List (Change S)) : Saga.Archive := changes.foldl (fun a c => k.apply c a) .empty

/-- What the archive holds for a binding of the shelf. -/
def binding (b : ProcessId × Record S) : SagaId × Saga.Record := (⟨b.1.text⟩, k.record b.2)

private theorem replay_append (changes : List (Change S)) (c : Change S) :
    k.replay (changes ++ [c]) = k.apply c (k.replay changes) := by
  simp [replay, List.foldl_append]

private theorem binding_key (b : ProcessId × Record S) (id : ProcessId) : (k.binding b).1 = ⟨id.text⟩ ↔ b.1 = id := by
  obtain ⟨⟨text⟩, r⟩ := b
  obtain ⟨text'⟩ := id
  simp [binding]

/-- The archive holds what the shelf holds, in the same order. -/
private theorem replay_eq {changes : List (Change S)} {sh : Shelf S} (h : Shelf.replay changes = .ok sh) :
    k.replay changes = sh.records.map k.binding := by
  induction changes using List.reverseRecOn generalizing sh with
  | nil =>
    cases h
    rfl
  | append_singleton changes c ih =>
    obtain ⟨before, hbefore, hfiled⟩ := Filed.replay changes
    rw [Shelf.replay_append, hbefore] at h
    rw [k.replay_append, ih hbefore]
    have herase : ∀ id : ProcessId, (before.records.erase id).map k.binding =
        Table.erase ⟨id.text⟩ (before.records.map k.binding) :=
      fun id => Table.map_erase (fun b => k.binding_key b id) before.records
    cases c with
    | save r =>
      have hsave : before.save r = .ok sh := h
      rw [Shelf.save_eq hfiled.unlocked] at hsave
      cases hsave
      have hid : (k.record r).id = ⟨r.id.text⟩ := congrArg Ident.mk (k.id_text r)
      simp only [apply, Saga.Archive.save, Table.insert, List.map_append, herase, hid]
      rfl
    | delete id =>
      have hdelete : before.delete id = .ok sh := h
      rw [Shelf.delete_eq hfiled.unlocked] at hdelete
      cases hdelete
      exact (herase id).symm

end Counterpart

/-! ### A key that a single record carries -/

namespace Shelf

/-- Of the records on the shelf, `r` and no other carries the key. -/
structure Sole (key : String) (r : Record S) (sh : Shelf S) : Prop where
  mem : r ∈ sh.records.values
  carries : r.correlation = some key
  only : ∀ r' ∈ sh.records.values, r'.correlation = some key → r' = r

namespace Sole

variable {key : String} {r : Record S} {sh : Shelf S} {changes : List (Change S)}

/-- Who goes through all the records finds the one that carries the key. -/
private theorem find?_values (h : sh.Sole key r) :
    sh.records.values.find? (fun r => decide (r.correlation = some key)) = some r := by
  cases hfind : sh.records.values.find? (fun r => decide (r.correlation = some key)) with
  | none =>
    have hnone := List.find?_eq_none.1 hfind r h.mem
    simp [h.carries] at hnone
  | some r' =>
    have hcarries : r'.correlation = some key := by simpa using List.find?_some hfind
    rw [h.only r' (List.mem_of_find?_eq_some hfind) hcarries]

private theorem archived (h : sh.Sole key r) (hreplay : Shelf.replay changes = .ok sh) (k : Counterpart S) :
    (k.replay changes).findByCorrelation key = some (k.record r) := by
  have hvalues : (k.replay changes).values = sh.records.values.map k.record := by
    rw [k.replay_eq hreplay]
    simp [Table.values, Counterpart.binding]
  have hcarries : (fun r => decide (r.correlation = some key)) ∘ k.record =
      fun r : Record S => decide (r.correlation = some key) := by
    funext r'
    simp [k.correlation r']
  unfold Saga.Archive.findByCorrelation
  rw [hvalues, List.find?_map, hcarries, h.find?_values]
  rfl

/-- The record is the one that its process has in the end. -/
private theorem current (h : sh.Sole key r) (hfiled : Filed changes sh) (hsound : sh.Sound) :
    Workflow.current r.id changes = some r := by
  rw [← hfiled.records]
  exact hsound.mem_values.1 h.mem

/-- The directory leads to the record if its process is the last claimant of the key, and to no process if not. -/
private theorem lookup (h : sh.Sole key r) (hfiled : Filed changes sh) (hsound : sh.Sound) :
    sh.directory.lookup key = if claimant key changes = some r.id then some r.id else none := by
  have hr := h.current hfiled hsound
  by_cases hclaim : claimant key changes = some r.id
  · rw [if_pos hclaim]
    exact (hfiled.directory key r.id).2 ⟨hclaim, r, hr, h.carries⟩
  · rw [if_neg hclaim]
    cases hlookup : sh.directory.lookup key with
    | none => rfl
    | some id =>
      -- the record of this process carries the key, so it is the only one that does
      obtain ⟨hclaim', r', hr', hcarries⟩ := (hfiled.directory key id).1 hlookup
      have hid : r'.id = id := current_id hr'
      have hmem : r' ∈ sh.records.values := by
        rw [hsound.mem_values, hid, hfiled.records]
        exact hr'
      have hsame := h.only r' hmem hcarries
      subst hsame
      rw [hid] at hclaim
      exact absurd hclaim' hclaim

end Sole

/-- **Who finds a record by its key.** Let a single record on a shelf carry a key, after any history of saves and
deletes. A lookup on the shelf finds this record if its process was the last one that was saved under the key, and
nothing if another process was; an archive with the same history finds it in either case. -/
theorem findByCorrelation_sole (changes : List (Change S)) (k : Counterpart S) :
    ∃ sh, Shelf.replay changes = .ok sh ∧ ∀ key r, sh.Sole key r →
      sh.findByCorrelation key = .ok (if claimant key changes = some r.id then some r else none) ∧
      (k.replay changes).findByCorrelation key = some (k.record r) := by
  obtain ⟨sh, hreplay, hfiled⟩ := Filed.replay changes
  obtain ⟨hsound, -⟩ := sound_replay hreplay
  refine ⟨sh, hreplay, ?_⟩
  intro key r h
  refine ⟨?_, h.archived hreplay k⟩
  unfold findByCorrelation
  rw [h.lookup hfiled hsound]
  by_cases hclaim : claimant key changes = some r.id
  · rw [if_pos hclaim, if_pos hclaim]
    dsimp only
    rw [hfiled.findById, h.current hfiled hsound]
  · rw [if_neg hclaim, if_neg hclaim]

end Shelf

/-! ### The order of a cart -/

/-- An order that carries the key of a cart. -/
def cartOrder (id : String) : Record String :=
  ⟨⟨id⟩, "order", .running, "A", 0, 0, some "cart", none, none⟩

/-- A checkout that stands for an order. -/
def checkout : Counterpart String where
  record := fun r => { Saga.Record.pending ⟨r.id.text⟩ "checkout" r.startedAt with correlation := r.correlation }
  id_text := fun _ => rfl
  correlation := fun _ => rfl

/-- An order takes the key over and takes it back again before the other one is deleted. -/
def takenBack : List (Change String) :=
  [.save (cartOrder "p1"), .save (cartOrder "p2"), .save (cartOrder "p1"), .delete ⟨"p2"⟩]

theorem Shelf.findByCorrelation_takenBack :
    ∃ sh, Shelf.replay takenBack = .ok sh ∧ sh.Sole "cart" (cartOrder "p1") ∧
      sh.findByCorrelation "cart" = .ok (some (cartOrder "p1")) ∧
      (checkout.replay takenBack).findByCorrelation "cart" = some (checkout.record (cartOrder "p1")) := by
  obtain ⟨sh, hreplay, hfound⟩ := Shelf.findByCorrelation_sole takenBack checkout
  have hrecords : sh.records.values = [cartOrder "p1"] := by
    cases hreplay
    rfl
  have hsole : sh.Sole "cart" (cartOrder "p1") := by
    refine ⟨?_, rfl, ?_⟩
    · rw [hrecords]
      exact List.mem_singleton.2 rfl
    · intro r hr _
      rw [hrecords] at hr
      exact List.mem_singleton.1 hr
  exact ⟨sh, hreplay, hsole, hfound "cart" (cartOrder "p1") hsole⟩

/-- After a takeover, the shelf does not find the one record that carries the key, but the archive does. -/
theorem Shelf.sole_not_found :
    let changes : List (Change String) := [.save (cartOrder "p1"), .save (cartOrder "p2"), .delete ⟨"p2"⟩]
    ∃ sh, Shelf.replay changes = .ok sh ∧ sh.Sole "cart" (cartOrder "p1") ∧ sh.findByCorrelation "cart" = .ok none ∧
      (checkout.replay changes).findByCorrelation "cart" = some (checkout.record (cartOrder "p1")) := by
  refine ⟨_, rfl, ⟨?_, rfl, ?_⟩, rfl, rfl⟩
  · exact List.mem_singleton.2 rfl
  · intro r hr _
    exact List.mem_singleton.1 hr

end Coordination.Workflow
