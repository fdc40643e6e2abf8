import Coordination.Proofs.Workflow.Correlation
import Coordination.Workflow.Office

/-!
# The custody of records

A shelf is sound if every record on it is filed once, under the identifier of its process; every history of saves and
deletes leads to a sound one (`Shelf.sound_replay`). Then the list of the records and the lookup by identifier say the
same (`Shelf.Sound.mem_values`). Reading calls of an office leave its shelf
alone, and a save either fails and leaves it alone too, or files one record (`Office.save_cases`), whatever faults are
planned. An office is healthy if its shelf is sound and no call fails.
-/

namespace Coordination.Workflow

variable {S : Type}

namespace Shelf

/-- Every record is filed once, under the identifier of its process. -/
structure Sound (sh : Shelf S) : Prop where
  keys : sh.records.keys.Nodup
  filed : ∀ b ∈ sh.records, b.2.id = b.1

namespace Sound

variable {sh : Shelf S}

theorem empty : (Shelf.empty : Shelf S).Sound where
  keys := List.nodup_nil
  filed := fun _ hb => nomatch hb

theorem id_eq (h : sh.Sound) {id : ProcessId} {r : Record S} (hr : sh.records.find? id = some r) : r.id = id :=
  h.filed (id, r) ((Table.find?_eq_some_iff h.keys).1 hr)

theorem mem_values (h : sh.Sound) {r : Record S} :
    r ∈ sh.records.values ↔ sh.records.find? r.id = some r := by
  rw [Table.find?_eq_some_iff h.keys]
  constructor
  · intro hr
    obtain ⟨b, hb, rfl⟩ := List.mem_map.1 hr
    rw [h.filed b hb]
    exact hb
  · exact fun hr => List.mem_map_of_mem hr

theorem nodup_ids (h : sh.Sound) : (sh.records.values.map Record.id).Nodup := by
  have hids : sh.records.values.map Record.id = sh.records.keys := by
    rw [Table.values, Table.keys, List.map_map]
    exact List.map_congr_left h.filed
  rw [hids]
  exact h.keys

theorem insert (h : sh.Sound) (r : Record S) (directory : Directory) :
    Sound { sh with records := sh.records.insert r.id r, directory := directory } where
  keys := Table.nodup_keys_insert h.keys
  filed := by
    intro b hb
    rcases List.mem_append.1 hb with hb | hb
    · exact h.filed b (List.mem_filter.1 hb).1
    · rw [List.mem_singleton.1 hb]

theorem erase (h : sh.Sound) (id : ProcessId) (directory : Directory) :
    Sound { sh with records := sh.records.erase id, directory := directory } where
  keys := Table.nodup_keys_erase h.keys
  filed := fun b hb => h.filed b (List.mem_filter.1 hb).1

end Sound

theorem sound_replay {changes : List (Change S)} {sh : Shelf S} (h : Shelf.replay changes = .ok sh) :
    sh.Sound ∧ sh.poisoned = false := by
  induction changes using List.reverseRecOn generalizing sh with
  | nil =>
    cases h
    exact ⟨Sound.empty, rfl⟩
  | append_singleton changes c ih =>
    obtain ⟨before, hbefore, -⟩ := Filed.replay changes
    obtain ⟨hsound, hunlocked⟩ := ih hbefore
    rw [replay_append, hbefore] at h
    cases c with
    | save r =>
      have hsave : before.save r = .ok sh := h
      rw [save_eq hunlocked] at hsave
      cases hsave
      exact ⟨hsound.insert r _, hunlocked⟩
    | delete id =>
      have hdelete : before.delete id = .ok sh := h
      rw [delete_eq hunlocked] at hdelete
      cases hdelete
      exact ⟨hsound.erase id _, hunlocked⟩

theorem open?_eq_ok {sh : Shelf S} {records : Table ProcessId (Record S)} :
    sh.open? = .ok records ↔ sh.poisoned = false ∧ sh.records = records := by
  unfold open?
  cases sh.poisoned <;> simp

theorem findById_eq_ok {sh : Shelf S} {id : ProcessId} {found : Option (Record S)} :
    sh.findById id = .ok found ↔ sh.poisoned = false ∧ sh.records.find? id = found := by
  unfold findById
  cases hopen : sh.open? with
  | error fault =>
    refine ⟨nofun, fun h => ?_⟩
    rw [open?_eq_ok.2 ⟨h.1, rfl⟩] at hopen
    cases hopen
  | ok records =>
    obtain ⟨hunlocked, rfl⟩ := open?_eq_ok.1 hopen
    simp [hunlocked]

/-- Only a poisoned shelf fails to answer a lookup. -/
theorem findByCorrelation_answers {sh : Shelf S} (h : sh.poisoned = false) (key : String) :
    ∃ found, sh.findByCorrelation key = .ok found := by
  unfold findByCorrelation
  split
  · exact ⟨_, findById_eq_ok.2 ⟨h, rfl⟩⟩
  · exact ⟨none, rfl⟩

/-- The shelf with `r` in the place of the record that its process had. -/
def put (r : Record S) (sh : Shelf S) : Shelf S :=
  { sh with records := sh.records.insert r.id r, directory := refile (sh.records.find? r.id) r sh.directory }

theorem find?_put (r : Record S) (sh : Shelf S) (id : ProcessId) :
    (sh.put r).records.find? id = if id = r.id then some r else sh.records.find? id :=
  Table.find?_insert r.id id r sh.records

theorem save_eq_ok {sh sh' : Shelf S} {r : Record S} :
    sh.save r = .ok sh' ↔ sh.poisoned = false ∧ sh.put r = sh' := by
  unfold save
  cases hopen : sh.open? with
  | error fault =>
    refine ⟨nofun, fun h => ?_⟩
    rw [open?_eq_ok.2 ⟨h.1, rfl⟩] at hopen
    cases hopen
  | ok records =>
    obtain ⟨hunlocked, rfl⟩ := open?_eq_ok.1 hopen
    simp [hunlocked, put]

/-- A save that succeeds files the record and no other. -/
theorem save_ok {sh sh' : Shelf S} {r : Record S} (h : sh.save r = .ok sh') :
    (sh.Sound → sh'.Sound) ∧ sh'.poisoned = sh.poisoned ∧
      ∀ id, sh'.records.find? id = if id = r.id then some r else sh.records.find? id := by
  obtain ⟨-, rfl⟩ := save_eq_ok.1 h
  exact ⟨fun hs => hs.insert r _, rfl, sh.find?_put r⟩

/-- A record that is found under a key is one of the shelf's records. -/
private theorem findByCorrelation_some {sh : Shelf S} {key : String} {r : Record S}
    (h : sh.findByCorrelation key = .ok (some r)) : ∃ id, sh.records.find? id = some r := by
  unfold findByCorrelation at h
  split at h
  · rename_i id _
    exact ⟨id, (findById_eq_ok.1 h).2⟩
  · cases h

end Shelf

namespace Office

/-- The record of a process, whatever faults are planned. -/
def stored (id : ProcessId) (o : Office S) : Option (Record S) := o.store.inner.records.find? id

private theorem mapError_eq_ok {ε ε' α : Type} {x : Except ε α} {f : ε → ε'} {a : α} :
    x.mapError f = .ok a ↔ x = .ok a := by
  cases x <;> simp [Except.mapError]

/-! ### Reading calls -/

theorem inner_load (id : ProcessId) (o : Office S) : (o.load id).2.store.inner = o.store.inner :=
  Guarded.inner_ask ..

theorem inner_findByCorrelation (key : String) (o : Office S) :
    (o.findByCorrelation key).2.store.inner = o.store.inner :=
  Guarded.inner_ask ..

theorem inner_findByStatus (status : Status) (o : Office S) :
    (o.findByStatus status).2.store.inner = o.store.inner :=
  Guarded.inner_ask ..

/-- What is loaded is what is stored. -/
theorem stored_of_load {id : ProcessId} {o : Office S} {found : Option (Record S)} (h : (o.load id).1 = .ok found) :
    o.stored id = found :=
  (Shelf.findById_eq_ok.1 (Guarded.read_of_ask (mapError_eq_ok.1 h))).2

/-- A loaded record is the stored one. -/
theorem load_some {id : ProcessId} {o : Office S} {r : Record S} (h : (o.load id).1 = .ok (some r)) :
    o.stored id = some r :=
  stored_of_load h

/-- What is found under a key is found on the shelf. -/
theorem found_of_findByCorrelation {key : String} {o : Office S} {found : Option (Record S)}
    (h : (o.findByCorrelation key).1 = .ok found) : o.store.inner.findByCorrelation key = .ok found :=
  Guarded.read_of_ask (mapError_eq_ok.1 h)

/-- A record that is found under a key is stored under its identifier. -/
theorem findByCorrelation_some {key : String} {o : Office S} {r : Record S} (hsound : o.store.inner.Sound)
    (h : (o.findByCorrelation key).1 = .ok (some r)) : o.stored r.id = some r := by
  obtain ⟨id, hr⟩ := Shelf.findByCorrelation_some (found_of_findByCorrelation h)
  rw [hsound.id_eq hr]
  exact hr

/-- The records that are found by their status are stored under their identifiers. -/
theorem stored_of_findByStatus {status : Status} {o : Office S} {rs : List (Record S)} (hsound : o.store.inner.Sound)
    (h : (o.findByStatus status).1 = .ok rs) {r : Record S} (hr : r ∈ rs) : o.stored r.id = some r := by
  have hread := Guarded.read_of_ask (mapError_eq_ok.1 h)
  unfold Shelf.findByStatus at hread
  split at hread
  · cases hread
  · rename_i records hopen
    obtain ⟨-, rfl⟩ := Shelf.open?_eq_ok.1 hopen
    cases hread
    exact hsound.mem_values.1 (List.mem_filter.1 hr).1

/-! ### Saves -/

/-- A save either fails and changes nothing on the shelf, or does what a save on the shelf does. -/
theorem save_written (r : Record S) (o : Office S) :
    (∃ fault, (o.save r).1 = .error fault ∧ (o.save r).2.store.inner = o.store.inner) ∨
      ((o.save r).1 = .ok () ∧ o.store.inner.save r = .ok (o.save r).2.store.inner) := by
  unfold save
  dsimp only
  rcases o.store.change_cases .save (Shelf.save r) with ⟨fault, hanswer, hinner⟩ | ⟨hanswer, hwrite⟩
  · rw [hanswer]
    exact Or.inl ⟨_, rfl, hinner⟩
  · rw [hanswer]
    exact Or.inr ⟨rfl, hwrite⟩

/-- A save either fails and changes nothing on the shelf, or files the record and no other. -/
theorem save_cases (r : Record S) (o : Office S) :
    (∃ fault, (o.save r).1 = .error fault ∧ (o.save r).2.store.inner = o.store.inner) ∨
      ((o.save r).1 = .ok () ∧ (o.store.inner.Sound → (o.save r).2.store.inner.Sound) ∧
        (o.save r).2.store.inner.poisoned = o.store.inner.poisoned ∧
        ∀ id, (o.save r).2.stored id = if id = r.id then some r else o.stored id) := by
  rcases o.save_written r with hfailed | ⟨hanswer, hwrite⟩
  · exact Or.inl hfailed
  · exact Or.inr ⟨hanswer, Shelf.save_ok hwrite⟩

end Office

end Coordination.Workflow
