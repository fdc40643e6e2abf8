import Coordination.Proofs.Workflow.Correlation

/-!
# A poisoned shelf

A save or a delete that breaks off while it holds the lock on the records leaves the shelf as far as it got, and poisons
the lock. To say so, the writing calls are given in place (`Shelf.saveInPlace`, `Shelf.deleteInPlace`): what has been
changed before a call ends early stays changed. Calls that are not cut short do what `Shelf.save` and `Shelf.delete` do
(`saveInPlace_none`, `deleteInPlace_none`).

The records come before the directory, and only code of the states can break off; so a save that breaks off has not
reached the directory. Every later call finds the lock poisoned before it changes anything, and the directory alone
answers: a key that it does not know is known to belong to nobody (`Shelf.poisoned_for_good`).
-/

namespace Coordination.Workflow

variable {S : Type}

/-! ### Calls in place -/

/-- Where a call can break off that holds the lock: a state is copied before its record is filed, and the state of a
record that makes room is disposed of afterwards. -/
inductive Mishap where
  | copying
  | disposing
  deriving DecidableEq, Repr

inductive Reply (S : Type) where
  | done
  /-- The call did not come to its end. -/
  | brokenOff
  | refused (fault : StorageFault)
  | found (r : Option (Record S))
  | listed (rs : List (Record S))
  | counted (n : Nat)
  | told (b : Bool)
  deriving DecidableEq, Repr

/-- The reply to a reading call. -/
def Reply.ofRead {α : Type} (tell : α → Reply S) : Except StorageFault α → Reply S
  | .ok a => tell a
  | .error fault => .refused fault

/-- The reply to a writing call, and the shelf afterwards, if a call that fails writes nothing. -/
def Reply.ofWrite (reply : Reply S) (sh : Shelf S) : Except StorageFault (Shelf S) → Reply S × Shelf S
  | .ok sh' => (reply, sh')
  | .error fault => (.refused fault, sh)

namespace Shelf

/-- The shelf that a call leaves behind which breaks off. -/
def wrecked (sh : Shelf S) : Shelf S := { sh with poisoned := true }

/-- Saves a record, and may meet with a mishap; only a record that was there can be disposed of. -/
def saveInPlace (mishap : Option Mishap) (r : Record S) (sh : Shelf S) : Reply S × Shelf S :=
  match sh.open? with
  | .error fault => (.refused fault, sh)
  | .ok records =>
    if mishap = some .copying then (.brokenOff, sh.wrecked)
    else
      let previous := records.find? r.id
      let sh := { sh with records := records.insert r.id r }
      if mishap = some .disposing ∧ previous.isSome then (.brokenOff, sh.wrecked)
      else (.done, { sh with directory := refile previous r sh.directory })

/-- Deletes a record, and may meet with a mishap. -/
def deleteInPlace (mishap : Option Mishap) (id : ProcessId) (sh : Shelf S) : Reply S × Shelf S :=
  match sh.open? with
  | .error fault => (.refused fault, sh)
  | .ok records =>
    let previous := records.find? id
    let sh := { sh with records := records.erase id }
    if mishap = some .disposing ∧ previous.isSome then (.brokenOff, sh.wrecked)
    else (.done, { sh with directory := sh.directory.release (previous.bind Record.correlation) id })

theorem saveInPlace_none (r : Record S) (sh : Shelf S) :
    sh.saveInPlace none r = Reply.ofWrite .done sh (sh.save r) := by
  unfold saveInPlace save
  cases sh.open? <;> rfl

theorem deleteInPlace_none (id : ProcessId) (sh : Shelf S) :
    sh.deleteInPlace none id = Reply.ofWrite .done sh (sh.delete id) := by
  unfold deleteInPlace delete
  cases sh.open? <;> rfl

/-- A save that breaks off at once changes nothing but the lock. -/
theorem saveInPlace_copying (r : Record S) (sh : Shelf S) :
    sh.saveInPlace (some .copying) r = Reply.ofWrite .brokenOff sh sh.breakOff := by
  unfold saveInPlace breakOff
  cases sh.open? <;> rfl

end Shelf

/-- How a writing call in place comes out that does `write` if nothing cuts it short: it is refused and changes nothing,
or it is done, or it breaks off before it reaches the directory. -/
inductive Written (sh : Shelf S) (write : Except StorageFault (Shelf S)) : Reply S × Shelf S → Prop where
  | refused (hpoisoned : sh.poisoned = true) : Written sh write (.refused .poisoned, sh)
  | done {sh' : Shelf S} (hunlocked : sh.poisoned = false) (hwrite : write = .ok sh') : Written sh write (.done, sh')
  | brokenOff {records : Table ProcessId (Record S)} (hunlocked : sh.poisoned = false) :
      Written sh write (.brokenOff, { sh with records := records, poisoned := true })

private theorem Shelf.open?_of_unlocked {sh : Shelf S} (h : sh.poisoned = false) : sh.open? = .ok sh.records := by
  simp only [open?, h, Bool.false_eq_true, ↓reduceIte]

private theorem Shelf.open?_of_poisoned {sh : Shelf S} (h : sh.poisoned = true) : sh.open? = .error .poisoned := by
  simp only [open?, h, ↓reduceIte]

namespace Written

variable {sh : Shelf S}

private theorem saveInPlace (mishap : Option Mishap) (r : Record S) (sh : Shelf S) :
    Written sh (sh.save r) (sh.saveInPlace mishap r) := by
  unfold Shelf.saveInPlace Shelf.save
  rcases Bool.eq_false_or_eq_true sh.poisoned with hpoisoned | hunlocked
  · rw [Shelf.open?_of_poisoned hpoisoned]
    exact .refused hpoisoned
  · rw [Shelf.open?_of_unlocked hunlocked]
    dsimp only
    by_cases hcopying : mishap = some .copying
    · rw [if_pos hcopying]
      exact .brokenOff hunlocked
    · rw [if_neg hcopying]
      split
      · exact .brokenOff hunlocked
      · exact .done hunlocked rfl

private theorem deleteInPlace (mishap : Option Mishap) (id : ProcessId) (sh : Shelf S) :
    Written sh (sh.delete id) (sh.deleteInPlace mishap id) := by
  unfold Shelf.deleteInPlace
  rcases Bool.eq_false_or_eq_true sh.poisoned with hpoisoned | hunlocked
  · rw [Shelf.open?_of_poisoned hpoisoned]
    exact .refused hpoisoned
  · rw [Shelf.open?_of_unlocked hunlocked, Shelf.delete_eq hunlocked]
    dsimp only
    split
    · exact .brokenOff hunlocked
    · exact .done hunlocked rfl

/-- A call that breaks off was let in, and the directory is out of its reach. -/
private theorem of_brokenOff {write : Except StorageFault (Shelf S)} {result : Reply S × Shelf S}
    (h : Written sh write result) (hbroken : result.1 = .brokenOff) :
    sh.poisoned = false ∧ result.2.poisoned = true ∧ result.2.directory = sh.directory := by
  cases h with
  | refused => cases hbroken
  | done => cases hbroken
  | brokenOff hunlocked => exact ⟨hunlocked, rfl, rfl⟩

end Written

/-! ### Requests -/

/-- What is asked of a shelf. Reading calls hold no lock that can be poisoned, so one that breaks off leaves no trace.
-/
inductive Request (S : Type) where
  | save (mishap : Option Mishap) (r : Record S)
  | delete (mishap : Option Mishap) (id : ProcessId)
  | findById (id : ProcessId)
  | findByCorrelation (key : String)
  | findByStatus (status : Status)
  | findExpired (now : Millis)
  | size
  | isEmpty

namespace Request

def perform : Request S → Shelf S → Reply S × Shelf S
  | .save mishap r, sh => sh.saveInPlace mishap r
  | .delete mishap id, sh => sh.deleteInPlace mishap id
  | .findById id, sh => (.ofRead .found (sh.findById id), sh)
  | .findByCorrelation key, sh => (.ofRead .found (sh.findByCorrelation key), sh)
  | .findByStatus status, sh => (.ofRead .listed (sh.findByStatus status), sh)
  | .findExpired now, sh => (.ofRead .listed (sh.findExpired now), sh)
  | .size, sh => (.counted sh.size, sh)
  | .isEmpty, sh => (.told sh.isEmpty, sh)

/-- What a poisoned shelf replies whose directory is `d`. -/
def refusal (d : Directory) : Request S → Reply S
  | .findByCorrelation key => if (d.lookup key).isSome then .refused .poisoned else .found none
  | .size => .counted 0
  | .isEmpty => .told true
  | _ => .refused .poisoned

end Request

/-- Requests one after the other, with the replies. -/
def Shelf.serve : List (Request S) → Shelf S → List (Reply S) × Shelf S
  | [], sh => ([], sh)
  | q :: requests, sh =>
    let (reply, sh) := q.perform sh
    let (replies, sh) := sh.serve requests
    (reply :: replies, sh)

/-! ### Before the lock is poisoned -/

/-- As long as its lock is sound, a shelf is what its completed changes have made of it. -/
def Shelf.Orderly (sh : Shelf S) : Prop := sh.poisoned = false → ∃ changes, Filed changes sh

namespace Shelf.Orderly

variable {sh : Shelf S}

private theorem empty : (Shelf.empty : Shelf S).Orderly := fun _ => ⟨[], .empty⟩

private theorem written (h : sh.Orderly) (c : Change S) {result : Reply S × Shelf S}
    (hwritten : Written sh (c.apply sh) result) :
    result.2.Orderly := by
  cases hwritten with
  | refused => exact h
  | brokenOff => exact nofun
  | done hunlocked hwrite =>
    obtain ⟨changes, hfiled⟩ := h hunlocked
    obtain ⟨sh', happly, hfiled'⟩ := hfiled.apply c
    rw [happly] at hwrite
    cases hwrite
    exact fun _ => ⟨_, hfiled'⟩

private theorem perform (h : sh.Orderly) (q : Request S) : (q.perform sh).2.Orderly := by
  cases q with
  | save mishap r => exact h.written (.save r) (.saveInPlace mishap r sh)
  | delete mishap id => exact h.written (.delete id) (.deleteInPlace mishap id sh)
  | findById id => exact h
  | findByCorrelation key => exact h
  | findByStatus status => exact h
  | findExpired now => exact h
  | size => exact h
  | isEmpty => exact h

private theorem serve (h : sh.Orderly) (requests : List (Request S)) : (sh.serve requests).2.Orderly := by
  induction requests generalizing sh with
  | nil => exact h
  | cons q requests ih => exact ih (h.perform q)

/-- A lookup under a key that finds nothing is one under a key that the directory does not know. -/
private theorem findByCorrelation_none (h : sh.Orderly) (hunlocked : sh.poisoned = false) (key : String) :
    sh.findByCorrelation key = .ok none ↔ sh.directory.lookup key = none := by
  obtain ⟨changes, hfiled⟩ := h hunlocked
  unfold findByCorrelation
  cases hlookup : sh.directory.lookup key with
  | none => simp
  | some id =>
    obtain ⟨-, r, hr, -⟩ := (hfiled.directory key id).1 hlookup
    simp [hfiled.findById, hr]

end Shelf.Orderly

/-! ### Afterwards -/

/-- Everything that needs the records is refused for good, and the directory `d` has the last word about keys. -/
structure Shelf.Shut (d : Directory) (sh : Shelf S) : Prop where
  directory : sh.directory = d
  save : ∀ r, sh.save r = .error .poisoned
  delete : ∀ id, sh.delete id = .error .poisoned
  findById : ∀ id, sh.findById id = .error .poisoned
  findByStatus : ∀ status, sh.findByStatus status = .error .poisoned
  findExpired : ∀ now, sh.findExpired now = .error .poisoned
  size : sh.size = 0
  isEmpty : sh.isEmpty = true
  unknown : ∀ key, d.lookup key = none → sh.findByCorrelation key = .ok none
  known : ∀ key, d.lookup key ≠ none → sh.findByCorrelation key = .error .poisoned

private theorem Shelf.shut_of_poisoned {sh : Shelf S} (h : sh.poisoned = true) : sh.Shut sh.directory := by
  have hopen := open?_of_poisoned h
  have hfind : ∀ id, sh.findById id = .error .poisoned := by simp [findById, hopen]
  have hstatus : ∀ status, sh.findByStatus status = .error .poisoned := by simp [findByStatus, hopen]
  have hsize : sh.size = 0 := by simp [size, hopen]
  refine ⟨rfl, by simp [save, hopen], by simp [delete, hopen], hfind, hstatus, by simp [findExpired, hstatus], hsize,
    by simp [isEmpty, hsize], ?_, ?_⟩
  · intro key hlookup
    simp [findByCorrelation, hlookup]
  · intro key hlookup
    obtain ⟨id, hid⟩ := Option.ne_none_iff_exists'.1 hlookup
    simp [findByCorrelation, hid, hfind]

/-- A poisoned shelf replies to every request, and stays as it is. -/
private theorem Request.perform_of_poisoned {sh : Shelf S} (h : sh.poisoned = true) (q : Request S) :
    q.perform sh = (q.refusal sh.directory, sh) := by
  have hopen := Shelf.open?_of_poisoned h
  have hshut := Shelf.shut_of_poisoned h
  cases q with
  | save mishap r => simp [perform, refusal, Shelf.saveInPlace, hopen]
  | delete mishap id => simp [perform, refusal, Shelf.deleteInPlace, hopen]
  | findById id => simp [perform, refusal, Reply.ofRead, hshut.findById]
  | findByStatus status => simp [perform, refusal, Reply.ofRead, hshut.findByStatus]
  | findExpired now => simp [perform, refusal, Reply.ofRead, hshut.findExpired]
  | size => simp [perform, refusal, hshut.size]
  | isEmpty => simp [perform, refusal, hshut.isEmpty]
  | findByCorrelation key =>
    cases hlookup : sh.directory.lookup key with
    | none => simp [perform, refusal, Reply.ofRead, hlookup, hshut.unknown key hlookup]
    | some id => simp [perform, refusal, Reply.ofRead, hlookup, hshut.known key (by simp [hlookup])]

private theorem Shelf.serve_of_poisoned {sh : Shelf S} (h : sh.poisoned = true) (requests : List (Request S)) :
    sh.serve requests = (requests.map (Request.refusal sh.directory), sh) := by
  induction requests with
  | nil => rfl
  | cons q requests ih => simp only [serve, Request.perform_of_poisoned h, ih, List.map_cons]

/-- **A save that breaks off shuts the shelf for good.** Let a save break off while it holds the lock, after any
requests to a shelf that was empty at first, and let any requests follow. From then on nothing changes any more, neither
the records nor the directory, which is the one that the save found. Every call that needs the records is refused as the
lock is poisoned, and no records are counted. A lookup finds nothing under a key that the directory did not know, the
same keys under which it found nothing before the save; under any other key it is refused. -/
theorem Shelf.poisoned_for_good (history later : List (Request S)) (mishap : Mishap) (r : Record S)
    (hbroken : ((Shelf.empty.serve history).2.saveInPlace (some mishap) r).1 = .brokenOff) :
    let before := (Shelf.empty.serve history).2
    let wreck := (before.saveInPlace (some mishap) r).2
    let sh := (wreck.serve later).2
    sh = wreck ∧ sh.Shut before.directory ∧
      (wreck.serve later).1 = later.map (Request.refusal before.directory) ∧
      (∀ q : Request S, q.perform sh = (q.refusal before.directory, sh)) ∧
      ∀ key, before.directory.lookup key = none ↔ before.findByCorrelation key = .ok none := by
  intro before wreck sh
  have horderly : before.Orderly := Orderly.empty.serve history
  have hwritten : Written before (before.save r) (before.saveInPlace (some mishap) r) := .saveInPlace _ r before
  obtain ⟨hunlocked, hpoisoned, hdirectory⟩ := hwritten.of_brokenOff hbroken
  have hserve := serve_of_poisoned hpoisoned later
  have hsh : sh = wreck := congrArg Prod.snd hserve
  rw [hsh, hserve, ← hdirectory]
  exact ⟨rfl, shut_of_poisoned hpoisoned, rfl, Request.perform_of_poisoned hpoisoned,
    fun key => by rw [hdirectory]; exact (horderly.findByCorrelation_none hunlocked key).symm⟩

/-- An order that carries the key of a basket. -/
def basketOrder (id key : String) : Record String :=
  ⟨⟨id⟩, "order", .running, "A", 0, 0, some key, none, none⟩

/-- The order is to move from one basket to another, and the save breaks off when the old record is disposed of: the key
of the old basket is refused, that of the new one is unknown, and nothing helps any more. -/
theorem Shelf.poisoned_for_good_basket :
    let before : Shelf String := (Shelf.empty.serve [.save none (basketOrder "p1" "reed"),
      .save none (basketOrder "p2" "wire"), .delete none ⟨"p2"⟩]).2
    let later : List (Request String) := [.save none (basketOrder "p3" "wool"), .delete none ⟨"p1"⟩,
      .findByCorrelation "reed", .findByCorrelation "wool", .findByCorrelation "wire", .size]
    (before.saveInPlace (some .disposing) (basketOrder "p1" "wool")).1 = .brokenOff ∧
      ((before.saveInPlace (some .disposing) (basketOrder "p1" "wool")).2.serve later).1 =
        [.refused .poisoned, .refused .poisoned, .refused .poisoned, .found none, .found none, .counted 0] := by
  intro before later
  have hbroken : (before.saveInPlace (some .disposing) (basketOrder "p1" "wool")).1 = .brokenOff := by decide +kernel
  obtain ⟨-, -, hreplies, -⟩ := poisoned_for_good [.save none (basketOrder "p1" "reed"),
    .save none (basketOrder "p2" "wire"), .delete none ⟨"p2"⟩] later .disposing (basketOrder "p1" "wool") hbroken
  exact ⟨hbroken, hreplies.trans (by decide +kernel)⟩

end Coordination.Workflow
