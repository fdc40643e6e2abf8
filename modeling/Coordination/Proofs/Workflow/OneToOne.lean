import Coordination.Proofs.Workflow.Course
import Coordination.Proofs.Workflow.Permanence

/-!
# One process for each key

The store lets any number of records carry a key. That at most one does is due to the pattern by which workflows treat
their events: a process is begun under a key only if none answers to it. The directory is then as good as a search
through the records (`Shelf.Indexed`): it leads from a key to a process exactly if the record of this process carries
the key. A save keeps it so if no other process has the key of the record (`Shelf.Indexed.put`), and treatments and
expiries only save such records. So no event is treated with a second process while there is one for its key
(`Watch.one_process_per_key`).
-/

namespace Coordination.Workflow

variable {S : Type}

/-! ### The directory as an index -/

namespace Shelf

/-- The directory leads from a key to a process exactly if the record of the process carries the key. -/
structure Indexed (sh : Shelf S) : Prop where
  sound : sh.Sound
  leads : sh.Leads
  found : ∀ id r key, sh.records.find? id = some r → r.correlation = some key → sh.directory.lookup key = some id

theorem Leads.put {sh : Shelf S} (h : sh.Leads) (r : Record S) : (sh.put r).Leads := by
  intro key id hlookup
  have hlookup := (h.lookup_refile r key).symm.trans hlookup
  rw [find?_put]
  by_cases hkey : r.correlation = some key
  · rw [if_pos hkey, Option.some.injEq] at hlookup
    exact ⟨r, if_pos hlookup.symm, hkey⟩
  · rw [if_neg hkey, Option.filter_eq_some_iff, decide_eq_true_eq] at hlookup
    rw [if_neg hlookup.2]
    exact h key id hlookup.1

namespace Indexed

variable {sh : Shelf S}

private theorem empty : (Shelf.empty : Shelf S).Indexed where
  sound := .empty
  leads := nofun
  found := nofun

/-- Two processes do not have the same key. -/
private theorem unique (h : sh.Indexed) {id id' : ProcessId} {r r' : Record S} {key : String}
    (hr : sh.records.find? id = some r) (hr' : sh.records.find? id' = some r') (hkey : r.correlation = some key)
    (hkey' : r'.correlation = some key) : id = id' :=
  Option.some.inj ((h.found id r key hr hkey).symm.trans (h.found id' r' key hr' hkey'))

/-- A record may be filed if no other process has its key. -/
theorem put (h : sh.Indexed) {r : Record S}
    (halone : ∀ key id r', r.correlation = some key → sh.records.find? id = some r' → r'.correlation = some key →
      id = r.id) : (sh.put r).Indexed where
  sound := h.sound.insert r _
  leads := h.leads.put r
  found := by
    intro id r' key hr' hkey'
    rw [find?_put] at hr'
    refine (h.leads.lookup_refile r key).trans ?_
    by_cases hid : id = r.id
    · rw [if_pos hid, Option.some.injEq] at hr'
      rw [hr', if_pos hkey', ← hr', hid]
    · rw [if_neg hid] at hr'
      rw [if_neg fun hkey => hid (halone key id r' hkey hr' hkey'), h.found id r' key hr' hkey']
      simp [hid, Option.filter_some]

private theorem delete (h : sh.Indexed) {sh' : Shelf S} {gone : ProcessId} (hdelete : sh.delete gone = .ok sh') :
    sh'.Indexed := by
  have hunlocked : sh.poisoned = false := by
    cases hpoisoned : sh.poisoned with
    | false => rfl
    | true => simp [Shelf.delete, open?, hpoisoned] at hdelete
  rw [delete_eq hunlocked] at hdelete
  obtain rfl := Except.ok.inj hdelete
  have hlookup := h.leads.lookup_release gone
  have hfind : ∀ id, (sh.records.erase gone).find? id = if id = gone then none else sh.records.find? id :=
    fun id => Table.find?_erase gone id sh.records
  refine ⟨h.sound.erase gone _, ?_, ?_⟩
  · intro key id hl
    have hl := (hlookup key).symm.trans hl
    rw [Option.filter_eq_some_iff, decide_eq_true_eq] at hl
    dsimp only
    rw [hfind, if_neg hl.2]
    exact h.leads key id hl.1
  · intro id r key hr hkey
    dsimp only at hr ⊢
    rw [hfind] at hr
    by_cases hid : id = gone
    · rw [if_pos hid] at hr
      cases hr
    · rw [if_neg hid] at hr
      rw [hlookup, h.found id r key hr hkey]
      simp [hid, Option.filter_some]

/-- What a lookup finds is the record that carries the key. -/
private theorem found_iff (h : sh.Indexed) {key : String} {found : Option (Record S)}
    (hfound : sh.findByCorrelation key = .ok found) (id : ProcessId) (r : Record S) :
    found = some r ∧ id = r.id ↔ sh.records.find? id = some r ∧ r.correlation = some key := by
  unfold findByCorrelation at hfound
  constructor
  · rintro ⟨rfl, rfl⟩
    split at hfound
    · rename_i id hlookup
      obtain ⟨r', hr', hkey⟩ := h.leads key id hlookup
      rw [(findById_eq_ok.1 hfound).2, Option.some.injEq] at hr'
      subst hr'
      have hr := (findById_eq_ok.1 hfound).2
      rw [h.sound.id_eq hr]
      exact ⟨hr, hkey⟩
    · cases hfound
  · rintro ⟨hr, hkey⟩
    rw [h.found id r key hr hkey] at hfound
    exact ⟨(findById_eq_ok.1 hfound).2.symm.trans hr, (h.sound.id_eq hr).symm⟩

end Indexed

end Shelf

namespace Office

/-! ### What keeps the index -/

private theorem indexed_delete {o : Office S} (h : o.store.inner.Indexed) (id : ProcessId) :
    (o.delete id).2.store.inner.Indexed := by
  rcases o.store.change_cases .delete (Shelf.delete id) with ⟨fault, -, hinner⟩ | ⟨-, hwrite⟩
  · exact hinner ▸ h
  · exact h.delete hwrite

private theorem indexed_breakOff {o : Office S} (h : o.store.inner.Indexed) : o.breakOff.2.store.inner.Indexed := by
  rcases o.inner_breakOff with hinner | hinner
  · exact hinner ▸ h
  · rw [hinner]
    exact ⟨⟨h.sound.keys, h.sound.filed⟩, h.leads, h.found⟩

/-- Of the stored records, at most that of the recipient carries the key. -/
private theorem IsRecipient.alone {o : Office S} (h : o.store.inner.Indexed) {t : Treatment S} {r : Record S}
    (hrecipient : o.IsRecipient t r) : r.correlation = some t.key ∧
      ∀ id r', o.stored id = some r' → r'.correlation = some t.key → id = r.id ∧ r' = r := by
  rcases hrecipient with hfound | ⟨hnone, hkey⟩
  · refine ⟨((h.found_iff hfound r.id r).1 ⟨rfl, rfl⟩).2, ?_⟩
    intro id r' hr' hkey'
    obtain ⟨hsame, hid⟩ := (h.found_iff hfound id r').2 ⟨hr', hkey'⟩
    obtain rfl := Option.some.inj hsame
    exact ⟨hid, rfl⟩
  · refine ⟨hkey, ?_⟩
    intro id r' hr' hkey'
    cases ((h.found_iff hnone id r').2 ⟨hr', hkey'⟩).1

variable [ToString S] {o : Office S}

private theorem indexed_expire (h : o.store.inner.Indexed) (now : Millis) (id : ProcessId) :
    (o.expire now id).2.store.inner.Indexed := by
  rcases o.expire_written now id with hinner | ⟨r, next, hr, hfinish, hwrite⟩
  · exact hinner ▸ h
  · obtain ⟨-, rfl⟩ := Record.finish_ok hfinish
    obtain ⟨-, hput⟩ := Shelf.save_eq_ok.1 hwrite
    rw [← hput]
    refine h.put ?_
    -- the record that is ended has the key of the stored one
    intro key id' r' hkey hr' hkey'
    exact (h.unique hr' hr hkey' hkey).trans (h.sound.id_eq hr).symm

variable [DecidableEq S]

private theorem indexed_treat (h : o.store.inner.Indexed) (now : Millis) (t : Treatment S) :
    (o.treat now t).2.store.inner.Indexed := by
  obtain ⟨_, -, ⟨_, -, hinner, -⟩ | ⟨r, hrecipient, -, ⟨_, -, hinner⟩ | ⟨next, -, hid, hcorrelation, hwrite⟩⟩⟩ :=
    o.treat_cases now t
  · exact hinner ▸ h
  · exact hinner ▸ h
  · obtain ⟨-, hput⟩ := Shelf.save_eq_ok.1 hwrite
    obtain ⟨hkey, halone⟩ := hrecipient.alone h
    rw [← hput]
    refine h.put ?_
    intro key id r' hnext hr' hkey'
    rw [hcorrelation, hkey] at hnext
    obtain rfl := Option.some.inj hnext
    exact (halone id r' hr' hkey').1.trans hid.symm

end Office

/-! ### Runs -/

/-- What is done to a watch whose processes can also be deleted, and whose workflow treats its events as it likes. -/
inductive Dealing (S : Type) where
  | command (c : Command S)
  | treat (t : Treatment S)
  | delete (id : ProcessId)

section

variable [ToString S] [DecidableEq S] (s : Alarm.Setting Expiry (Office S))

def Dealing.carryOut : Dealing S → Watch S → Watch S
  | .command c, w => c.carryOut s w
  | .treat t, w => { w with outside := (w.outside.treat w.clock t).2 }
  | .delete id, w => { w with outside := (w.outside.delete id).2 }

namespace Watch

/-- Dealings one after the other. -/
def deal (dealings : List (Dealing S)) (w : Watch S) : Watch S := dealings.foldl (fun w d => d.carryOut s w) w

variable {s} (hs : s.act = Office.expireOnAlarm)

include hs

private theorem indexed_carryOut (d : Dealing S) {w : Watch S} (h : w.outside.store.inner.Indexed) :
    (d.carryOut s w).outside.store.inner.Indexed := by
  cases d with
  | command c =>
    have hinner : ∀ o o' : Office S, o'.store.inner = o.store.inner → o.store.inner.Indexed →
        o'.store.inner.Indexed := fun _ _ hsame ho => hsame ▸ ho
    refine keeps_carryOut hs hinner (fun now id _ ho => Office.indexed_expire ho now id)
      (fun _ ho => Office.indexed_breakOff ho) c h ?_
    intro e _
    rw [Office.handle_eq_treat]
    exact Office.indexed_treat h w.clock e.treatment
  | treat t => exact Office.indexed_treat h w.clock t
  | delete id => exact Office.indexed_delete h id

private theorem indexed_deal (dealings : List (Dealing S)) {w : Watch S} (h : w.outside.store.inner.Indexed) :
    (w.deal s dealings).outside.store.inner.Indexed := by
  induction dealings generalizing w with
  | nil => exact h
  | cons d dealings ih => exact ih (indexed_carryOut hs d h)

/-- **One process for each key.** Let a watch with an empty store be used in any way: events are treated by any courses,
processes expire or are deleted, alarms go off, and calls of the store fail at any point. No two stored processes have
the same key. If the store does not fail, a lookup finds a record exactly if it is stored and carries the key. And as
long as a process with the key of an event is stored, the event is not treated with another one: only this process is
announced, answered and saved. -/
theorem one_process_per_key {w : Watch S} (hempty : w.outside.store.inner = .empty) (dealings : List (Dealing S)) :
    let o := (w.deal s dealings).outside
    (∀ key id id' r r', o.stored id = some r → o.stored id' = some r' → r.correlation = some key →
      r'.correlation = some key → id = id' ∧ r = r') ∧
      (∀ key, o.store.plan .findByCorrelation o.store.calls = none → o.store.inner.poisoned = false →
        ∃ found, (o.findByCorrelation key).1 = .ok found ∧
          ∀ id r, found = some r ∧ id = r.id ↔ o.stored id = some r ∧ r.correlation = some key) ∧
      ∀ now t id r, o.stored id = some r → r.correlation = some t.key →
        (∀ next, (o.treat now t).1 = .ok next → next.id = id) ∧
          (∀ other, other ≠ id → (o.treat now t).2.stored other = o.stored other) ∧
          ∃ notices, (o.treat now t).2.chronicle.sent = o.chronicle.sent ++ notices ∧
            ∀ n ∈ notices, n.process = id := by
  intro o
  have h : o.store.inner.Indexed := indexed_deal hs dealings (hempty ▸ Shelf.Indexed.empty)
  refine ⟨?_, ?_, ?_⟩
  · intro key id id' r r' hr hr' hkey hkey'
    obtain rfl := h.unique hr hr' hkey hkey'
    exact ⟨rfl, Option.some.inj (hr.symm.trans hr')⟩
  · intro key hplan hunlocked
    obtain ⟨found, hfound⟩ := Shelf.findByCorrelation_answers hunlocked key
    refine ⟨found, ?_, h.found_iff hfound⟩
    unfold Office.findByCorrelation
    rw [Guarded.ask_ok hplan, hfound]
    rfl
  · intro now t id r hr hkey
    -- whatever process the treatment gets to, it is the one that has the key
    have hsame : ∀ r', o.IsRecipient t r' → r'.id = id := by
      intro r' hrecipient
      exact ((hrecipient.alone h).2 id r hr hkey).1.symm
    obtain ⟨notices, hsent, ⟨fault, hanswer, hinner, rfl⟩ |
      ⟨r', hrecipient, habout, ⟨fault, hanswer, hinner⟩ | ⟨next, hanswer, hid, -, hwrite⟩⟩⟩ := o.treat_cases now t
    · refine ⟨fun next hnext => by simp [hanswer] at hnext, fun other _ => ?_, [], hsent, nofun⟩
      exact congrArg (fun sh : Shelf S => sh.records.find? other) hinner
    · refine ⟨fun next hnext => by simp [hanswer] at hnext, fun other _ => ?_, notices, hsent, ?_⟩
      · exact congrArg (fun sh : Shelf S => sh.records.find? other) hinner
      · exact fun n hn => (habout n hn).trans (hsame r' hrecipient)
    · have hnext : next.id = id := hid.trans (hsame r' hrecipient)
      refine ⟨?_, ?_, notices, hsent, fun n hn => (habout n hn).trans (hsame r' hrecipient)⟩
      · intro next' hnext'
        rw [hanswer] at hnext'
        exact Except.ok.inj hnext' ▸ hnext
      · intro other hother
        refine ((Shelf.save_ok hwrite).2.2 other).trans (if_neg ?_)
        rw [hnext]
        exact hother

end Watch

end

namespace Watch

/-- An order for a key, begun under an identifier if there is none. -/
def bid (key id : String) (ops : List (Operation Nat)) : Dealing Nat :=
  .treat ⟨key, none, .ok (some ⟨id⟩), fun _ => .inTurn ops⟩

/-- The order of a basket takes the place of the paid one of a cart. Another order of the cart is given up halfway, a
third one cannot be saved. Then the order of the basket expires. -/
def bazaar : List (Dealing Nat) :=
  [bid "cart" "p" [.move 1], bid "basket" "p" [.postpone 12],
    .command (.guard ⟨⟨"p"⟩, "order", .running, 0, 5, 5, some "basket", some 12, none⟩),
    bid "cart" "q" [.finish .completed, .move 1], .command (.fail (.failing [.save] "full")), bid "cart" "q" [],
    .command (.fail .healthy), .command (.call (.sweep 20))]

theorem one_process_per_key_bazaar :
    shop.outside.store.inner = .empty ∧
      let o := (shop.deal Watch.setting bazaar).outside
      o.stored ⟨"p"⟩ = some ⟨⟨"p"⟩, "order", .timedOut, 0, 5, 5, some "basket", some 12, none⟩ ∧
        (o.findByCorrelation "cart").1 = .ok none ∧
        (∀ id r, o.stored id = some r → r.correlation = some "basket" → id = ⟨"p"⟩) ∧
        ∀ now t next, t.key = "basket" → (o.treat now t).1 = .ok next → next.id = ⟨"p"⟩ := by
  have hstored : (shop.deal Watch.setting bazaar).outside.stored ⟨"p"⟩ =
      some ⟨⟨"p"⟩, "order", .timedOut, 0, 5, 5, some "basket", some 12, none⟩ := by decide +kernel
  obtain ⟨hunique, -, hrouted⟩ := one_process_per_key (s := Watch.setting) (w := shop) rfl rfl bazaar
  refine ⟨rfl, hstored, by decide +kernel, ?_, ?_⟩
  · intro id r hr hkey
    exact (hunique "basket" id _ r _ hr hstored hkey rfl).1
  · intro now t next hkey hnext
    exact (hrouted now t _ _ hstored (congrArg some hkey.symm)).1 next hnext

end Watch

end Coordination.Workflow
