import Coordination.Proofs.Workflow.Expiry
import Coordination.Proofs.Workflow.OneToOne

/-!
# Independent treatments

Two events with different keys, for different processes, can be treated in either order. They share the table of
records and the directory, and one that begins a process under the identifier of a stored one takes a key off the
directory that is not its own. What a treatment answers and announces depends only on the record that answers to its key
(`Office.Healthy.treat`); another treatment leaves this record alone (`Office.Treated.answering`), and what both file is
filed in either order (`Shelf.find?_put_comm`, `Shelf.Leads.lookup_put_comm`). So all that can be seen afterwards is the
same (`Office.treat_comm`).
-/

namespace Coordination.Workflow

variable {S : Type}

/-! ### Filing two records -/

namespace Shelf

theorem find?_put_comm {r r' : Record S} (hid : r.id ≠ r'.id) (sh : Shelf S) (id : ProcessId) :
    ((sh.put r).put r').records.find? id = ((sh.put r').put r).records.find? id := by
  simp only [find?_put]
  by_cases h : id = r.id
  · subst h
    simp [hid]
  · simp [h]

theorem Leads.lookup_put_comm {sh : Shelf S} (h : sh.Leads) {r r' : Record S} (hid : r.id ≠ r'.id)
    (hkey : ∀ key, r.correlation = some key → r'.correlation ≠ some key) (key : String) :
    ((sh.put r).put r').directory.lookup key = ((sh.put r').put r).directory.lookup key := by
  have hput : ∀ (sh : Shelf S), sh.Leads → ∀ r : Record S, (sh.put r).directory.lookup key =
      if r.correlation = some key then some r.id else (sh.directory.lookup key).filter (· ≠ r.id) :=
    fun _ hleads r => hleads.lookup_refile r key
  rw [hput _ (h.put r) r', hput _ (h.put r') r, hput _ h r, hput _ h r']
  by_cases hr : r.correlation = some key
  · rw [if_neg (hkey key hr), if_pos hr, if_pos hr]
    simp [hid, Option.filter_some]
  · by_cases hr' : r'.correlation = some key
    · rw [if_pos hr', if_pos hr', if_neg hr]
      simp [Ne.symm hid, Option.filter_some]
    · rw [if_neg hr, if_neg hr', if_neg hr, if_neg hr', Option.filter_filter, Option.filter_filter]
      simp only [Bool.and_comm]

/-- The shelf after a treatment with this answer. -/
def after : Except (Fault S) (Record S) → Shelf S → Shelf S
  | .ok r, sh => sh.put r
  | .error _, sh => sh

end Shelf

namespace Office

/-- The record that answers to a key. -/
def answering (key : String) (o : Office S) : Option (Record S) :=
  (o.store.inner.directory.lookup key).bind fun id => o.stored id

/-- The process that a treatment is for: the one that answers to the key, or the one that is begun under the given
identifier. -/
def concerned? (t : Treatment S) (o : Office S) : Option ProcessId :=
  match t.raises, o.answering t.key, t.unknown with
  | some _, _, _ => none
  | none, some r, _ => some r.id
  | none, none, .ok id => id
  | none, none, .error _ => none

/-- A treatment that begins a process does so under a given identifier. -/
def Given (t : Treatment S) (o : Office S) : Prop :=
  t.raises = none → o.answering t.key = none → t.unknown ≠ .ok none

private theorem concerned?_answering {t : Treatment S} {o : Office S} {r : Record S} (hraises : t.raises = none)
    (hr : o.answering t.key = some r) : o.concerned? t = some r.id := by
  unfold concerned?
  rw [hraises, hr]

private theorem Healthy.findByCorrelation {o : Office S} (h : o.Healthy) (key : String) :
    o.findByCorrelation key = (.ok (o.answering key), o.asked) := by
  have hfound : o.store.inner.findByCorrelation key = .ok (o.answering key) := by
    unfold Shelf.findByCorrelation answering
    cases o.store.inner.directory.lookup key with
    | none => rfl
    | some id => exact Shelf.findById_eq_ok.2 ⟨h.unlocked, rfl⟩
  unfold Office.findByCorrelation
  rw [Guarded.ask_ok (h.quiet _ _), hfound]
  rfl

/-- A save that no fault is planned for puts the record on the shelf. -/
private theorem Healthy.save_eq {o : Office S} (h : o.Healthy) (r : Record S) :
    ∃ o', o.save r = (.ok (), o') ∧ o'.Healthy ∧ o'.store.inner = o.store.inner.put r ∧ o'.design = o.design ∧
      o'.chronicle = o.chronicle := by
  obtain ⟨hanswer, hhealthy, -⟩ := h.save r
  refine ⟨(o.save r).2, Prod.ext hanswer rfl, hhealthy, ?_, rfl, rfl⟩
  rcases o.save_written r with ⟨fault, hfault, -⟩ | ⟨-, hwrite⟩
  · rw [hanswer] at hfault
    cases hfault
  · exact (Shelf.save_eq_ok.1 hwrite).2.symm

/-! ### What a treatment does -/

/-- From `o` to `o'`, an answer was given and notices were sent; the record that was made, if any, was filed. -/
structure Does (answer : Except (Fault S) (Record S)) (notices : List (Notice S)) (o o' : Office S) : Prop where
  healthy : o'.Healthy
  design : o'.design = o.design
  shelf : o'.store.inner = o.store.inner.after answer
  sent : o'.chronicle.sent = o.chronicle.sent ++ notices

private theorem correlation_of_answering {o : Office S} (hleads : o.store.inner.Leads) {key : String} {r : Record S}
    (hr : o.answering key = some r) : r.correlation = some key := by
  obtain ⟨id, hlookup, hstored⟩ := Option.bind_eq_some_iff.1 hr
  obtain ⟨r', hr', hkey⟩ := hleads key id hlookup
  rw [Option.some.inj (hstored.symm.trans hr')]
  exact hkey

/-- From `o` to `o'`, an event was treated: it was answered and announced, and all of this is about the process that the
treatment is for. -/
structure Treated (t : Treatment S) (answer : Except (Fault S) (Record S)) (notices : List (Notice S))
    (o o' : Office S) : Prop extends Does answer notices o o' where
  process : ∀ n ∈ notices, o.concerned? t = some n.process
  made : ∀ r, answer = .ok r → o.concerned? t = some r.id ∧ r.correlation = some t.key

/-- A treatment that is refused before it gets to a process. -/
private theorem Healthy.refused {o o' : Office S} (h : o'.Healthy) (t : Treatment S) (fault : Fault S)
    (hdesign : o'.design = o.design) (hshelf : o'.store.inner = o.store.inner) (hsent : o'.chronicle = o.chronicle) :
    Treated t (.error fault) [] o o' where
  healthy := h
  design := hdesign
  shelf := hshelf
  sent := by rw [hsent, List.append_nil]
  process := nofun
  made := nofun

/-- A treatment that gets to the process of `r`. -/
private theorem Does.treated {t : Treatment S} {r : Record S} {answer : Except (Fault S) (Record S)}
    {notices earlier : List (Notice S)} {o o₁ o' : Office S} (h : Does answer notices o₁ o')
    (hdesign : o₁.design = o.design) (hshelf : o₁.store.inner = o.store.inner)
    (hsent : o₁.chronicle.sent = o.chronicle.sent ++ earlier) (hearlier : ∀ n ∈ earlier, n.process = r.id)
    (hconfines : r.Confines answer notices) (hconcerned : o.concerned? t = some r.id)
    (hkey : r.correlation = some t.key) : Treated t answer (earlier ++ notices) o o' where
  healthy := h.healthy
  design := h.design.trans hdesign
  shelf := h.shelf.trans (congrArg (Shelf.after answer) hshelf)
  sent := by rw [h.sent, hsent, List.append_assoc]
  process := by
    intro n hn
    rw [hconcerned]
    rcases List.mem_append.1 hn with hn | hn
    · rw [hearlier n hn]
    · rw [hconfines.process n hn]
  made := by
    intro next hnext
    obtain ⟨hid, hcorrelation⟩ := hconfines.kept next hnext
    exact ⟨hconcerned.trans (congrArg some hid.symm), hcorrelation.trans hkey⟩

namespace Treated

variable {t t' : Treatment S} {answer : Except (Fault S) (Record S)} {notices : List (Notice S)} {o o' : Office S}

private theorem leads (h : Treated t answer notices o o') (hleads : o.store.inner.Leads) : o'.store.inner.Leads := by
  rw [h.shelf]
  cases answer with
  | ok r => exact hleads.put r
  | error fault => exact hleads

/-- A treatment for another key and another process leaves the record that answers to a key alone. -/
theorem answering (h : Treated t answer notices o o') (ho : o.Healthy) (hleads : o.store.inner.Leads) {key : String}
    (hkey : t.key ≠ key) (hother : ∀ r, o.answering key = some r → o.concerned? t ≠ some r.id) :
    o'.answering key = o.answering key := by
  unfold Office.answering stored
  rw [h.shelf]
  cases answer with
  | error fault => rfl
  | ok r =>
    obtain ⟨hconcerned, hcorrelation⟩ := h.made r rfl
    have hkey' : r.correlation ≠ some key := by
      rw [hcorrelation]
      exact fun hsame => hkey (Option.some.inj hsame)
    have hlookup : (o.store.inner.put r).directory.lookup key =
        (o.store.inner.directory.lookup key).filter (· ≠ r.id) :=
      (hleads.lookup_refile r key).trans (if_neg hkey')
    dsimp only [Shelf.after]
    rw [hlookup]
    cases hl : o.store.inner.directory.lookup key with
    | none => rfl
    | some id =>
      obtain ⟨r', hr', -⟩ := hleads key id hl
      have hanswering : o.answering key = some r' := by
        unfold Office.answering
        rw [hl]
        exact hr'
      -- the process that answers to the key is not the one that was treated
      have hne : id ≠ r.id := by
        rintro rfl
        refine hother r' hanswering ?_
        rw [hconcerned, ho.sound.id_eq hr']
      simp [hne, Option.filter_some, Shelf.find?_put]

end Treated

/-- Notices of two processes, in either order, are the same for each process. -/
private theorem filter_process_comm {id id' : Option ProcessId} (hne : ∀ i, id = some i → id' ≠ some i)
    {notices notices' : List (Notice S)} (h : ∀ n ∈ notices, id = some n.process)
    (h' : ∀ n ∈ notices', id' = some n.process) (i : ProcessId) :
    (notices ++ notices').filter (·.process = i) = (notices' ++ notices).filter (·.process = i) := by
  have hnone : notices.filter (·.process = i) = [] ∨ notices'.filter (·.process = i) = [] := by
    by_cases hi : id = some i
    · right
      rw [List.filter_eq_nil_iff]
      intro n hn hni
      exact hne i hi ((h' n hn).trans (congrArg some (of_decide_eq_true hni)))
    · left
      rw [List.filter_eq_nil_iff]
      intro n hn hni
      exact hi ((h n hn).trans (congrArg some (of_decide_eq_true hni)))
  rw [List.filter_append, List.filter_append]
  rcases hnone with hnone | hnone <;> rw [hnone] <;> simp

/-! ### One treatment -/

variable [ToString S] [DecidableEq S]

omit [DecidableEq S] in
private theorem Healthy.announceAll {o : Office S} (h : o.Healthy) (now : Millis) (notices : List (Notice S)) :
    (o.announceAll now notices).Healthy := by
  have hstore := (o.announceAll_frame now notices).1
  exact ⟨hstore ▸ h.sound, hstore ▸ h.unlocked, hstore ▸ h.quiet⟩

/-- What a record undergoes is the same in every office of the design that is in order. -/
private theorem Healthy.undergo (design : Design S) (now : Millis) (c : Course S) (r : Record S) :
    ∃ answer notices, r.Confines answer notices ∧ ∀ o : Office S, o.Healthy → o.design = design →
      (o.undergo now c r).1 = answer ∧ Does answer notices o (o.undergo now c r).2 := by
  obtain ⟨answer, notices, hconfines, hrun⟩ := c.run_eq design now r
  refine ⟨answer, notices, hconfines, ?_⟩
  intro o h hdesign
  obtain ⟨hstore, hdesign', hsent⟩ := o.announceAll_frame now notices
  unfold Office.undergo
  rw [hrun o hdesign]
  cases answer with
  | error fault => exact ⟨rfl, h.announceAll now notices, hdesign', congrArg Guarded.inner hstore, hsent⟩
  | ok next =>
    obtain ⟨o', hsave, hhealthy, hinner, hsame, hchronicle⟩ := (h.announceAll now notices).save_eq next
    dsimp only
    rw [hsave]
    refine ⟨rfl, hhealthy, hsame.trans hdesign', ?_, ?_⟩
    · rw [hinner, hstore]
      rfl
    · rw [hchronicle, hsent]

omit [DecidableEq S] in
/-- The recipient of an event, and whether it is begun, depends on the record that answers to the key. -/
private theorem Healthy.recipient (design : Design S) (now : Millis) {t : Treatment S} (hraises : t.raises = none)
    (found : Option (Record S)) (hgiven : found = none → t.unknown ≠ .ok none) :
    ∃ answer notices, (∀ fault, answer = .error fault → notices = []) ∧
      (∀ r, answer = .ok r → ∀ n ∈ notices, n.process = r.id) ∧
      ∀ o : Office S, o.Healthy → o.store.inner.Leads → o.design = design → o.answering t.key = found →
        o.recipient now t = (answer, o.asked.announceAll now notices) ∧
          ∀ r, answer = .ok r → o.concerned? t = some r.id ∧ r.correlation = some t.key := by
  cases found with
  | some r =>
    refine ⟨.ok r, [], fun _ _ => rfl, fun _ _ => List.forall_mem_nil _, ?_⟩
    intro o h hleads _ hfound
    refine ⟨?_, ?_⟩
    · unfold Office.recipient
      rw [h.findByCorrelation, hfound]
      rfl
    · rintro _ ⟨⟩
      exact ⟨concerned?_answering hraises hfound, correlation_of_answering hleads hfound⟩
  | none =>
    cases hunknown : t.unknown with
    | error fault =>
      refine ⟨.error fault, [], fun _ _ => rfl, nofun, ?_⟩
      intro o h _ _ hfound
      refine ⟨?_, nofun⟩
      unfold Office.recipient
      rw [h.findByCorrelation, hfound, hunknown]
      rfl
    | ok id =>
      cases id with
      | none => exact absurd hunknown (hgiven rfl)
      | some id =>
        refine ⟨.ok (design.fresh id (some t.key) now), [.started id design.name], nofun, ?_, ?_⟩
        · rintro _ ⟨⟩ n hn
          obtain rfl := List.mem_singleton.1 hn
          rfl
        · rintro o h _ rfl hfound
          refine ⟨?_, ?_⟩
          · unfold Office.recipient
            rw [h.findByCorrelation, hfound, hunknown]
            rfl
          · rintro _ ⟨⟩
            exact ⟨by simp [concerned?, hraises, hfound, hunknown, Design.fresh], rfl⟩

/-- What a treatment answers and announces, and what it files, depends on the record that answers to its key. -/
theorem Healthy.treat (design : Design S) (now : Millis) (t : Treatment S) (found : Option (Record S))
    (hgiven : t.raises = none → found = none → t.unknown ≠ .ok none) :
    ∃ answer notices, ∀ o : Office S, o.Healthy → o.store.inner.Leads → o.design = design →
      (t.raises = none → o.answering t.key = found) →
      (o.treat now t).1 = answer ∧ Treated t answer notices o (o.treat now t).2 := by
  unfold Office.treat
  cases hraises : t.raises with
  | some fault => exact ⟨.error fault, [], fun o h _ _ _ => ⟨rfl, h.refused t fault rfl rfl rfl⟩⟩
  | none =>
    obtain ⟨recipient, earlier, hrefused, habout, hrecipient⟩ :=
      Healthy.recipient design now hraises found (hgiven hraises)
    cases recipient with
    | error fault =>
      refine ⟨.error fault, [], ?_⟩
      intro o h hleads hdesign hfound
      rw [(hrecipient o h hleads hdesign (hfound rfl)).1, hrefused fault rfl]
      exact ⟨rfl, h.asked.refused t fault rfl rfl rfl⟩
    | ok r =>
      obtain ⟨answer, notices, hconfines, hundergo⟩ := Healthy.undergo design now (t.course r) r
      refine ⟨answer, earlier ++ notices, ?_⟩
      intro o h hleads hdesign hfound
      obtain ⟨heq, hmade⟩ := hrecipient o h hleads hdesign (hfound rfl)
      obtain ⟨hconcerned, hkey⟩ := hmade r rfl
      obtain ⟨hstore, hdesign', hsent⟩ := o.asked.announceAll_frame now earlier
      obtain ⟨hanswer, hdoes⟩ := hundergo _ (h.asked.announceAll now earlier) (hdesign'.trans hdesign)
      have hinner : (o.asked.announceAll now earlier).store.inner = o.store.inner := by
        rw [hstore]
        rfl
      rw [heq]
      exact ⟨hanswer, hdoes.treated hdesign' hinner hsent (habout r rfl) hconfines hconcerned hkey⟩

/-! ### Two treatments -/

omit [ToString S] [DecidableEq S] in
/-- Records of two processes, under different keys, are filed in either order. -/
private theorem Treated.shelf_comm {t t' : Treatment S} {answer answer' : Except (Fault S) (Record S)}
    {notices notices' : List (Notice S)} {o o₁ o₁' : Office S} (h : Treated t answer notices o o₁)
    (h' : Treated t' answer' notices' o o₁') (hleads : o.store.inner.Leads) (hkeys : t.key ≠ t'.key)
    (hapart : ∀ id, o.concerned? t = some id → o.concerned? t' ≠ some id) :
    let sh := (o.store.inner.after answer).after answer'
    let sh' := (o.store.inner.after answer').after answer
    (∀ id, sh.records.find? id = sh'.records.find? id) ∧
      ∀ key, sh.directory.lookup key = sh'.directory.lookup key := by
  cases answer with
  | error _ => exact ⟨fun _ => rfl, fun _ => rfl⟩
  | ok r =>
    cases answer' with
    | error _ => exact ⟨fun _ => rfl, fun _ => rfl⟩
    | ok r' =>
      obtain ⟨hconcerned, hkey⟩ := h.made r rfl
      obtain ⟨hconcerned', hkey'⟩ := h'.made r' rfl
      have hid : r.id ≠ r'.id := by
        intro hsame
        exact hapart r.id hconcerned (hsame ▸ hconcerned')
      have hother : ∀ key, r.correlation = some key → r'.correlation ≠ some key := by
        intro key hr hr'
        exact hkeys (Option.some.inj ((hkey.symm.trans hr).trans (hr'.symm.trans hkey')))
      exact ⟨Shelf.find?_put_comm hid _, hleads.lookup_put_comm hid hother⟩

/-- **Independent events can be treated in either order.** On any shelf that saves and deletes lead to, in an office
whose store does not fail, let two events have different keys and be for different processes, each found under its key
or to be begun under a given identifier. In either order each gets the same answer, the same records are stored in the
end and found under every key, and every process has the same notices. -/
theorem treat_comm {o : Office S} {changes : List (Change S)} (hshelf : Shelf.replay changes = .ok o.store.inner)
    (hquiet : ∀ call n, o.store.plan call n = none) (now : Millis) {t t' : Treatment S} (hkeys : t.key ≠ t'.key)
    (hgiven : o.Given t) (hgiven' : o.Given t') (hapart : ∀ id, o.concerned? t = some id → o.concerned? t' ≠ some id) :
    let first := o.treat now t
    let second := first.2.treat now t'
    let first' := o.treat now t'
    let second' := first'.2.treat now t
    second'.1 = first.1 ∧ second.1 = first'.1 ∧
      (∀ id, second.2.stored id = second'.2.stored id) ∧
      (∀ key, (second.2.findByCorrelation key).1 = (second'.2.findByCorrelation key).1) ∧
      ∀ id, second.2.chronicle.sent.filter (·.process = id) = second'.2.chronicle.sent.filter (·.process = id) := by
  intro first second first' second'
  obtain ⟨hsound, hunlocked⟩ := Shelf.sound_replay hshelf
  obtain ⟨sh, hsh, hfiled⟩ := Filed.replay changes
  obtain rfl := Except.ok.inj (hsh.symm.trans hshelf)
  have hleads := hfiled.leads
  have ho : o.Healthy := ⟨hsound, hunlocked, hquiet⟩
  -- each treatment does the same after the other as before it
  obtain ⟨answer, notices, heq⟩ := Healthy.treat o.design now t (o.answering t.key) hgiven
  obtain ⟨answer', notices', heq'⟩ := Healthy.treat o.design now t' (o.answering t'.key) hgiven'
  obtain ⟨hfirst, h₁⟩ := heq o ho hleads rfl fun _ => rfl
  obtain ⟨hfirst', h₁'⟩ := heq' o ho hleads rfl fun _ => rfl
  have hanswering' : t'.raises = none → first.2.answering t'.key = o.answering t'.key := by
    intro hraises
    refine h₁.answering ho hleads hkeys ?_
    intro r hr hconcerned
    exact hapart r.id hconcerned (concerned?_answering hraises hr)
  have hanswering : t.raises = none → first'.2.answering t.key = o.answering t.key := by
    intro hraises
    refine h₁'.answering ho hleads hkeys.symm ?_
    intro r hr hconcerned
    exact hapart r.id (concerned?_answering hraises hr) hconcerned
  obtain ⟨hsecond, h₂⟩ := heq' first.2 h₁.healthy (h₁.leads hleads) h₁.design hanswering'
  obtain ⟨hsecond', h₂'⟩ := heq first'.2 h₁'.healthy (h₁'.leads hleads) h₁'.design hanswering
  obtain ⟨hrecords, hdirectory⟩ := h₁.shelf_comm h₁' hleads hkeys hapart
  have hinner : second.2.store.inner = (o.store.inner.after answer).after answer' := by rw [h₂.shelf, h₁.shelf]
  have hinner' : second'.2.store.inner = (o.store.inner.after answer').after answer := by rw [h₂'.shelf, h₁'.shelf]
  have hstored : ∀ id, second.2.stored id = second'.2.stored id := by
    intro id
    unfold stored
    rw [hinner, hinner']
    exact hrecords id
  refine ⟨hsecond'.trans hfirst.symm, hsecond.trans hfirst'.symm, hstored, ?_, ?_⟩
  · intro key
    rw [h₂.healthy.findByCorrelation, h₂'.healthy.findByCorrelation]
    unfold Office.answering
    rw [hinner, hinner', hdirectory key, funext hstored]
  · intro id
    have hcomm := filter_process_comm hapart h₁.process h₁'.process id
    rw [h₂.sent, h₁.sent, h₂'.sent, h₁'.sent, List.append_assoc, List.append_assoc, List.filter_append, hcomm,
      ← List.filter_append]

/-- The orders of a cart and of a chest. -/
def cartAndChest : List (Change Nat) :=
  [.save ⟨⟨"p"⟩, "order", .running, 0, 5, 5, some "cart", none, none⟩,
    .save ⟨⟨"q"⟩, "order", .running, 0, 5, 5, some "chest", none, none⟩]

/-- The order of a basket is begun under the identifier of that of the cart. -/
def basketForCart : Treatment Nat := ⟨"basket", none, .ok (some ⟨"p"⟩), fun _ => .inTurn [.move 1]⟩

/-- The order of the chest is moved, and given up because it cannot be moved back. -/
def chestGivenUp : Treatment Nat := ⟨"chest", none, .error (.handler "no chest"), fun _ => .inTurn [.move 1, .move 0]⟩

theorem treat_comm_orders :
    ∃ o : Office Nat, Shelf.replay cartAndChest = .ok o.store.inner ∧
      let both := ((o.treat 9 basketForCart).2.treat 9 chestGivenUp).2
      let swapped := ((o.treat 9 chestGivenUp).2.treat 9 basketForCart).2
      (∀ id, both.stored id = swapped.stored id) ∧
        (∀ key, (both.findByCorrelation key).1 = (swapped.findByCorrelation key).1) ∧
        (both.findByCorrelation "cart").1 = .ok none ∧
        ∀ id, both.chronicle.sent.filter (·.process = id) = swapped.chronicle.sent.filter (·.process = id) := by
  let o : Office Nat := { orders with store := .healthy ((Shelf.replay cartAndChest).toOption.getD .empty) }
  have hreplay : Shelf.replay cartAndChest = .ok o.store.inner := rfl
  have hgiven : o.Given basketForCart := fun _ _ => nofun
  have hgiven' : o.Given chestGivenUp := fun _ _ => nofun
  have hapart : ∀ id, o.concerned? basketForCart = some id → o.concerned? chestGivenUp ≠ some id := by
    intro id hbasket
    have hp : o.concerned? basketForCart = some ⟨"p"⟩ := by decide +kernel
    obtain rfl := Option.some.inj (hp.symm.trans hbasket)
    decide +kernel
  obtain ⟨-, -, hstored, hfound, hsent⟩ :=
    treat_comm hreplay (fun _ _ => rfl) 9 (by decide) hgiven hgiven' hapart
  exact ⟨o, hreplay, hstored, hfound, by decide +kernel, hsent⟩

end Office

end Coordination.Workflow
