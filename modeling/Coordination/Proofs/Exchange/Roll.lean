import Coordination.Exchange.Registry

/-!
# The roll of subscriptions

A registry keeps its subscriptions by kind. It behaves as a `Roll` does, which keeps them in one list, in the order in
which they were made: a group of the registry is what the roll has of its kind, and no group is empty
(`Registry.Lists`). Every change of the one is a change of the other (`Lists.subscribe`, `Lists.cancel`, `Lists.clear`).
-/

namespace Coordination.Exchange

/-- A subscription with the kind of events that it is to. -/
structure Listed (V : Type) extends Subscription V where
  kind : String

structure Roll (V : Type) where
  /-- The subscriptions, in the order in which they were made. -/
  entries : List (Listed V)
  /-- All tickets that were ever given out. -/
  given : List Ticket

variable {V : Type}

namespace Roll

def empty : Roll V := ⟨[], []⟩

/-- The subscriptions to a kind of events. -/
def of (kind : String) (l : Roll V) : List (Subscription V) :=
  (l.entries.filter fun e => e.kind = kind).map (·.toSubscription)

/-- How many subscriptions to a kind of events there are. -/
def count (kind : String) (l : Roll V) : Nat := l.entries.countP fun e => e.kind = kind

def subscribe (kind : String) (handler : Handler V) (l : Roll V) : Ticket × Roll V :=
  let ticket : Ticket := ⟨l.given.length + 1⟩
  (ticket, ⟨l.entries ++ [⟨⟨ticket, handler⟩, kind⟩], l.given ++ [ticket]⟩)

def holds (ticket : Ticket) (l : Roll V) : Bool := l.entries.any fun e => e.ticket = ticket

/-- Takes the entry with the ticket off the list; tells whether there was one. -/
def cancel (ticket : Ticket) (l : Roll V) : Bool × Roll V :=
  (l.holds ticket, { l with entries := l.entries.eraseP fun e => e.ticket = ticket })

/-- Takes the entries of a kind off the list, or all. -/
def clear (kind : Option String) (l : Roll V) : Roll V :=
  match kind with
  | some kind => { l with entries := l.entries.filter fun e => e.kind ≠ kind }
  | none => { l with entries := [] }

/-- Tickets are numbered as they are given out, and the list is in their order. -/
structure Sound (l : Roll V) : Prop where
  given : l.given = (List.range l.given.length).map fun n => ⟨n + 1⟩
  listed : (l.entries.map (·.ticket)).Sublist l.given

theorem length_of (kind : String) (l : Roll V) : (l.of kind).length = l.count kind := by
  rw [of, count, List.length_map, List.countP_eq_length_filter]

private theorem mem_of {kind : String} {l : Roll V} {s : Subscription V} :
    s ∈ l.of kind ↔ ∃ e ∈ l.entries, e.kind = kind ∧ e.toSubscription = s := by
  simp [of, and_assoc]

theorem holds_iff {ticket : Ticket} {l : Roll V} : l.holds ticket = true ↔ ∃ e ∈ l.entries, e.ticket = ticket := by
  simp [holds]

namespace Sound

variable {l : Roll V}

private theorem empty : (Roll.empty : Roll V).Sound := ⟨rfl, List.Sublist.refl _⟩

/-- Each ticket is greater than all that were given out before. -/
theorem ascending (h : l.Sound) : l.given.Pairwise fun t t' => t.number < t'.number := by
  rw [h.given]
  exact List.pairwise_map.2 (List.pairwise_lt_range.imp fun hlt => Nat.succ_lt_succ hlt)

theorem number_le (h : l.Sound) {ticket : Ticket} (ht : ticket ∈ l.given) : ticket.number ≤ l.given.length := by
  rw [h.given] at ht
  obtain ⟨n, hn, rfl⟩ := List.mem_map.1 ht
  exact List.mem_range.1 hn

/-- No two entries have the same ticket. -/
private theorem distinct (h : l.Sound) : (l.entries.map (·.ticket)).Nodup :=
  (h.ascending.imp fun hlt heq => Nat.ne_of_lt hlt (congrArg Ticket.number heq)).sublist h.listed

private theorem subscribe (h : l.Sound) (kind : String) (handler : Handler V) : (l.subscribe kind handler).2.Sound where
  given := by
    simp only [Roll.subscribe, List.length_append, List.length_singleton, List.range_succ, List.map_append, ← h.given,
      List.map_singleton]
  listed := by
    simpa [Roll.subscribe] using h.listed.append_right [(l.subscribe kind handler).1]

private theorem cancel (h : l.Sound) (ticket : Ticket) : (l.cancel ticket).2.Sound :=
  ⟨h.given, (List.eraseP_sublist.map _).trans h.listed⟩

private theorem clear (h : l.Sound) (kind : Option String) : (l.clear kind).Sound := by
  cases kind with
  | some kind => exact ⟨h.given, (List.filter_sublist.map _).trans h.listed⟩
  | none => exact ⟨h.given, List.nil_sublist _⟩

end Sound

/-! ### What changes of the roll leave of a kind -/

private theorem of_subscribe (kind kind' : String) (handler : Handler V) (l : Roll V) :
    (l.subscribe kind handler).2.of kind' =
      if kind' = kind then l.of kind' ++ [⟨(l.subscribe kind handler).1, handler⟩] else l.of kind' := by
  by_cases h : kind' = kind
  · simp [of, subscribe, h]
  · simp [of, subscribe, h, Ne.symm h]

private theorem eraseP_eq_filter {α β : Type} [DecidableEq β] {f : α → β} {l : List α} (h : (l.map f).Nodup) (b : β) :
    l.eraseP (fun a => f a = b) = l.filter fun a => f a ≠ b := by
  induction l with
  | nil => rfl
  | cons a l ih =>
    rw [List.map_cons, List.nodup_cons] at h
    by_cases ha : f a = b
    · have hrest : ∀ a' ∈ l, f a' ≠ b := fun a' hmem heq => h.1 (List.mem_map.2 ⟨a', hmem, heq.trans ha.symm⟩)
      have hall : l.filter (fun a => f a ≠ b) = l := List.filter_eq_self.2 fun a' hmem => decide_eq_true (hrest a' hmem)
      simp only [ne_eq, decide_not] at hall ⊢
      simp [ha, hall]
    · have := ih h.2
      simp only [ne_eq, decide_not] at this ⊢
      simp [ha, this]

private theorem Sound.of_cancel {l : Roll V} (h : l.Sound) (ticket : Ticket) (kind : String) :
    (l.cancel ticket).2.of kind = (l.of kind).filter fun s => s.ticket ≠ ticket := by
  have herase := eraseP_eq_filter h.distinct ticket
  unfold of Roll.cancel
  dsimp only
  rw [herase, List.filter_map, List.filter_filter, List.filter_filter]
  congr 2
  funext e
  exact Bool.and_comm ..

private theorem of_clear (kind : Option String) (kind' : String) (l : Roll V) :
    (l.clear kind).of kind' = if kind = none ∨ kind = some kind' then [] else l.of kind' := by
  cases kind with
  | none => rfl
  | some kind =>
    unfold of clear
    dsimp only
    rw [List.filter_filter]
    by_cases h : kind = kind'
    · subst h
      simp
    · rw [if_neg (by simpa using h)]
      congr 2
      funext e
      by_cases he : e.kind = kind'
      · simp [he, Ne.symm h]
      · simp [he]

end Roll

/-! ### The registry and the roll -/

namespace Registry

/-- The registry keeps the subscriptions of the roll. -/
structure Lists (r : Registry V) (l : Roll V) : Prop where
  sound : l.Sound
  keys : r.groups.keys.Nodup
  groups : ∀ kind, r.group? kind = if l.of kind = [] then none else some (l.of kind)
  issued : r.issued = l.given.length

namespace Lists

variable {r : Registry V} {l : Roll V}

theorem empty : (Registry.empty : Registry V).Lists .empty := ⟨.empty, List.nodup_nil, fun _ => rfl, rfl⟩

/-- The groups are what the roll has of the kinds, if it has anything. -/
theorem mem_groups (h : r.Lists l) {g : String × List (Subscription V)} :
    g ∈ r.groups ↔ g.2 = l.of g.1 ∧ g.2 ≠ [] := by
  have hfind : r.group? g.1 = some g.2 ↔ g ∈ r.groups := Table.find?_eq_some_iff h.keys
  rw [← hfind, h.groups]
  by_cases hnone : l.of g.1 = []
  · simp [hnone]
  · rw [if_neg hnone, Option.some.injEq]
    constructor
    · intro hsame
      exact ⟨hsame.symm, hsame ▸ hnone⟩
    · exact fun hsame => hsame.1.symm

theorem getD_group (h : r.Lists l) (kind : String) : (r.group? kind).getD [] = l.of kind := by
  rw [h.groups]
  split
  · rename_i hnone
    exact hnone.symm
  · rfl

theorem count (h : r.Lists l) (kind : String) : r.count kind = l.count kind := by
  rw [← l.length_of, ← h.getD_group]
  unfold Registry.count
  cases r.group? kind <;> rfl

theorem subscribe (h : r.Lists l) (kind : String) (handler : Handler V) :
    (r.subscribe kind handler).1 = (l.subscribe kind handler).1 ∧
      (r.subscribe kind handler).2.Lists (l.subscribe kind handler).2 := by
  have hticket : (r.subscribe kind handler).1 = (l.subscribe kind handler).1 :=
    congrArg (fun n => (⟨n + 1⟩ : Ticket)) h.issued
  refine ⟨hticket, h.sound.subscribe kind handler, Table.nodup_keys_insert h.keys, ?_, ?_⟩
  · intro kind'
    have hfind : (r.subscribe kind handler).2.group? kind' =
        if kind' = kind then some ((r.group? kind).getD [] ++ [⟨(r.subscribe kind handler).1, handler⟩])
        else r.group? kind' := Table.find?_insert ..
    rw [hfind, l.of_subscribe, h.getD_group, hticket]
    by_cases hk : kind' = kind
    · subst hk
      simp
    · rw [if_neg hk, if_neg hk]
      exact h.groups kind'
  · show r.issued + 1 = (l.given ++ [(l.subscribe kind handler).1]).length
    rw [h.issued, List.length_append]
    rfl

private theorem holds (h : r.Lists l) (ticket : Ticket) : r.holds ticket = l.holds ticket := by
  rw [Bool.eq_iff_iff, Roll.holds_iff]
  simp only [Registry.holds, List.any_eq_true, decide_eq_true_eq]
  constructor
  · rintro ⟨g, hg, sub, hsub, hticket⟩
    rw [(h.mem_groups.1 hg).1, Roll.mem_of] at hsub
    obtain ⟨e, he, -, rfl⟩ := hsub
    exact ⟨e, he, hticket⟩
  · rintro ⟨e, he, hticket⟩
    have hsub : e.toSubscription ∈ l.of e.kind := Roll.mem_of.2 ⟨e, he, rfl, rfl⟩
    exact ⟨(e.kind, l.of e.kind), h.mem_groups.2 ⟨rfl, List.ne_nil_of_mem hsub⟩, _, hsub, hticket⟩

/-- What is left of the groups when a subscription is cancelled. -/
private theorem groups_cancel (h : r.Lists l) (ticket : Ticket) :
    (r.cancel ticket).2.groups.keys.Nodup ∧ ∀ kind, (r.cancel ticket).2.group? kind =
      ((r.group? kind).map fun g => g.filter fun s => s.ticket ≠ ticket).filter fun g => ¬ g.isEmpty := by
  let rest : Table String (List (Subscription V)) := r.groups.map fun g => (g.1, g.2.filter fun s => s.ticket ≠ ticket)
  have hrest : rest.keys.Nodup := by
    have hkeys : rest.keys = r.groups.keys := by simp [rest, Table.keys]
    exact hkeys ▸ h.keys
  refine ⟨hrest.sublist (List.filter_sublist.map _), fun kind => ?_⟩
  have hfind : rest.find? kind = (r.group? kind).map fun g => g.filter fun s => s.ticket ≠ ticket :=
    Table.find?_map_values ..
  rw [← hfind]
  exact Table.find?_filter_values hrest (fun g => decide (¬ g.isEmpty)) kind

theorem cancel (h : r.Lists l) (ticket : Ticket) :
    (r.cancel ticket).1 = (l.cancel ticket).1 ∧ (r.cancel ticket).2.Lists (l.cancel ticket).2 := by
  obtain ⟨hkeys, hgroups⟩ := h.groups_cancel ticket
  refine ⟨h.holds ticket, h.sound.cancel ticket, hkeys, fun kind => ?_, h.issued⟩
  rw [hgroups, h.groups, h.sound.of_cancel]
  by_cases hnone : l.of kind = []
  · rw [if_pos hnone, hnone]
    rfl
  · rw [if_neg hnone, Option.map_some, Option.filter_some]
    by_cases hleft : (l.of kind).filter (fun s => s.ticket ≠ ticket) = []
    · rw [if_pos hleft, hleft]
      rfl
    · rw [if_neg hleft, if_pos (by simpa using hleft)]

/-- To cancel a subscription that there is not changes nothing. -/
theorem cancel_absent (h : r.Lists l) {ticket : Ticket} (habsent : l.holds ticket = false) :
    (r.cancel ticket).2 = r := by
  have hkept : ∀ g ∈ r.groups, (g.1, g.2.filter fun s => s.ticket ≠ ticket) = g := by
    intro g hg
    refine Prod.ext rfl (List.filter_eq_self.2 fun sub hsub => decide_eq_true fun hticket => ?_)
    rw [← h.holds] at habsent
    have hany : g.2.any (fun s => decide (s.ticket = ticket)) = true :=
      List.any_eq_true.2 ⟨sub, hsub, decide_eq_true hticket⟩
    have hheld : r.holds ticket = true := List.any_eq_true.2 ⟨g, hg, hany⟩
    cases habsent.symm.trans hheld
  have hsome : r.groups.filter (fun g => ¬ g.2.isEmpty) = r.groups :=
    List.filter_eq_self.2 fun g hg => by simpa using (h.mem_groups.1 hg).2
  unfold Registry.cancel
  dsimp only
  rw [List.map_congr_left hkept, List.map_id', hsome]

theorem clear (h : r.Lists l) (kind : Option String) : (r.clear kind).Lists (l.clear kind) := by
  refine ⟨h.sound.clear kind, ?_, ?_, ?_⟩
  · cases kind with
    | none => exact List.nodup_nil
    | some kind => exact Table.nodup_keys_erase h.keys
  · intro kind'
    rw [l.of_clear]
    cases kind with
    | none => rfl
    | some kind =>
      have hfind : (r.clear (some kind)).group? kind' = if kind' = kind then none else r.group? kind' :=
        Table.find?_erase ..
      rw [hfind, h.groups]
      by_cases hk : kind' = kind
      · simp [hk]
      · simp [hk, Ne.symm hk]
  · cases kind <;> exact h.issued

end Lists

end Registry

end Coordination.Exchange
