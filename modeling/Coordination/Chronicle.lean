import Coordination.Audience
import Coordination.LogLine
import Coordination.Tally

/-!
# Chronicles

A `Chronicle` collects what became of the notices sent in a session: the notices themselves, what recorders wrote
down, the tally of the monitor, and the diagnostic lines. `Chronicle.announce` sends one notice to an audience.

A listener acts on a notice in one of five ways (`Listener.hear`). A notice of a lifecycle event reaches every
listener; the others are optional, and a monitor and a recorder that implements only what it must skip them.
-/

namespace Coordination

/-- What a listener can be. -/
inductive Listener where
  /-- Hears everything and does nothing. -/
  | silent
  /-- Writes a diagnostic line for every notice. -/
  | tracing
  /-- Counts lifecycle events and logs them. -/
  | monitor
  /-- Writes every notice down under its label. -/
  | recorder (label : String)
  /-- Writes down the notices of lifecycle events only. -/
  | brief (label : String)
  deriving DecidableEq, Repr

/-- How a notice is read by the listeners: as a lifecycle event, unless it is optional, and as a line. -/
class Announcement (ν : Type) (s : outParam Subject) (κ : outParam Type) where
  lifecycle? : ν → Option (Ident s × κ × Option String)
  line : ν → LogLine

structure Chronicle (ν : Type) (s : Subject) (κ : Type) where
  /-- Every notice sent, oldest first. -/
  sent : List ν
  /-- What the recorders wrote down, each under its label. -/
  notes : List (String × ν)
  tally : Tally s κ
  /-- Diagnostic lines, those of tracing listeners included. -/
  lines : List LogLine

section

variable {ν : Type} {s : Subject} {κ : Type}

def Chronicle.empty : Chronicle ν s κ := ⟨[], [], .empty, []⟩

def Chronicle.write (l : LogLine) (c : Chronicle ν s κ) : Chronicle ν s κ := { c with lines := c.lines ++ [l] }

def Chronicle.note (label : String) (n : ν) (c : Chronicle ν s κ) : Chronicle ν s κ :=
  { c with notes := c.notes ++ [(label, n)] }

variable [Announcement ν s κ] [DecidableEq κ]

/-- What one listener makes of a notice sent at `now`. -/
def Listener.hear (now : Millis) (n : ν) : Listener → Chronicle ν s κ → Chronicle ν s κ
  | .silent, c => c
  | .tracing, c => c.write (Announcement.line n)
  | .recorder label, c => c.note label n
  | .brief label, c =>
    match Announcement.lifecycle? n with
    | some _ => c.note label n
    | none => c
  | .monitor, c =>
    match Announcement.lifecycle? n with
    | some (subject, kind, error) => { c with tally := c.tally.record ⟨subject, kind, now, error⟩ }
    | none => c

def Chronicle.announce (audience : Audience Listener) (now : Millis) (n : ν) (c : Chronicle ν s κ) :
    Chronicle ν s κ :=
  audience.tell (Listener.hear now n) { c with sent := c.sent ++ [n] }

private theorem sent_hear (now : Millis) (n : ν) (l : Listener) (c : Chronicle ν s κ) :
    (l.hear now n c).sent = c.sent := by
  cases l with
  | silent => rfl
  | tracing => rfl
  | recorder label => rfl
  | brief label =>
    simp only [Listener.hear]
    split <;> rfl
  | monitor =>
    simp only [Listener.hear]
    split <;> rfl

/-- The notices sent do not depend on who hears them. -/
theorem sent_announce (audience : Audience Listener) (now : Millis) (n : ν) (c : Chronicle ν s κ) :
    (c.announce audience now n).sent = c.sent ++ [n] := by
  have hleaves : ∀ (ls : List Listener) (c : Chronicle ν s κ),
      (ls.foldl (fun c l => l.hear now n c) c).sent = c.sent := by
    intro ls
    induction ls with
    | nil => exact fun _ => rfl
    | cons l ls ih => exact fun c => (ih _).trans (sent_hear now n l c)
  rw [Chronicle.announce, Audience.tell_eq_foldl, hleaves]

/-- The kind of the lifecycle event that a notice is read as. -/
def Announcement.kind? (n : ν) : Option κ := (Announcement.lifecycle? n).map fun e => e.2.1

/-- What a monitor writes to its log of a notice. -/
def Announcement.events (now : Millis) (n : ν) : List (EventRecord s κ) :=
  (Announcement.lifecycle? n).toList.map fun e => ⟨e.1, e.2.1, now, e.2.2⟩

omit [DecidableEq κ] in
theorem Announcement.length_events_le (now : Millis) (n : ν) : (events now n).length ≤ 1 := by
  rw [events, List.length_map]
  exact Option.length_toList_le

theorem Announcement.countP_events (now : Millis) (n : ν) (kind : κ) :
    (events now n).countP (fun e => e.kind = kind) = if kind? n = some kind then 1 else 0 := by
  rw [events, kind?]
  cases lifecycle? n with
  | none => rfl
  | some e => simp [List.countP_singleton]

private theorem tally_hear (now : Millis) (n : ν) (l : Listener) (c : Chronicle ν s κ) :
    (l.hear now n c).tally = if l = .monitor then c.tally.recordAll (Announcement.events now n) else c.tally := by
  cases l with
  | silent => rfl
  | tracing => rfl
  | recorder label => rfl
  | brief label =>
    simp only [Listener.hear]
    split <;> rfl
  | monitor =>
    rw [if_pos rfl, Listener.hear, Announcement.events]
    cases Announcement.lifecycle? n <;> rfl

/-- Every monitor of an audience records a notice once. -/
theorem tally_announce (audience : Audience Listener) (now : Millis) (n : ν) (c : Chronicle ν s κ) :
    (c.announce audience now n).tally =
      c.tally.recordAll (List.replicate (audience.leaves.count .monitor) (Announcement.events now n)).flatten := by
  have hleaves : ∀ (ls : List Listener) (c : Chronicle ν s κ),
      (ls.foldl (fun c l => l.hear now n c) c).tally =
        c.tally.recordAll (List.replicate (ls.count .monitor) (Announcement.events now n)).flatten := by
    intro ls
    induction ls with
    | nil => exact fun _ => rfl
    | cons l ls ih =>
      intro c
      rw [List.foldl_cons, ih, tally_hear]
      by_cases hl : l = .monitor
      · rw [if_pos hl, hl, List.count_cons_self, List.replicate_succ, List.flatten_cons, Tally.recordAll_append]
      · rw [if_neg hl, List.count_cons_of_ne hl]
  rw [Chronicle.announce, Audience.tell_eq_foldl, hleaves]

/-- Every monitor of an audience counts a notice once, under its kind. -/
theorem count_announce (audience : Audience Listener) (now : Millis) (n : ν) (c : Chronicle ν s κ) (kind : κ) :
    (c.announce audience now n).tally.count kind =
      c.tally.count kind + if Announcement.kind? n = some kind then audience.leaves.count .monitor else 0 := by
  rw [tally_announce, Tally.count_recordAll, List.countP_flatten, List.map_replicate, List.sum_replicate_nat,
    Announcement.countP_events]
  split
  · rw [Nat.mul_one]
  · rfl

/-- Every monitor of an audience writes a notice to its log once. -/
theorem log_announce (audience : Audience Listener) (now : Millis) (n : ν) (c : Chronicle ν s κ) :
    (c.announce audience now n).tally.log =
      c.tally.log ++ (List.replicate (audience.leaves.count .monitor) (Announcement.events now n)).flatten := by
  rw [tally_announce, Tally.log_recordAll]

/-- The listeners made the same of the notices that they heard; of the lines, only some count. -/
structure Chronicle.Alike (counts : LogLine → Bool) (c c' : Chronicle ν s κ) : Prop where
  notes : c.notes = c'.notes
  tally : c.tally = c'.tally
  lines : c.lines.filter counts = c'.lines.filter counts

namespace Chronicle.Alike

variable {counts : LogLine → Bool} {c c' : Chronicle ν s κ}

omit [Announcement ν s κ] [DecidableEq κ] in
theorem write (h : c.Alike counts c') (l : LogLine) : (c.write l).Alike counts (c'.write l) :=
  { h with lines := by simp only [Chronicle.write, List.filter_append, h.lines] }

omit [Announcement ν s κ] [DecidableEq κ] in
private theorem note (h : c.Alike counts c') (label : String) (n : ν) :
    (c.note label n).Alike counts (c'.note label n) :=
  { h with notes := congrArg (· ++ _) h.notes }

/-- What a listener makes of a notice does not depend on what became of others. -/
private theorem hear (h : c.Alike counts c') (now : Millis) (n : ν) (l : Listener) :
    (l.hear now n c).Alike counts (l.hear now n c') := by
  cases l with
  | silent => exact h
  | tracing => exact h.write _
  | recorder label => exact h.note label n
  | brief label =>
    simp only [Listener.hear]
    split
    · exact h.note label n
    · exact h
  | monitor =>
    simp only [Listener.hear]
    split
    · exact { h with tally := congrArg (Tally.record _) h.tally }
    · exact h

theorem announce (h : c.Alike counts c') (audience : Audience Listener) (now : Millis) (n : ν) :
    (c.announce audience now n).Alike counts (c'.announce audience now n) := by
  have hleaves : ∀ (ls : List Listener) {c c' : Chronicle ν s κ}, c.Alike counts c' →
      (ls.foldl (fun c l => l.hear now n c) c).Alike counts (ls.foldl (fun c l => l.hear now n c) c') := by
    intro ls
    induction ls with
    | nil => exact fun h => h
    | cons l ls ih => exact fun h => ih (h.hear now n l)
  unfold Chronicle.announce
  rw [Audience.tell_eq_foldl, Audience.tell_eq_foldl]
  exact hleaves audience.leaves ⟨h.notes, h.tally, h.lines⟩

end Chronicle.Alike

end

end Coordination
