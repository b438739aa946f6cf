import HdProvision.Proofs.Store.Damage
import HdProvision.Proofs.Store.Jobs
import Mathlib.Data.List.Induction
import Mathlib.Logic.Function.Basic

/-!
# Two recordings at once

Two sessions record a seed in one file, and each read and each write of the whole file is one
access. Nothing locks the file. Whoever looks for a seed after the other has written finds it and is
refused; otherwise both record, and the seed of the last write stays.
-/

set_option autoImplicit false

namespace HdProvision.Store

open Config (Stores checkField checkText seedField)
open Json (Fields)
open Vault (Sealed Stretcher)

/-- The two who record. -/
inductive Side
  | left
  | right
  deriving DecidableEq

namespace Side

def other : Side → Side
  | left => right
  | right => left

@[simp] theorem other_other (b : Side) : b.other.other = b := by cases b <;> rfl

@[simp] theorem other_ne (b : Side) : b.other ≠ b := by cases b <;> decide

theorem eq_other_of_ne {b b' : Side} (h : b' ≠ b) : b' = b.other := by
  cases b <;> cases b' <;> first | rfl | exact absurd rfl h

end Side

/-- Two jobs on one disk, each with the session that does it. -/
structure Joint where
  disk : Disk
  job : Side → Job
  session : Side → Session

namespace Joint

variable [Json.Nesting]

/-- One side uses the file once. -/
def move (c : Configuration) (w : Joint) (b : Side) : Joint :=
  let after := (w.job b).access c ((w.session b).storing w.disk)
  { disk := after.2.disk
    job := Function.update w.job b after.1
    session := Function.update w.session b after.2 }

/-- The sides use the file in the order of a schedule. -/
def run (c : Configuration) (w : Joint) (schedule : List Side) : Joint := schedule.foldl (move c) w

/-- Both sides are about to record a seed. -/
def both (c : Configuration) (d : Disk) (secret : Side → Bytes) (password : String)
    (session : Side → Session) : Joint where
  disk := d
  job b := .recordSeed c (secret b) password
  session := session

end Joint

/-- How far a recording of a seed got. -/
inductive Standing
  | fresh
  | unseeded
  | concealed
  | loaded
  | recorded
  | refused
  deriving DecidableEq

namespace Standing

/-- How far it is after one access more, if there is a seed in the file or not. -/
def next (taken : Bool) : Standing → Standing
  | fresh => if taken then refused else unseeded
  | unseeded => concealed
  | concealed => loaded
  | loaded => recorded
  | recorded => recorded
  | refused => refused

/-- How far it is after some accesses that were not refused. -/
def after : Nat → Standing
  | 0 => fresh
  | 1 => unseeded
  | 2 => concealed
  | 3 => loaded
  | _ => recorded

theorem after_of_le {n : Nat} (h : 4 ≤ n) : after n = recorded := by
  match n with
  | n + 4 => rfl

theorem after_eq_recorded {n : Nat} (h : after n = recorded) : 4 ≤ n := by
  match n with
  | 0 | 1 | 2 | 3 => cases h
  | n + 4 => omega

theorem after_eq_loaded {n : Nat} (h : after n = loaded) : n = 3 := by
  match n with
  | 0 | 1 | 2 => cases h
  | 3 => rfl
  | n + 4 => cases h

theorem next_after (taken : Bool) (n : Nat) : (after (n + 1)).next taken = after (n + 2) := by
  match n with
  | 0 | 1 | 2 => rfl
  | n + 3 => rfl

theorem next_eq_recorded {taken : Bool} {x : Standing} (h : x.next taken = recorded) :
    x = loaded ∨ x = recorded := by
  cases x with
  | fresh => cases taken <;> cases h
  | loaded => exact .inl rfl
  | recorded => exact .inr rfl
  | _ => cases h

end Standing

/-- How far both got, and whose seed is in the file. -/
structure Race where
  standing : Side → Standing
  holder : Option Side

namespace Race

def start : Race := ⟨fun _ => .fresh, none⟩

def move (r : Race) (b : Side) : Race where
  standing := Function.update r.standing b ((r.standing b).next r.holder.isSome)
  holder := if r.standing b = .loaded then some b else r.holder

def run (schedule : List Side) : Race := schedule.foldl move start

theorem run_append_singleton (schedule : List Side) (b : Side) :
    run (schedule ++ [b]) = (run schedule).move b := by
  rw [run, List.foldl_append]
  rfl

end Race

/-- An access of a side comes after the write of the other: the side has had so many accesses before
it, the other all of its four. -/
def Behind (n : Nat) (b : Side) (schedule : List Side) : Prop :=
  ∃ earlier later, schedule = earlier ++ b :: later ∧ earlier.count b = n ∧
    4 ≤ earlier.count b.other

theorem not_behind_nil (n : Nat) (b : Side) : ¬ Behind n b [] := by
  rintro ⟨earlier, later, h, -⟩
  cases earlier <;> cases h

theorem behind_append_singleton {n : Nat} {b x : Side} {schedule : List Side} :
    Behind n b (schedule ++ [x]) ↔ Behind n b schedule ∨
      x = b ∧ schedule.count b = n ∧ 4 ≤ schedule.count b.other := by
  constructor
  · rintro ⟨earlier, later, h, hcount, hother⟩
    rcases List.eq_nil_or_concat later with rfl | ⟨later, y, rfl⟩
    · obtain ⟨rfl, hx⟩ := List.append_inj' h rfl
      cases hx
      exact .inr ⟨rfl, hcount, hother⟩
    · rw [List.concat_eq_append, ← List.cons_append, ← List.append_assoc] at h
      obtain ⟨rfl, -⟩ := List.append_inj' h rfl
      exact .inl ⟨earlier, later, rfl, hcount, hother⟩
  · rintro (⟨earlier, later, rfl, hcount, hother⟩ | ⟨rfl, hcount, hother⟩)
    · exact ⟨earlier, later ++ [x], by simp, hcount, hother⟩
    · exact ⟨schedule, [], rfl, hcount, hother⟩

theorem Behind.append_singleton {n : Nat} {b : Side} {schedule : List Side}
    (h : Behind n b schedule) (x : Side) : Behind n b (schedule ++ [x]) :=
  behind_append_singleton.mpr (.inl h)

/-- Whoever is behind is behind four accesses of the other. -/
theorem Behind.four_le {n : Nat} {b : Side} {schedule : List Side} (h : Behind n b schedule) :
    4 ≤ schedule.count b.other := by
  obtain ⟨earlier, later, rfl, -, hother⟩ := h
  rw [List.count_append]
  omega

/-- A side that starts behind the other is not the one that the other starts behind. -/
theorem Behind.not_other {b : Side} {schedule : List Side} (h : Behind 0 b schedule) :
    ¬ Behind 0 b.other schedule := by
  obtain ⟨earlier, later, hschedule, hcount, hother⟩ := h
  rintro ⟨earlier', later', hschedule', hcount', hother'⟩
  rw [Side.other_other] at hother'
  have hearlier : earlier <+: schedule := ⟨_, hschedule.symm⟩
  have hearlier' : earlier' <+: schedule := ⟨_, hschedule'.symm⟩
  rcases List.prefix_or_prefix_of_prefix hearlier hearlier' with hle | hle
  · have := hle.sublist.count_le b.other
    omega
  · have := hle.sublist.count_le b
    omega

namespace Race

/-- What the standing of both tells of the schedule so far. -/
structure Tells (r : Race) (schedule : List Side) : Prop where
  refused : ∀ b, Behind 0 b schedule → r.standing b = .refused
  after : ∀ b, ¬ Behind 0 b schedule → r.standing b = .after (schedule.count b)
  free : r.holder = none → ∀ b, r.standing b ≠ .recorded
  held : ∀ b, r.holder = some b → r.standing b = .recorded ∧
    (r.standing b.other = .recorded → Behind 3 b schedule)

theorem Tells.holder_of_recorded {r : Race} {schedule : List Side} {b : Side}
    (h : r.Tells schedule) (hrecorded : r.standing b = .recorded) : r.holder.isSome = true := by
  cases hholder : r.holder with
  | none => exact absurd hrecorded (h.free hholder b)
  | some b' => rfl

theorem Tells.not_behind {r : Race} {schedule : List Side} {b : Side} (h : r.Tells schedule)
    (hstanding : r.standing b ≠ .refused) : ¬ Behind 0 b schedule :=
  fun hbehind => hstanding (h.refused b hbehind)

theorem standing_move_self (r : Race) (b : Side) :
    (r.move b).standing b = (r.standing b).next r.holder.isSome :=
  Function.update_self b _ _

theorem standing_move_of_ne (r : Race) {b b' : Side} (h : b' ≠ b) :
    (r.move b).standing b' = r.standing b' :=
  Function.update_of_ne h _ _

/-- A side that starts is refused exactly if the other has written. -/
theorem Tells.holder_of_fresh {r : Race} {schedule : List Side} {b : Side} (h : r.Tells schedule)
    (hcount : schedule.count b = 0) :
    r.holder.isSome = true ↔ 4 ≤ schedule.count b.other := by
  have hother : ¬ Behind 0 b.other schedule := fun hbehind => by
    have hfour := hbehind.four_le
    rw [Side.other_other, hcount] at hfour
    omega
  have hself : r.standing b ≠ .recorded := fun hrecorded => by
    have hnot := h.not_behind (b := b) (by rw [hrecorded]; decide)
    rw [h.after b hnot, hcount] at hrecorded
    cases hrecorded
  constructor
  · intro hsome
    obtain ⟨b', hholder⟩ := Option.isSome_iff_exists.mp hsome
    have hrecorded := (h.held b' hholder).1
    have hne : b' ≠ b := fun heq => hself (heq ▸ hrecorded)
    rw [Side.eq_other_of_ne hne, h.after _ hother] at hrecorded
    exact Standing.after_eq_recorded hrecorded
  · intro hfour
    refine h.holder_of_recorded (b := b.other) ?_
    rw [h.after _ hother, Standing.after_of_le hfour]

/-- The side that uses the file stands as the schedule tells. -/
theorem Tells.self {r : Race} {schedule : List Side} {b : Side} (h : r.Tells schedule) :
    (Behind 0 b (schedule ++ [b]) → (r.move b).standing b = .refused) ∧
      (¬ Behind 0 b (schedule ++ [b]) →
        (r.move b).standing b = .after ((schedule ++ [b]).count b)) := by
  rw [standing_move_self, behind_append_singleton, List.count_append, List.count_singleton_self]
  by_cases hbehind : Behind 0 b schedule
  · rw [h.refused b hbehind]
    exact ⟨fun _ => rfl, fun hnot => absurd (.inl hbehind) hnot⟩
  · rw [h.after b hbehind, or_iff_right hbehind]
    cases hcount : schedule.count b with
    | zero =>
      have hholder := h.holder_of_fresh hcount
      refine ⟨fun ⟨_, _, hfour⟩ => ?_, fun hnot => ?_⟩
      · rw [hholder.mpr hfour]
        rfl
      · have hfree : r.holder.isSome = false :=
          Bool.eq_false_iff.mpr fun hsome => hnot ⟨rfl, rfl, hholder.mp hsome⟩
        rw [hfree]
        rfl
    | succ n =>
      refine ⟨fun ⟨_, hzero, _⟩ => absurd hzero (Nat.succ_ne_zero n), fun _ => ?_⟩
      exact Standing.next_after _ n

/-- As long as no side holds the file, none has recorded. -/
theorem Tells.free_move {r : Race} {schedule : List Side} {b : Side} (h : r.Tells schedule)
    (hholder : (r.move b).holder = none) (b' : Side) : (r.move b).standing b' ≠ .recorded := by
  by_cases hloaded : r.standing b = .loaded
  · rw [move, if_pos hloaded] at hholder
    cases hholder
  · rw [move, if_neg hloaded] at hholder
    by_cases hne : b' = b
    · subst hne
      rw [standing_move_self]
      intro hrecorded
      rcases Standing.next_eq_recorded hrecorded with hstanding | hstanding
      · exact hloaded hstanding
      · exact h.free hholder b' hstanding
    · rw [standing_move_of_ne r hne]
      exact h.free hholder b'

/-- The side that holds the file has recorded, and if the other has as well, it wrote before. -/
theorem Tells.held_move {r : Race} {schedule : List Side} {b b' : Side} (h : r.Tells schedule)
    (hholder : (r.move b).holder = some b') : (r.move b).standing b' = .recorded ∧
      ((r.move b).standing b'.other = .recorded → Behind 3 b' (schedule ++ [b])) := by
  by_cases hloaded : r.standing b = .loaded
  · -- `b` writes now and takes the file over; a write of the other is one of the accesses before
    rw [move, if_pos hloaded] at hholder
    cases hholder
    refine ⟨by rw [standing_move_self, hloaded]; rfl, fun hother => ?_⟩
    rw [standing_move_of_ne r (Side.other_ne b)] at hother
    have hself := h.after b (h.not_behind (by rw [hloaded]; decide))
    have hthat := h.after b.other (h.not_behind (by rw [hother]; decide))
    exact behind_append_singleton.mpr (.inr ⟨rfl,
      Standing.after_eq_loaded (hself.symm.trans hloaded),
      Standing.after_eq_recorded (hthat.symm.trans hother)⟩)
  · -- nobody writes, so that the holder stays
    rw [move, if_neg hloaded] at hholder
    obtain ⟨hrecorded, hlast⟩ := h.held b' hholder
    by_cases hne : b' = b
    · subst hne
      refine ⟨by rw [standing_move_self, hrecorded]; rfl, fun hother => ?_⟩
      rw [standing_move_of_ne r (Side.other_ne b')] at hother
      exact (hlast hother).append_singleton b'
    · refine ⟨by rw [standing_move_of_ne r hne, hrecorded], fun hother => ?_⟩
      have hb : b = b'.other := Side.eq_other_of_ne fun heq => hne heq.symm
      subst hb
      rw [standing_move_self] at hother
      rcases Standing.next_eq_recorded hother with hstanding | hstanding
      · exact absurd hstanding hloaded
      · exact (hlast hstanding).append_singleton _

theorem tells_move {r : Race} {schedule : List Side} {b : Side} (h : r.Tells schedule) :
    (r.move b).Tells (schedule ++ [b]) := by
  have hback : ∀ {n : Nat} {b' : Side}, b' ≠ b → Behind n b' (schedule ++ [b]) →
      Behind n b' schedule := by
    intro n b' hne hbehind
    rcases behind_append_singleton.mp hbehind with hbehind | ⟨heq, -⟩
    · exact hbehind
    · exact absurd heq.symm hne
  refine ⟨fun b' hbehind => ?_, fun b' hbehind => ?_, h.free_move, fun b' => h.held_move⟩
  · by_cases hne : b' = b
    · subst hne
      exact h.self.1 hbehind
    · rw [standing_move_of_ne r hne]
      exact h.refused b' (hback hne hbehind)
  · by_cases hne : b' = b
    · subst hne
      exact h.self.2 hbehind
    · rw [standing_move_of_ne r hne, h.after b' (fun hb => hbehind (hb.append_singleton b)),
        List.count_append, List.count_singleton, if_neg (by simpa using fun heq => hne heq.symm),
        Nat.add_zero]

theorem tells_run (schedule : List Side) : (run schedule).Tells schedule := by
  induction schedule using List.reverseRecOn with
  | nil =>
    exact ⟨fun b h => absurd h (not_behind_nil 0 b), fun b _ => rfl, nofun, nofun⟩
  | append_singleton schedule b ih =>
    rw [run_append_singleton]
    exact tells_move ih

end Race

variable {c : Configuration} {k : Stretcher} {password : String}

/-- What the file says about the seed: it is that of whoever holds it. -/
def SeedOf (k : Stretcher) (secret : Side → Bytes) (password : String) (fields : Fields) :
    Option Side → Prop
  | none => Json.Fields.get? fields seedField = none
  | some b => ∃ x : Sealed, Json.Fields.get? fields seedField = some (.object x.toFields) ∧
      Sealed.unlock k (.object x.toFields) password = .ok (secret b)

theorem SeedOf.isSome {secret : Side → Bytes} {fields : Fields} {holder : Option Side}
    (h : SeedOf k secret password fields holder) :
    (Json.Fields.get? fields seedField).isSome = holder.isSome := by
  cases holder with
  | none => rw [h]; rfl
  | some b =>
    obtain ⟨x, hget, -⟩ := h
    rw [hget]
    rfl

section Recordings

variable [Json.Nesting]

/-- The job that is left at a standing. -/
inductive Stands (c : Configuration) (k : Stretcher) (secret : Bytes) (password : String) :
    Standing → Job → Prop
  | fresh : Stands c k secret password .fresh (.recordSeed c secret password)
  | unseeded : Stands c k secret password .unseeded
      (.whenKnown password (.keep seedField secret password c.seedMessage))
  | concealed (x : Sealed) (hx : Sealed.unlock k (.object x.toFields) password = .ok secret) :
      Stands c k secret password .concealed
        (.update seedField (.object x.toFields) (.note c.seedMessage (.ended (.ok ()))))
  | loaded (x : Sealed) (hx : Sealed.unlock k (.object x.toFields) password = .ok secret)
      (fields : Fields) (hfields : Config.Storable fields) (hfits : Config.Fits fields)
      (hknown : Config.verdict k fields password = .ok (some true)) :
      Stands c k secret password .loaded
        (.save (fields.set seedField (.object x.toFields)) (.note c.seedMessage (.ended (.ok ()))))
  | recorded : Stands c k secret password .recorded (.ended (.ok ()))
  | refused : Stands c k secret password .refused
      (.ended (.error (.storage (.seedExists c.file))))

/-- A job that has ended stands as it has ended. -/
theorem Stands.ended {secret : Bytes} {x : Standing} {j : Job}
    (h : Stands c k secret password x j) : (x = .recorded → j = .ended (.ok ())) ∧
      (x = .refused → j = .ended (.error (.storage (.seedExists c.file)))) := by
  cases h with
  | recorded => exact ⟨fun _ => rfl, nofun⟩
  | refused => exact ⟨nofun, fun _ => rfl⟩
  | _ => exact ⟨nofun, nofun⟩

/-- Two recordings stand as a race says. -/
structure Joint.Matches (c : Configuration) (k : Stretcher) (secret : Side → Bytes)
    (password : String) (w : Joint) (r : Race) : Prop where
  stands : ∀ b, Stands c k (secret b) password (r.standing b) (w.job b)
  works : k.Works
  stretcher : ∀ b, (w.session b).stretcher = k
  file : ∃ fields, Stores w.disk c.file fields ∧
    Config.verdict k fields password = .ok (some true) ∧
    SeedOf k secret password fields r.holder

/-- What one access of a side leaves to do, and what it does to the file. -/
theorem Stands.access {secret : Side → Bytes} {b : Side} {x : Standing} {holder : Option Side}
    {j : Job} {s : Session} {fields : Fields} (h : Stands c k (secret b) password x j)
    (hworks : k.Works)
    (hstretcher : s.stretcher = k) (hstores : Stores s.disk c.file fields)
    (hknown : Config.verdict k fields password = .ok (some true))
    (hseed : SeedOf k secret password fields holder) :
    Stands c k (secret b) password (x.next holder.isSome) (j.access c s).1 ∧
      (j.access c s).2.stretcher = k ∧
      ∃ fields, Stores (j.access c s).2.disk c.file fields ∧
        Config.verdict k fields password = .ok (some true) ∧
        SeedOf k secret password fields (if x = .loaded then some b else holder) := by
  have hload := hstores.load
  cases h with
  | fresh =>
    rw [Job.recordSeed, Job.access, hload]
    dsimp only
    rw [hseed.isSome]
    cases holder with
    | none => exact ⟨.unseeded, hstretcher, fields, hstores, hknown, hseed⟩
    | some b' => exact ⟨.refused, hstretcher, fields, hstores, hknown, hseed⟩
  | unseeded =>
    obtain ⟨sealedSeed, hlock⟩ :=
      Sealed.lock_of_works (hstretcher ▸ hworks : s.stretcher.Works) s.salts (secret b) password
    have hopens := Sealed.unlock_lock hlock (Session.length_upcoming _ _)
    rw [Job.whenKnown, Job.access, hload]
    dsimp only
    rw [hstretcher, hknown]
    dsimp only
    rw [Job.keep, Job.settle, show s.lock (secret b) password = .ok sealedSeed from hlock]
    exact ⟨.concealed sealedSeed (hstretcher ▸ hopens), hstretcher, fields, hstores, hknown, hseed⟩
  | concealed sealedSeed hopens =>
    rw [Job.update, Job.access, hload]
    exact ⟨.loaded sealedSeed hopens fields (Config.load_storable hload) hstores.fits hknown,
      hstretcher, fields, hstores, hknown, hseed⟩
  | loaded sealedSeed hopens written hwritten hfits hwrittenKnown =>
    have hrecordable := Configuration.recordable_sealed sealedSeed
    have hset := hfits.set seedField hrecordable.shallow
    obtain ⟨content, hholds, -⟩ := hstores.holds
    obtain ⟨d, hsave, hsaved⟩ := Config.save_of_holds hholds hset
    rw [Job.access, hsave]
    have hknown' := (Config.verdict_set_of_ne written (.object sealedSeed.toFields)
      (show seedField ≠ checkField by decide)).trans hwrittenKnown
    exact ⟨.recorded, hstretcher, _,
      Config.stores_of_holds (hwritten.set (by decide) hrecordable) hset hsaved, hknown',
      sealedSeed, Json.Fields.get?_set_self _ _ _, hopens⟩
  | recorded => exact ⟨.recorded, hstretcher, fields, hstores, hknown, hseed⟩
  | refused => exact ⟨.refused, hstretcher, fields, hstores, hknown, hseed⟩

namespace Joint

variable {secret : Side → Bytes} {w : Joint} {r : Race}

theorem Matches.move (h : w.Matches c k secret password r) (b : Side) :
    (w.move c b).Matches c k secret password (r.move b) := by
  obtain ⟨fields, hstores, hknown, hseed⟩ := h.file
  obtain ⟨hstands, hstretcher, hfile⟩ := (h.stands b).access (s := (w.session b).storing w.disk)
    h.works (h.stretcher b) hstores hknown hseed
  refine ⟨fun b' => ?_, h.works, fun b' => ?_, hfile⟩
  · rw [Race.move, Joint.move]
    by_cases hne : b' = b
    · subst hne
      simpa only [Function.update_self] using hstands
    · simpa only [Function.update_of_ne hne] using h.stands b'
  · rw [Joint.move]
    by_cases hne : b' = b
    · subst hne
      simpa only [Function.update_self] using hstretcher
    · simpa only [Function.update_of_ne hne] using h.stretcher b'

theorem Matches.run (h : w.Matches c k secret password r) (schedule : List Side) :
    (w.run c schedule).Matches c k secret password (schedule.foldl Race.move r) := by
  induction schedule generalizing w r with
  | nil => exact h
  | cons b schedule ih => exact ih (h.move b)

/-- What is left to do of two recordings, and whose seed the file holds, as a race says. -/
theorem matches_both {d : Disk} {fields : Fields} (secret : Side → Bytes)
    {session : Side → Session} (hworks : k.Works) (hstores : Stores d c.file fields)
    (hfree : Config.seedExists d c.file = .ok false)
    (hknown : Config.checkPassword k d c.file password = .ok (some true))
    (hstretcher : ∀ b, (session b).stretcher = k) (schedule : List Side) :
    ((both c d secret password session).run c schedule).Matches c k secret password
      (Race.run schedule) := by
  refine Matches.run ⟨fun b => .fresh, hworks, hstretcher, fields, hstores, ?_, ?_⟩ schedule
  · rw [Config.checkPassword_eq, hstores.load] at hknown
    exact hknown
  · exact Config.get?_seed_of_not_exists hstores.load hfree

theorem Matches.seed_eq {b : Side} (h : w.Matches c k secret password r)
    (hholder : r.holder = some b) :
    Config.seed k w.disk c.file password = .ok (some (secret b)) := by
  obtain ⟨fields, hstores, -, hseed⟩ := h.file
  rw [hholder] at hseed
  obtain ⟨x, hget, hopens⟩ := hseed
  simp only [Config.seed, hstores.load, hget, hopens]

/-- When both have ended, whoever looked for a seed after the other had written was refused and the
seed of the other is recorded. If no one was refused both have recorded a seed, and the one that was
written last is in the file. The password is known, so one that can be stretched once always can. -/
theorem recordSeed_interleaved {d : Disk} {fields : Fields} (secret : Side → Bytes)
    (session : Side → Session) (hsteady : k.Steady) (hstores : Stores d c.file fields)
    (hfree : Config.seedExists d c.file = .ok false)
    (hknown : Config.checkPassword k d c.file password = .ok (some true))
    (hstretcher : ∀ b, (session b).stretcher = k) (schedule : List Side)
    (hends : ∀ b, 4 ≤ schedule.count b) :
    (∀ b, Behind 0 b schedule →
      ((both c d secret password session).run c schedule).job b =
          .ended (.error (.storage (.seedExists c.file))) ∧
        ((both c d secret password session).run c schedule).job b.other = .ended (.ok ()) ∧
        Config.seed k ((both c d secret password session).run c schedule).disk c.file password =
          .ok (some (secret b.other))) ∧
    ((∀ b, ¬ Behind 0 b schedule) → ∃ b, Behind 3 b schedule ∧
      (∀ b', ((both c d secret password session).run c schedule).job b' = .ended (.ok ())) ∧
      Config.seed k ((both c d secret password session).run c schedule).disk c.file password =
        .ok (some (secret b))) := by
  have hworks := Config.works_of_checkPassword hsteady hknown
  have hmatches := matches_both secret hworks hstores hfree hknown hstretcher schedule
  have htells := Race.tells_run schedule
  have hrecorded : ∀ b, ¬ Behind 0 b schedule → (Race.run schedule).standing b = .recorded :=
    fun b hnot => by rw [htells.after b hnot, Standing.after_of_le (hends b)]
  constructor
  · intro b hbehind
    have hother := hrecorded b.other hbehind.not_other
    obtain ⟨b', hholder⟩ := Option.isSome_iff_exists.mp (htells.holder_of_recorded hother)
    have hne : b' ≠ b := by
      rintro rfl
      have hstanding := (htells.held b' hholder).1
      rw [htells.refused b' hbehind] at hstanding
      cases hstanding
    obtain rfl := Side.eq_other_of_ne hne
    exact ⟨(hmatches.stands b).ended.2 (htells.refused b hbehind), (hmatches.stands _).ended.1 hother,
      hmatches.seed_eq hholder⟩
  · intro hnone
    obtain ⟨b, hholder⟩ := Option.isSome_iff_exists.mp
      (htells.holder_of_recorded (hrecorded .left (hnone .left)))
    refine ⟨b, (htells.held b hholder).2 (hrecorded _ (hnone _)), fun b' => ?_,
      hmatches.seed_eq hholder⟩
    exact (hmatches.stands b').ended.1 (hrecorded b' (hnone b'))

end Joint

end Recordings

namespace Joint

open scoped Json.Nesting

/-- Two seeds that are about to be recorded in that file. -/
def twoSeeds : Side → Bytes
  | .left => [0]
  | .right => [1]

def twoRecordings : Joint :=
  both Configuration.nearby Configuration.knowing twoSeeds "password" fun _ => Session.bare []

theorem matches_twoRecordings (schedule : List Side) :
    (twoRecordings.run Configuration.nearby schedule).Matches Configuration.nearby
      (Session.bare []).stretcher twoSeeds "password" (Race.run schedule) := by
  obtain ⟨⟨fields, hstores⟩, hfree, hknown⟩ := Configuration.knowing_file
  exact matches_both twoSeeds ⟨by decide, fun _ => rfl⟩ hstores hfree hknown (fun _ => rfl) schedule

/-- Whoever comes after the other is refused. -/
theorem recordSeed_interleaved_turns :
    let turns : List Side := .replicate 4 .left ++ .replicate 4 .right
    (twoRecordings.run Configuration.nearby turns).job .right =
        .ended (.error (.storage (.seedExists Configuration.nearby.file))) ∧
      (twoRecordings.run Configuration.nearby turns).job .left = .ended (.ok ()) ∧
      Config.seed (Session.bare []).stretcher (twoRecordings.run Configuration.nearby turns).disk
        Configuration.nearby.file "password" = .ok (some [0]) := by
  intro turns
  obtain ⟨⟨fields, hstores⟩, hfree, hknown⟩ := Configuration.knowing_file
  have hends : ∀ b, 4 ≤ turns.count b := by
    intro b
    cases b <;> decide
  have hbehind : Behind 0 .right turns :=
    ⟨.replicate 4 .left, .replicate 3 .right, rfl, by decide, by decide⟩
  have hall := recordSeed_interleaved twoSeeds (fun _ => Session.bare []) (.inl fun _ => rfl)
    hstores hfree hknown (fun _ => rfl) turns hends
  exact hall.1 .right hbehind

/-- When the sides take turns both record a seed, and the one recorded first is overwritten. -/
theorem seed_overwritten :
    let turns : List Side := [.left, .right, .left, .right, .left, .right, .left]
    (twoRecordings.run Configuration.nearby turns).job .left = .ended (.ok ()) ∧
      Config.seed (Session.bare []).stretcher (twoRecordings.run Configuration.nearby turns).disk
        Configuration.nearby.file "password" = .ok (some [0]) ∧
      (∀ b, (twoRecordings.run Configuration.nearby (turns ++ [.right])).job b =
        .ended (.ok ())) ∧
      Config.seed (Session.bare []).stretcher
        (twoRecordings.run Configuration.nearby (turns ++ [.right])).disk
        Configuration.nearby.file "password" = .ok (some [1]) := by
  intro turns
  have hbefore := matches_twoRecordings turns
  have hafter := matches_twoRecordings (turns ++ [.right])
  refine ⟨(hbefore.stands .left).ended.1 rfl, hbefore.seed_eq (b := .left) rfl, fun b => ?_,
    hafter.seed_eq (b := .right) rfl⟩
  cases b with
  | left => exact (hafter.stands .left).ended.1 rfl
  | right => exact (hafter.stands .right).ended.1 rfl

end Joint
end HdProvision.Store
