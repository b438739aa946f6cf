import HdProvision.Log.Journal
import Mathlib.Data.List.Nodup

/-!
# The register of the sinks

Two lists tell which sinks there are: the register, by their kinds, and the observers of the journal.
Whatever is done to the journal, the two stay in step: behind the observers of others there stands one
observer for each kind that is registered, at the end of its file, and nothing else.
-/

set_option autoImplicit false

namespace HdProvision.Log

/-- What can be done to a journal. -/
inductive Act
  | start (kind : Kind)
  | stop (kind : Kind)
  | stopAll
  | setLevel (name : String)
  /-- A message of the program itself is logged. -/
  | note (stamp : String) (level : Level) (source : String) (message : Option String)
  /-- Someone else logs an event. -/
  | publish (stamp : String) (e : Event)
  deriving DecidableEq, Repr

namespace Journal

/-- Does it; the second part of the result is what is printed. -/
def perform (j : Journal) : Act → Journal × String
  | .start kind => (j.start kind, "")
  | .stop kind => (j.stop kind, "")
  | .stopAll => (j.stopAll, "")
  | .setLevel name => ((j.setLevel name).2, "")
  | .note stamp level source message => j.note stamp level source message
  | .publish stamp e => j.publish stamp e

/-- Does one thing after another. -/
def run (j : Journal) : List Act → Journal × String
  | [] => (j, "")
  | a :: as =>
    let (j, printed) := j.perform a
    let (j, more) := j.run as
    (j, printed ++ more)

/-- Whether a sink of a kind is registered. -/
def runs (j : Journal) (kind : Kind) : Bool := (j.running.lookup kind).isSome

/-- The observer of a registered sink. It stands where a new sink would. -/
def sink (files : Files) (r : Kind × Nat) : Observer := ⟨r.2, (openTarget files r.1).1⟩

/-- The register and the observers are in step; `foreign` are the observers of others. -/
structure InStep (foreign : List Observer) (j : Journal) : Prop where
  observers : j.observers = foreign ++ j.running.map (sink j.files)
  once : j.kinds.Nodup
  ids : (j.running.map (·.2)).Nodup
  apart : ∀ o ∈ foreign, ∀ r ∈ j.running, o.id ≠ r.2
  /-- The next number is that of nobody. -/
  fresh : (∀ o ∈ foreign, o.id < j.nextId) ∧ ∀ r ∈ j.running, r.2 < j.nextId

variable {foreign : List Observer} {j : Journal} {kind : Kind}

theorem runs_iff : j.runs kind ↔ kind ∈ j.kinds := by
  rw [runs, Option.isSome_iff_ne_none, Ne, List.lookup_eq_none_iff, kinds, List.mem_map]
  constructor
  · intro h
    by_contra hnone
    exact h fun r hr => bne_iff_ne.mpr fun hkind => hnone ⟨r, hr, hkind.symm⟩
  · rintro ⟨r, hr, rfl⟩ hall
    exact bne_iff_ne.mp (hall r hr) rfl

/-- Before a sink was started the observers are all those of others. -/
theorem inStep_of_none (hnone : j.running = []) (hids : ∀ o ∈ j.observers, o.id < j.nextId) :
    InStep j.observers j := by
  refine ⟨by simp [hnone], by simp [kinds, hnone], by simp [hnone], by simp [hnone], hids, ?_⟩
  simp [hnone]

theorem openTarget_openTarget (files : Files) (kind other : Kind) :
    (openTarget (openTarget files kind).2 other).1 = (openTarget files other).1 := by
  cases kind <;> cases other <;> rfl

theorem sink_openTarget (files : Files) (kind : Kind) :
    sink (openTarget files kind).2 = sink files :=
  funext fun r => congrArg (Observer.mk r.2) (openTarget_openTarget files kind r.1)

theorem start_of_runs (h : j.runs kind) : j.start kind = j := if_pos h

theorem start_of_not (h : ¬ j.runs kind) : j.start kind =
    { j with
      observers := j.observers ++ [sink j.files (kind, j.nextId)]
      running := j.running ++ [(kind, j.nextId)]
      nextId := j.nextId + 1
      files := (openTarget j.files kind).2 } :=
  if_neg h

theorem InStep.start (h : InStep foreign j) (kind : Kind) : InStep foreign (j.start kind) := by
  by_cases hruns : j.runs kind
  · rwa [start_of_runs hruns]
  have hnew : kind ∉ j.kinds := fun hmem => hruns (runs_iff.mpr hmem)
  have hid : j.nextId ∉ j.running.map (·.2) := by
    intro hmem
    obtain ⟨r, hr, hid⟩ := List.mem_map.mp hmem
    exact Nat.ne_of_lt (h.fresh.2 r hr) hid
  rw [start_of_not hruns]
  refine ⟨?_, ?_, ?_, ?_, ?_⟩
  · simp only [sink_openTarget, List.map_append, List.map_cons, List.map_nil, h.observers,
      List.append_assoc]
  · simp only [kinds, List.map_append, List.map_cons, List.map_nil]
    exact h.once.append (List.nodup_singleton _) (List.disjoint_singleton.mpr hnew)
  · simp only [List.map_append, List.map_cons, List.map_nil]
    exact h.ids.append (List.nodup_singleton _) (List.disjoint_singleton.mpr hid)
  · intro o ho r hr
    rcases List.mem_append.mp hr with hold | hlast
    · exact h.apart o ho r hold
    · obtain rfl := List.mem_singleton.mp hlast
      exact Nat.ne_of_lt (h.fresh.1 o ho)
  · refine ⟨fun o ho => Nat.lt_succ_of_lt (h.fresh.1 o ho), fun r hr => ?_⟩
    rcases List.mem_append.mp hr with hold | hlast
    · exact Nat.lt_succ_of_lt (h.fresh.2 r hold)
    · obtain rfl := List.mem_singleton.mp hlast
      exact Nat.lt_succ_self _

/-- Fewer registered sinks, with the observers that are left, are in step as well. -/
theorem InStep.filter (h : InStep foreign j) (p : Kind × Nat → Bool) :
    InStep foreign { j with
      observers := foreign ++ (j.running.filter p).map (sink j.files)
      running := j.running.filter p } where
  observers := rfl
  once := h.once.sublist (List.filter_sublist.map _)
  ids := h.ids.sublist (List.filter_sublist.map _)
  apart := fun o ho r hr => h.apart o ho r (List.mem_of_mem_filter hr)
  fresh := ⟨h.fresh.1, fun r hr => h.fresh.2 r (List.mem_of_mem_filter hr)⟩

theorem running_stop (j : Journal) (kind : Kind) :
    (j.stop kind).running = j.running.filter fun r => r.1 ≠ kind := by
  rw [stop]
  split
  · next hnone =>
    refine (List.filter_eq_self.mpr fun r hr => ?_).symm
    have hne := bne_iff_ne.mp (List.lookup_eq_none_iff.mp hnone r hr)
    exact decide_eq_true fun hkind => hne hkind.symm
  · rfl

/-- Where neither kinds nor numbers come up twice, they name the same entry. -/
theorem filter_entries {running : List (Kind × Nat)} {id : Nat} (hmem : (kind, id) ∈ running)
    (honce : (running.map (·.1)).Nodup) (hids : (running.map (·.2)).Nodup) :
    running.filter (fun r => r.2 ≠ id) = running.filter fun r => r.1 ≠ kind := by
  have hsame : ∀ r ∈ running, (r.2 = id ↔ r.1 = kind) := by
    refine fun r hr => ⟨fun heq => ?_, fun heq => ?_⟩
    · exact congrArg Prod.fst (List.inj_on_of_nodup_map hids hr hmem heq)
    · exact congrArg Prod.snd (List.inj_on_of_nodup_map honce hr hmem heq)
  exact List.filter_congr fun r hr => decide_eq_decide.mpr (not_congr (hsame r hr))

theorem mem_of_lookup {running : List (Kind × Nat)} {id : Nat} (hid : running.lookup kind = some id) :
    (kind, id) ∈ running := by
  obtain ⟨before, behind, rfl, -⟩ := List.lookup_eq_some_iff.mp hid
  exact List.mem_append_right _ List.mem_cons_self

/-- The only observer that goes with a kind is that of its sink. -/
theorem InStep.detached {id : Nat} (h : InStep foreign j) (hid : j.running.lookup kind = some id) :
    (j.detach id).observers =
      foreign ++ (j.running.filter fun r => r.1 ≠ kind).map (sink j.files) := by
  have hmem := mem_of_lookup hid
  have hforeign : (foreign.filter fun o => o.id ≠ id) = foreign :=
    List.filter_eq_self.mpr fun o ho => decide_eq_true (h.apart o ho _ hmem)
  change j.observers.filter (fun o => o.id ≠ id) = _
  rw [h.observers, List.filter_append, hforeign, List.filter_map, ← filter_entries hmem h.once h.ids]
  rfl

theorem InStep.stop (h : InStep foreign j) (kind : Kind) : InStep foreign (j.stop kind) := by
  rw [Journal.stop]
  split
  · exact h
  · next id hid =>
    have hfewer := h.filter fun r => r.1 ≠ kind
    rwa [← h.detached hid] at hfewer

theorem InStep.stopEach (h : InStep foreign j) (kinds : List Kind) :
    InStep foreign (kinds.foldl Journal.stop j) := by
  induction kinds generalizing j with
  | nil => exact h
  | cons kind kinds ih => exact ih (h.stop kind)

theorem running_stopEach (j : Journal) (kinds : List Kind) :
    (kinds.foldl stop j).running = j.running.filter fun r => r.1 ∉ kinds := by
  induction kinds generalizing j with
  | nil => simp
  | cons kind kinds ih =>
    rw [List.foldl_cons, ih, running_stop, List.filter_filter]
    refine List.filter_congr fun r _ => ?_
    simp [Bool.and_comm]

theorem running_stopAll (j : Journal) : j.stopAll.running = [] := by
  rw [stopAll, running_stopEach]
  refine List.filter_eq_nil_iff.mpr fun r hr => ?_
  simpa using ⟨r.2, hr⟩

end Journal
end HdProvision.Log
