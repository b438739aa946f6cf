import HdProvision.Proofs.Log.Delivery

/-!
# The ledger of what is attached

When observers are attached that are in no register, sinks of one kind may write over each other, and
the register and the observers are in step no more. What stays true is told by kinds alone: the
registered sinks stand behind all others, in the order of the register. A ledger lists the kinds, and
follows what is done to the journal.
-/

set_option autoImplicit false

namespace HdProvision.Log

/-- What an observer is told apart by, and its kind if it is a sink. -/
def Observer.tag (o : Observer) : Nat × Option Kind := (o.id, o.target.kind?)

/-- The kinds of what is attached: of observers that are in no register, and of the registered sinks. -/
structure Ledger where
  strays : List (Option Kind)
  listed : List Kind
  deriving DecidableEq, Repr

namespace Ledger

def empty : Ledger := ⟨[], []⟩

def attached (t : Ledger) : List (Option Kind) := t.strays ++ t.listed.map some

/-- What an act does to a ledger. -/
def after (t : Ledger) : Act → Ledger
  | .start kind => if kind ∈ t.listed then t else { t with listed := t.listed ++ [kind] }
  | .stop kind => { t with listed := t.listed.filter fun other => other ≠ kind }
  | .stopAll => { t with listed := [] }
  | .setLevel _ | .note _ _ _ _ | .publish _ _ => t

end Ledger

namespace Journal

def tags (j : Journal) : List (Nat × Option Kind) := j.observers.map Observer.tag

/-- The observers are `front` and behind them the registered sinks, and no number comes up twice. -/
structure Listed (front : List (Nat × Option Kind)) (j : Journal) : Prop where
  tags : j.tags = front ++ j.running.map fun r => (r.2, some r.1)
  once : j.kinds.Nodup
  ids : (j.tags.map (·.1)).Nodup
  fresh : ∀ g ∈ j.tags, g.1 < j.nextId

/-- The journal is as a ledger says. -/
def Follows (t : Ledger) (j : Journal) : Prop :=
  ∃ front, Listed front j ∧ t = ⟨front.map (·.2), j.kinds⟩

variable {front : List (Nat × Option Kind)} {j j' : Journal} {kind : Kind} {t : Ledger}
  {stamp : String} {e : Event}

theorem tag_deliver (l : Level) (stamp : String) (e : Event) (o : Observer) (collected : List Event)
    (files : Files) : (deliver l stamp e o collected files).observer.tag = o.tag := by
  obtain ⟨id, target⟩ := o
  cases target with
  | collector | console => rfl
  | text place | json place =>
    by_cases hpasses : e.level.passes l <;> simp [deliver, hpasses, Observer.tag, Target.kind?]

theorem tags_deliverAll (l : Level) (stamp : String) (e : Event) (os : List Observer)
    (collected : List Event) (files : Files) :
    (deliverAll l stamp e os collected files).1.map Observer.tag = os.map Observer.tag := by
  induction os generalizing collected files with
  | nil => rfl
  | cons o os ih => simp [deliverAll, tag_deliver, ih]

theorem tags_publish (stamp : String) (e : Event) (j : Journal) :
    (j.publish stamp e).1.tags = j.tags := tags_deliverAll ..

/-- Only collectors collect. -/
theorem collected_deliverAll (l : Level) (stamp : String) (e : Event) {os : List Observer}
    (hsinks : ∀ o ∈ os, o.target.kind? ≠ none) (collected : List Event) (files : Files) :
    (deliverAll l stamp e os collected files).2.1 = collected := by
  induction os generalizing collected files with
  | nil => rfl
  | cons o os ih =>
    have hkept : (deliver l stamp e o collected files).collected = collected := by
      have hsink := hsinks o List.mem_cons_self
      obtain ⟨id, target⟩ := o
      cases target with
      | collector => exact absurd rfl hsink
      | console => rfl
      | text place | json place => by_cases hpasses : e.level.passes l <;> simp [deliver, hpasses]
    simp [deliverAll, hkept, ih fun o' ho => hsinks o' (List.mem_cons_of_mem _ ho)]

/-- Each sink on the console prints an event that passes. -/
theorem deliverAll_printed (l : Level) (stamp : String) (e : Event) (os : List Observer)
    (collected : List Event) (files : Files) : (deliverAll l stamp e os collected files).2.2.2 =
      if e.level.passes l then
        lines (List.replicate ((os.map (·.target.kind?)).count (some .console)) (stamp, e))
      else "" := by
  induction os generalizing collected files with
  | nil => simp [deliverAll, lines]
  | cons o os ih =>
    obtain ⟨id, target⟩ := o
    by_cases hpasses : e.level.passes l <;>
      cases target <;>
        simp [deliverAll, deliver, hpasses, ih, Target.kind?, List.replicate_succ, lines]

theorem Listed.congr (h : Listed front j) (htags : j'.tags = j.tags) (hrunning : j'.running = j.running)
    (hnext : j'.nextId = j.nextId) : Listed front j' := by
  refine ⟨?_, ?_, ?_, ?_⟩
  · rw [htags, hrunning, h.tags]
  · rw [kinds, hrunning]
    exact h.once
  · rw [htags]
    exact h.ids
  · rw [htags, hnext]
    exact h.fresh

theorem tags_start (h : ¬ j.runs kind) : (j.start kind).tags = j.tags ++ [(j.nextId, some kind)] := by
  rw [start_of_not h, tags, List.map_append]
  simp [tags, Observer.tag, kind_sink, show (sink j.files (kind, j.nextId)).id = j.nextId from rfl]

theorem Listed.start (h : Listed front j) (kind : Kind) : Listed front (j.start kind) := by
  by_cases hruns : j.runs kind
  · rwa [start_of_runs hruns]
  have hnew : kind ∉ j.kinds := fun hmem => hruns (runs_iff.mpr hmem)
  have htags := tags_start hruns
  rw [start_of_not hruns] at htags ⊢
  refine ⟨?_, ?_, ?_, ?_⟩
  · simp [htags, h.tags]
  · simpa [kinds] using h.once.append (List.nodup_singleton kind) (List.disjoint_singleton.mpr hnew)
  · have hid : j.nextId ∉ j.tags.map (·.1) := by
      intro hmem
      obtain ⟨g, hg, hid⟩ := List.mem_map.mp hmem
      exact Nat.ne_of_lt (h.fresh g hg) hid
    rw [htags, List.map_append]
    exact h.ids.append (List.nodup_singleton _) (List.disjoint_singleton.mpr hid)
  · intro g hg
    rw [htags] at hg
    rcases List.mem_append.mp hg with hold | hlast
    · exact Nat.lt_succ_of_lt (h.fresh g hold)
    · obtain rfl := List.mem_singleton.mp hlast
      exact Nat.lt_succ_self _

theorem tags_detach (j : Journal) (id : Nat) :
    (j.detach id).tags = j.tags.filter fun g => g.1 ≠ id := by
  rw [tags, tags, List.filter_map]
  rfl

theorem Listed.stop (h : Listed front j) (kind : Kind) : Listed front (j.stop kind) := by
  rw [Journal.stop]
  split
  · exact h
  · next id hid =>
    have hmem := mem_of_lookup hid
    obtain ⟨-, hids, hapart⟩ : (front.map (·.1)).Nodup ∧ (j.running.map (·.2)).Nodup ∧
        List.Disjoint (front.map (·.1)) (j.running.map (·.2)) := by
      have hids := h.ids
      rw [h.tags, List.map_append, List.nodup_append', List.map_map] at hids
      exact hids
    have hfront : (front.filter fun g => g.1 ≠ id) = front := by
      refine List.filter_eq_self.mpr fun g hg => decide_eq_true fun heq => ?_
      exact hapart (List.mem_map_of_mem hg) (heq ▸ List.mem_map_of_mem hmem)
    refine ⟨?_, ?_, ?_, ?_⟩
    · change (j.detach id).tags = _
      rw [tags_detach, h.tags, List.filter_append, hfront, List.filter_map,
        ← filter_entries hmem h.once hids]
      rfl
    · exact h.once.sublist (List.filter_sublist.map _)
    · change ((j.detach id).tags.map (·.1)).Nodup
      rw [tags_detach]
      exact h.ids.sublist (List.filter_sublist.map _)
    · change ∀ g ∈ (j.detach id).tags, g.1 < j.nextId
      rw [tags_detach]
      exact fun g hg => h.fresh g (List.mem_of_mem_filter hg)

theorem Listed.stopEach (h : Listed front j) (kinds : List Kind) :
    Listed front (kinds.foldl Journal.stop j) := by
  induction kinds generalizing j with
  | nil => exact h
  | cons kind kinds ih => exact ih (h.stop kind)

/-- Stopping sinks detaches the observers that the register has for them, and no other. -/
theorem observers_stop (honce : j.kinds.Nodup) (kind : Kind) : (j.stop kind).observers =
    j.observers.filter fun o => ∀ r ∈ j.running, r.1 = kind → r.2 ≠ o.id := by
  rw [Journal.stop]
  cases hid : j.running.lookup kind with
  | none =>
    have hnone : kind ∉ j.kinds := by simp [← runs_iff, runs, hid]
    refine (List.filter_eq_self.mpr fun o _ => decide_eq_true fun r hr hkind => ?_).symm
    exact absurd (List.mem_map.mpr ⟨r, hr, hkind⟩) hnone
  | some id =>
    refine List.filter_congr fun o _ => decide_eq_decide.mpr ⟨fun hne r hr hkind => ?_, fun hall => ?_⟩
    · have hsame := List.inj_on_of_nodup_map honce hr (mem_of_lookup hid) hkind
      exact hsame ▸ Ne.symm hne
    · exact (hall _ (mem_of_lookup hid) rfl).symm

theorem observers_stopEach (honce : j.kinds.Nodup) (kinds : List Kind) :
    (kinds.foldl stop j).observers =
      j.observers.filter fun o => ∀ r ∈ j.running, r.1 ∈ kinds → r.2 ≠ o.id := by
  induction kinds generalizing j with
  | nil => simp
  | cons kind kinds ih =>
    have hrest : (j.stop kind).kinds.Nodup := by
      rw [Journal.kinds, running_stop]
      exact honce.sublist (List.filter_sublist.map _)
    rw [List.foldl_cons, ih hrest, observers_stop honce, running_stop, List.filter_filter]
    refine List.filter_congr fun o _ => ?_
    rw [← Bool.decide_and, decide_eq_decide]
    constructor
    · rintro ⟨hothers, hkind⟩ r hr hmem
      by_cases heq : r.1 = kind
      · exact hkind r hr heq
      · exact hothers r (List.mem_filter.mpr ⟨hr, decide_eq_true heq⟩)
          ((List.mem_cons.mp hmem).resolve_left heq)
    · intro hall
      refine ⟨fun r hr hmem => ?_, fun r hr heq => hall r hr (heq ▸ List.mem_cons_self)⟩
      exact hall r (List.mem_of_mem_filter hr) (List.mem_cons_of_mem _ hmem)

theorem observers_stopAll (honce : j.kinds.Nodup) : j.stopAll.observers =
    j.observers.filter fun o => ∀ r ∈ j.running, r.2 ≠ o.id := by
  rw [stopAll, observers_stopEach honce]
  refine List.filter_congr fun o _ => decide_eq_decide.mpr ⟨fun hall r hr => ?_, fun hall r hr _ => ?_⟩
  · exact hall r hr (List.mem_map_of_mem hr)
  · exact hall r hr

/-- Stopping sinks attaches nothing, takes no number and collects nothing. -/
theorem stopEach_keeps (j : Journal) (kinds : List Kind) :
    (kinds.foldl stop j).nextId = j.nextId ∧ (kinds.foldl stop j).collected = j.collected ∧
      ∀ g ∈ (kinds.foldl stop j).tags, g ∈ j.tags := by
  induction kinds generalizing j with
  | nil => exact ⟨rfl, rfl, fun g hg => hg⟩
  | cons kind kinds ih =>
    obtain ⟨hnext, hcollected, htags⟩ := ih (j.stop kind)
    have hstop : (j.stop kind).nextId = j.nextId ∧ (j.stop kind).collected = j.collected ∧
        ∀ g ∈ (j.stop kind).tags, g ∈ j.tags := by
      rw [stop]
      split
      · exact ⟨rfl, rfl, fun g hg => hg⟩
      · next id _ =>
        refine ⟨rfl, rfl, fun g hg => List.mem_of_mem_filter (p := fun g => g.1 ≠ id) ?_⟩
        rwa [← tags_detach]
    exact ⟨hnext.trans hstop.1, hcollected.trans hstop.2.1, fun g hg => hstop.2.2 g (htags g hg)⟩

/-- An act attaches one new sink at most. -/
theorem tags_perform (j : Journal) (a : Act) : j.nextId ≤ (j.perform a).1.nextId ∧
    ∀ g ∈ (j.perform a).1.tags, g ∈ j.tags ∨ g.1 = j.nextId ∧ g.2 ≠ none := by
  cases a with
  | start kind =>
    by_cases hruns : j.runs kind
    · rw [Journal.perform, start_of_runs hruns]
      exact ⟨Nat.le_refl _, fun g hg => Or.inl hg⟩
    · rw [Journal.perform, tags_start hruns, start_of_not hruns]
      refine ⟨Nat.le_succ _, fun g hg => (List.mem_append.mp hg).imp_right fun hlast => ?_⟩
      obtain rfl := List.mem_singleton.mp hlast
      exact ⟨rfl, Option.some_ne_none kind⟩
  | stop kind =>
    obtain ⟨hnext, -, htags⟩ := stopEach_keeps j [kind]
    exact ⟨Nat.le_of_eq hnext.symm, fun g hg => Or.inl (htags g hg)⟩
  | stopAll =>
    obtain ⟨hnext, -, htags⟩ := stopEach_keeps j j.kinds
    exact ⟨Nat.le_of_eq hnext.symm, fun g hg => Or.inl (htags g hg)⟩
  | setLevel name =>
    rw [Journal.perform, setLevel]
    split <;> exact ⟨Nat.le_refl _, fun g hg => Or.inl hg⟩
  | note stamp level source message =>
    rw [Journal.perform, note, emit]
    split
    · exact ⟨Nat.le_refl _, fun g hg => Or.inl (tags_publish .. ▸ hg)⟩
    · exact ⟨Nat.le_refl _, fun g hg => Or.inl hg⟩
  | publish stamp e => exact ⟨Nat.le_refl _, fun g hg => Or.inl (tags_publish .. ▸ hg)⟩

/-- Where no collector is attached nothing is collected. -/
theorem collected_perform (hsinks : ∀ g ∈ j.tags, g.2 ≠ none) (a : Act) :
    (j.perform a).1.collected = j.collected := by
  have hpublish : ∀ stamp e, (j.publish stamp e).1.collected = j.collected := fun stamp e =>
    collected_deliverAll _ stamp e (fun o ho => hsinks o.tag (List.mem_map_of_mem ho)) _ _
  cases a with
  | start kind =>
    by_cases hruns : j.runs kind
    · rw [Journal.perform, start_of_runs hruns]
    · rw [Journal.perform, start_of_not hruns]
  | stop kind => exact (stopEach_keeps j [kind]).2.1
  | stopAll => exact (stopEach_keeps j j.kinds).2.1
  | setLevel name =>
    rw [Journal.perform, setLevel]
    split <;> rfl
  | note stamp level source message =>
    rw [Journal.perform, note, emit]
    split
    · exact hpublish ..
    · rfl
  | publish stamp e => exact hpublish ..

/-- The ledger of a journal follows what is done to it. -/
theorem Follows.perform (h : Follows t j) (a : Act) : Follows (t.after a) (j.perform a).1 := by
  obtain ⟨front, hlisted, rfl⟩ := h
  refine ⟨front, ?_, ?_⟩
  · cases a with
    | start kind => exact hlisted.start kind
    | stop kind => exact hlisted.stop kind
    | stopAll => exact hlisted.stopEach _
    | setLevel name =>
      rw [perform, setLevel]
      split <;> exact hlisted.congr rfl rfl rfl
    | note stamp level source message =>
      rw [perform, note, emit]
      split
      · exact hlisted.congr (tags_publish ..) rfl rfl
      · exact hlisted
    | publish stamp e => exact hlisted.congr (tags_publish ..) rfl rfl
  · cases a with
    | start kind =>
      by_cases hruns : j.runs kind
      · simp [Ledger.after, perform, start_of_runs hruns, runs_iff.mp hruns]
      · have hnew : kind ∉ j.kinds := mt runs_iff.mpr hruns
        rw [Ledger.after, if_neg hnew, perform, start_of_not hruns]
        simp [kinds]
    | stop kind =>
      simp only [Ledger.after, perform, kinds, running_stop, List.filter_map]
      rfl
    | stopAll => simp [Ledger.after, perform, kinds, running_stopAll]
    | setLevel name =>
      rw [perform, setLevel]
      split <;> rfl
    | note stamp level source message =>
      rw [perform, note, emit]
      split <;> rfl
    | publish stamp e => rfl

theorem Follows.kinds_eq (h : Follows t j) :
    j.observers.map (·.target.kind?) = t.attached := by
  obtain ⟨front, hlisted, rfl⟩ := h
  have hkinds : j.observers.map (·.target.kind?) = j.tags.map (·.2) := by simp [tags, Observer.tag]
  simp [hkinds, hlisted.tags, Ledger.attached, kinds]

theorem Follows.kinds_listed (h : Follows t j) : j.kinds = t.listed := by
  obtain ⟨front, -, rfl⟩ := h
  rfl

end Journal
end HdProvision.Log
