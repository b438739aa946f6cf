import HdProvision.Proofs.Log.Register

/-!
# Every event is delivered once

What a sink hears is told by a switchboard alone, which knows the threshold and the kinds that are
switched on. A journal prints and writes, over any sequence of acts, what the sinks hear by its
switchboard, each event once and in order.
-/

set_option autoImplicit false

namespace HdProvision.Log

/-- What matters for delivery. -/
structure Switchboard where
  threshold : Level
  on : Kind → Bool

/-- What an act does to a switchboard. -/
def Switchboard.after (b : Switchboard) : Act → Switchboard
  | .start kind => { b with on := fun other => b.on other || other = kind }
  | .stop kind => { b with on := fun other => b.on other && other ≠ kind }
  | .stopAll => { b with on := fun _ => false }
  | .setLevel name => { b with threshold := (Level.ofName? name).getD b.threshold }
  | .note _ _ _ _ | .publish _ _ => b

/-- The event that is logged, with its time stamp. -/
def Act.event? : Act → Option (String × Event)
  | .note stamp level source message => some (stamp, .ofMessage level source message)
  | .publish stamp e => some (stamp, e)
  | _ => none

/-- Whether a sink of a kind takes an event. -/
def Switchboard.passes (b : Switchboard) (kind : Kind) (e : Event) : Bool :=
  b.on kind && e.level.passes b.threshold

/-- What a sink of a kind hears. -/
def heard (kind : Kind) : Switchboard → List Act → List (String × Event)
  | _, [] => []
  | b, a :: as => a.event?.toList.filter (fun e => b.passes kind e.2) ++ heard kind (b.after a) as

/-- The lines of events. -/
def lines : List (String × Event) → String
  | [] => ""
  | (stamp, e) :: es => e.line stamp ++ lines es

/-- What the text log holds; a log that is not there holds nothing. -/
def Files.textContent (files : Files) : Bytes := files.text.getD []

/-- What the other log holds. -/
def Files.records (files : Files) : List Event := files.json.getD []

/-- The kind of sink that an observer is, if it is one. -/
def Target.kind? : Target → Option Kind
  | .collector => none
  | .console => some .console
  | .text _ => some .text
  | .json _ => some .json

theorem lines_append (es es' : List (String × Event)) :
    lines (es ++ es') = lines es ++ lines es' := by
  induction es with
  | nil => rw [List.nil_append, lines, String.empty_append]
  | cons e es ih => rw [List.cons_append, lines, ih, lines, String.append_assoc]

theorem heard_of_off {kind : Kind} {b : Switchboard} {as : List Act} (hoff : b.on kind = false)
    (hstart : Act.start kind ∉ as) : heard kind b as = [] := by
  induction as generalizing b with
  | nil => rfl
  | cons a as ih =>
    have hnext : (b.after a).on kind = false := by
      cases a with
      | start other =>
        have hne : kind ≠ other := fun heq => hstart (heq ▸ List.mem_cons_self)
        simp [Switchboard.after, hoff, hne]
      | stop other => simp [Switchboard.after, hoff]
      | _ => first | rfl | exact hoff
    rw [heard, ih hnext fun hmem => hstart (List.mem_cons_of_mem _ hmem), List.append_nil]
    refine List.filter_eq_nil_iff.mpr fun e _ => ?_
    rw [Switchboard.passes, hoff]
    exact Bool.false_ne_true

namespace Journal

/-- The files after the sinks of some kinds took an event. -/
def taken (stamp : String) (e : Event) (kinds : List Kind) (files : Files) : Files where
  text := if .text ∈ kinds then some (files.textContent ++ Utf8.encode (e.line stamp)) else files.text
  json := if .json ∈ kinds then some (files.records ++ [e]) else files.json

/-- What sinks of some kinds print when they took an event. -/
def told (stamp : String) (e : Event) (kinds : List Kind) : String :=
  if .console ∈ kinds then e.line stamp else ""

variable {foreign : List Observer} {j j' : Journal} {kind : Kind} {stamp : String} {e : Event}
  {t : Level} {printed : String}

theorem overwrite_end {α : Type} (old new : List α) :
    overwrite old old.length new = old ++ new := by
  rw [overwrite, List.take_length, List.drop_eq_nil_of_le (Nat.le_add_right _ _), List.append_nil]

theorem taken_nil (stamp : String) (e : Event) (files : Files) : taken stamp e [] files = files :=
  rfl

theorem taken_cons {kinds : List Kind} (hnew : kind ∉ kinds) (files : Files) :
    taken stamp e kinds (taken stamp e [kind] files) = taken stamp e (kind :: kinds) files := by
  cases kind <;> simp [taken, Files.textContent, Files.records, hnew]

theorem told_cons {kinds : List Kind} (hnew : kind ∉ kinds) :
    told stamp e [kind] ++ told stamp e kinds = told stamp e (kind :: kinds) := by
  cases kind <;> simp [told, hnew]

/-- The place of a sink that took no event stays. -/
theorem sink_taken {kinds : List Kind} {r : Kind × Nat} (hother : r.1 ∉ kinds) (files : Files) :
    sink (taken stamp e kinds files) r = sink files r := by
  obtain ⟨kind, id⟩ := r
  cases kind
  · rfl
  · simp_all [sink, openTarget, taken]
  · simp_all [sink, openTarget, taken]

/-- A sink that takes an event writes it at the end of its file. -/
theorem deliver_sink (hpasses : e.level.passes t) (r : Kind × Nat) (collected : List Event)
    (files : Files) : deliver t stamp e (sink files r) collected files =
      ⟨sink (taken stamp e [r.1] files) r, collected, taken stamp e [r.1] files,
        told stamp e [r.1]⟩ := by
  obtain ⟨kind, id⟩ := r
  cases kind with
  | console => simp [deliver, sink, openTarget, taken, told, hpasses]
  | text =>
    simp [deliver, sink, openTarget, taken, told, hpasses, overwrite_end, Files.textContent]
  | json => simp [deliver, sink, openTarget, taken, told, hpasses, overwrite_end, Files.records]

theorem deliverAll_append (t : Level) (stamp : String) (e : Event) (os os' : List Observer)
    (collected : List Event) (files : Files) :
    deliverAll t stamp e (os ++ os') collected files =
      let (os, collected, files, printed) := deliverAll t stamp e os collected files
      let (os', collected, files, more) := deliverAll t stamp e os' collected files
      (os ++ os', collected, files, printed ++ more) := by
  induction os generalizing collected files with
  | nil => simp [deliverAll]
  | cons o os ih => simp [deliverAll, ih, String.append_assoc]

/-- Observers of others collect the event. -/
theorem deliverAll_foreign (hforeign : ∀ o ∈ foreign, o.target = .collector)
    (collected : List Event) (files : Files) : deliverAll t stamp e foreign collected files =
      (foreign, collected ++ List.replicate foreign.length e, files, "") := by
  induction foreign generalizing collected with
  | nil => simp [deliverAll]
  | cons o os ih =>
    have hdelivered : deliver t stamp e o collected files = ⟨o, collected ++ [e], files, ""⟩ := by
      rw [deliver, hforeign o List.mem_cons_self]
    rw [deliverAll, hdelivered, ih fun o' ho => hforeign o' (List.mem_cons_of_mem _ ho)]
    simp [List.replicate_succ]

/-- Sinks of different kinds each take an event that passes. -/
theorem deliverAll_sinks (hpasses : e.level.passes t) {running : List (Kind × Nat)}
    (honce : (running.map (·.1)).Nodup) (collected : List Event) (files : Files) :
    deliverAll t stamp e (running.map (sink files)) collected files =
      (running.map (sink (taken stamp e (running.map (·.1)) files)), collected,
        taken stamp e (running.map (·.1)) files, told stamp e (running.map (·.1))) := by
  induction running generalizing files with
  | nil => rfl
  | cons r rs ih =>
    rw [List.map_cons, List.nodup_cons] at honce
    have hplaces : rs.map (sink files) = rs.map (sink (taken stamp e [r.1] files)) := by
      refine List.map_congr_left fun r' hr' => (sink_taken (fun hmem => ?_) files).symm
      exact honce.1 (List.mem_singleton.mp hmem ▸ List.mem_map_of_mem hr')
    have hfirst : sink (taken stamp e [r.1] files) r =
        sink (taken stamp e (r.1 :: rs.map (·.1)) files) r := by
      rw [← taken_cons honce.1, sink_taken honce.1]
    rw [List.map_cons, deliverAll, deliver_sink hpasses, hplaces, ih honce.2, taken_cons honce.1,
      hfirst]
    simp only [List.map_cons, told_cons honce.1]

/-- Sinks take nothing of an event that does not pass. -/
theorem deliverAll_sinks_of_not (hpasses : ¬ e.level.passes t) (running : List (Kind × Nat))
    (collected : List Event) (files : Files) :
    deliverAll t stamp e (running.map (sink files)) collected files =
      (running.map (sink files), collected, files, "") := by
  induction running with
  | nil => rfl
  | cons r rs ih =>
    have hdelivered : deliver t stamp e (sink files r) collected files =
        ⟨sink files r, collected, files, ""⟩ := by
      obtain ⟨kind, id⟩ := r
      cases kind <;> simp [deliver, sink, openTarget, hpasses]
    rw [List.map_cons, deliverAll, hdelivered, ih]
    rfl

/-- The kinds whose sinks take an event. -/
def hearing (j : Journal) (e : Event) : List Kind :=
  if e.level.passes j.threshold then j.kinds else []

theorem InStep.publish_eq (h : InStep foreign j) (hforeign : ∀ o ∈ foreign, o.target = .collector)
    (stamp : String) (e : Event) : j.publish stamp e =
      ({ j with
          observers := foreign ++ j.running.map (sink (taken stamp e (j.hearing e) j.files))
          collected := j.collected ++ List.replicate foreign.length e
          files := taken stamp e (j.hearing e) j.files },
        told stamp e (j.hearing e)) := by
  rw [publish, h.observers, deliverAll_append, deliverAll_foreign hforeign]
  by_cases hpasses : e.level.passes j.threshold
  · rw [hearing, if_pos hpasses]
    simp only [deliverAll_sinks hpasses h.once, kinds, String.empty_append]
  · rw [hearing, if_neg hpasses]
    simp only [deliverAll_sinks_of_not hpasses, taken_nil]
    rfl

/-- The switchboard of a journal. -/
def switchboard (j : Journal) : Switchboard := ⟨j.threshold, j.runs⟩

theorem mem_hearing : kind ∈ j.hearing e ↔ j.switchboard.passes kind e := by
  rw [hearing, Switchboard.passes, switchboard, Bool.and_eq_true, runs_iff]
  split
  · next hpasses => simp [hpasses]
  · next hpasses => simp [hpasses]

theorem kinds_start (j : Journal) (kind other : Kind) :
    other ∈ (j.start kind).kinds ↔ other ∈ j.kinds ∨ other = kind := by
  by_cases hruns : j.runs kind
  · rw [start_of_runs hruns]
    exact ⟨Or.inl, fun h => h.elim id fun heq => heq ▸ runs_iff.mp hruns⟩
  · rw [start_of_not hruns]
    simp [kinds]

theorem switchboard_start (j : Journal) (kind : Kind) :
    (j.start kind).switchboard = j.switchboard.after (.start kind) := by
  have hthreshold : (j.start kind).threshold = j.threshold := by
    by_cases hruns : j.runs kind
    · rw [start_of_runs hruns]
    · rw [start_of_not hruns]
  have hon : (j.start kind).runs = fun other => j.runs other || other = kind := by
    funext other
    rw [Bool.eq_iff_iff, runs_iff, kinds_start, Bool.or_eq_true, runs_iff, decide_eq_true_iff]
  rw [switchboard, hthreshold, hon]
  rfl

theorem kinds_stop (j : Journal) (kind other : Kind) :
    other ∈ (j.stop kind).kinds ↔ other ∈ j.kinds ∧ other ≠ kind := by
  rw [kinds, running_stop, kinds, List.mem_map, List.mem_map]
  constructor
  · rintro ⟨r, hr, rfl⟩
    obtain ⟨hmem, hne⟩ := List.mem_filter.mp hr
    exact ⟨⟨r, hmem, rfl⟩, of_decide_eq_true hne⟩
  · rintro ⟨⟨r, hr, rfl⟩, hne⟩
    exact ⟨r, List.mem_filter.mpr ⟨hr, decide_eq_true hne⟩, rfl⟩

theorem threshold_stop (j : Journal) (kind : Kind) : (j.stop kind).threshold = j.threshold := by
  rw [stop]
  split <;> rfl

theorem switchboard_stop (j : Journal) (kind : Kind) :
    (j.stop kind).switchboard = j.switchboard.after (.stop kind) := by
  have hon : (j.stop kind).runs = fun other => j.runs other && other ≠ kind := by
    funext other
    rw [Bool.eq_iff_iff, runs_iff, kinds_stop, Bool.and_eq_true, runs_iff, decide_eq_true_iff]
  rw [switchboard, threshold_stop, hon]
  rfl

theorem threshold_stopEach (j : Journal) (kinds : List Kind) :
    (kinds.foldl stop j).threshold = j.threshold := by
  induction kinds generalizing j with
  | nil => rfl
  | cons kind kinds ih => rw [List.foldl_cons, ih, threshold_stop]

theorem switchboard_stopAll (j : Journal) :
    j.stopAll.switchboard = j.switchboard.after .stopAll := by
  have hon : j.stopAll.runs = fun _ => false := by
    funext other
    rw [runs, running_stopAll]
    rfl
  rw [switchboard, hon, stopAll, threshold_stopEach]
  rfl

theorem files_start (j : Journal) (kind : Kind) :
    (j.start kind).files.textContent = j.files.textContent ∧
      (j.start kind).files.records = j.files.records := by
  by_cases hruns : j.runs kind
  · rw [start_of_runs hruns]
    exact ⟨rfl, rfl⟩
  · rw [start_of_not hruns]
    cases kind <;> exact ⟨rfl, rfl⟩

theorem files_stop (j : Journal) (kind : Kind) : (j.stop kind).files = j.files := by
  rw [stop]
  split <;> rfl

theorem files_stopEach (j : Journal) (kinds : List Kind) :
    (kinds.foldl stop j).files = j.files := by
  induction kinds generalizing j with
  | nil => rfl
  | cons kind kinds ih => rw [List.foldl_cons, ih, files_stop]

/-- From `j` on the sinks heard over some acts what they should, and the journal `j'` is in order. -/
structure Delivered (foreign : List Observer) (j : Journal) (as : List Act) (j' : Journal)
    (printed : String) : Prop where
  inStep : InStep foreign j'
  switchboard : j'.switchboard = as.foldl Switchboard.after j.switchboard
  console : printed = lines (heard .console j.switchboard as)
  text : j'.files.textContent = j.files.textContent ++
    (heard .text j.switchboard as).flatMap fun e => Utf8.encode (e.2.line e.1)
  json : j'.files.records = j.files.records ++ (heard .json j.switchboard as).map (·.2)

theorem Delivered.cons {a : Act} {as : List Act} {j₁ j₂ : Journal} {first more : String}
    (h : Delivered foreign j [a] j₁ first) (hrest : Delivered foreign j₁ as j₂ more) :
    Delivered foreign j (a :: as) j₂ (first ++ more) := by
  have hboard : j₁.switchboard = j.switchboard.after a := h.switchboard
  have hheard : ∀ kind, heard kind j.switchboard (a :: as) =
      heard kind j.switchboard [a] ++ heard kind j₁.switchboard as := by
    intro kind
    rw [hboard, heard, heard, heard, List.append_nil]
  refine ⟨hrest.inStep, ?_, ?_, ?_, ?_⟩
  · rw [hrest.switchboard, hboard, List.foldl_cons]
  · rw [hheard, lines_append, ← h.console, ← hrest.console]
  · rw [hheard, List.flatMap_append, hrest.text, h.text, List.append_assoc]
  · rw [hheard, List.map_append, hrest.json, h.json, List.append_assoc]

/-- An act of which no sink hears. -/
theorem delivered_of_unheard {a : Act} (hheard : ∀ kind, heard kind j.switchboard [a] = [])
    (hstep : InStep foreign j') (hboard : j'.switchboard = j.switchboard.after a)
    (htext : j'.files.textContent = j.files.textContent)
    (hjson : j'.files.records = j.files.records) : Delivered foreign j [a] j' "" := by
  refine ⟨hstep, hboard, ?_, ?_, ?_⟩
  · rw [hheard]
    rfl
  · rw [hheard, List.flatMap_nil, List.append_nil, htext]
  · rw [hheard, List.map_nil, List.append_nil, hjson]

/-- An act that logs an event. -/
theorem InStep.delivered_publish {a : Act} (h : InStep foreign j)
    (hforeign : ∀ o ∈ foreign, o.target = .collector) (hevent : a.event? = some (stamp, e))
    (hboard : j.switchboard.after a = j.switchboard) :
    Delivered foreign j [a] (j.publish stamp e).1 (j.publish stamp e).2 := by
  have hheard : ∀ kind, heard kind j.switchboard [a] =
      if kind ∈ j.hearing e then [(stamp, e)] else [] := by
    intro kind
    rw [heard, hevent, heard, List.append_nil]
    by_cases hmem : kind ∈ j.hearing e
    · simp [hmem, mem_hearing.mp hmem]
    · simp [hmem, mt mem_hearing.mpr hmem]
  rw [h.publish_eq hforeign]
  refine ⟨⟨rfl, h.once, h.ids, h.apart, h.fresh⟩, hboard.symm, ?_, ?_, ?_⟩
  · rw [hheard, told]
    split
    · rw [lines, lines, String.append_empty]
    · rfl
  · rw [hheard]
    by_cases hmem : Kind.text ∈ j.hearing e <;> simp [taken, Files.textContent, hmem]
  · rw [hheard]
    by_cases hmem : Kind.json ∈ j.hearing e <;> simp [taken, Files.records, hmem]

theorem InStep.delivered (h : InStep foreign j) (hforeign : ∀ o ∈ foreign, o.target = .collector)
    (a : Act) : Delivered foreign j [a] (j.perform a).1 (j.perform a).2 := by
  cases a with
  | start kind =>
    exact delivered_of_unheard (fun _ => rfl) (h.start kind) (switchboard_start j kind)
      (files_start j kind).1 (files_start j kind).2
  | stop kind =>
    exact delivered_of_unheard (fun _ => rfl) (h.stop kind) (switchboard_stop j kind)
      (congrArg Files.textContent (files_stop j kind)) (congrArg Files.records (files_stop j kind))
  | stopAll =>
    exact delivered_of_unheard (fun _ => rfl) (h.stopEach _) (switchboard_stopAll j)
      (congrArg Files.textContent (files_stopEach j _))
      (congrArg Files.records (files_stopEach j _))
  | setLevel name =>
    rw [perform, setLevel]
    cases hname : Level.ofName? name with
    | none =>
      refine delivered_of_unheard (fun _ => rfl) h ?_ rfl rfl
      rw [Switchboard.after, hname]
      rfl
    | some l =>
      refine delivered_of_unheard (fun _ => rfl) ⟨h.observers, h.once, h.ids, h.apart, h.fresh⟩ ?_
        rfl rfl
      rw [Switchboard.after, hname]
      rfl
  | note stamp level source message =>
    rw [perform, note, emit]
    split
    · exact h.delivered_publish hforeign rfl rfl
    · next hlow =>
      refine delivered_of_unheard (fun kind => ?_) h rfl rfl rfl
      rw [heard, heard, List.append_nil]
      refine List.filter_eq_nil_iff.mpr fun e he => ?_
      obtain rfl := List.mem_singleton.mp he
      rw [Switchboard.passes, Bool.and_eq_true, not_and]
      exact fun _ => hlow
  | publish stamp e => exact h.delivered_publish hforeign rfl rfl

/-- Over any acts everything is delivered as it should. -/
theorem InStep.delivered_run (h : InStep foreign j)
    (hforeign : ∀ o ∈ foreign, o.target = .collector) (as : List Act) :
    Delivered foreign j as (j.run as).1 (j.run as).2 := by
  induction as generalizing j with
  | nil =>
    refine ⟨h, rfl, rfl, ?_, ?_⟩
    · rw [heard, List.flatMap_nil, List.append_nil]
      rfl
    · rw [heard, List.map_nil, List.append_nil]
      rfl
  | cons a as ih =>
    have hfirst := h.delivered hforeign a
    exact hfirst.cons (ih hfirst.inStep)

theorem kind_sink (files : Files) (r : Kind × Nat) : (sink files r).target.kind? = some r.1 := by
  obtain ⟨kind, id⟩ := r
  cases kind <;> rfl

/-- In a register that names a kind once at most, looking it up finds all that it names. -/
theorem toList_lookup {running : List (Kind × Nat)} (honce : (running.map (·.1)).Nodup)
    (kind : Kind) : (running.filter fun r => r.1 = kind).map (·.2) =
      (running.lookup kind).toList := by
  induction running with
  | nil => rfl
  | cons r rs ih =>
    obtain ⟨first, id⟩ := r
    rw [List.map_cons, List.nodup_cons] at honce
    by_cases hkind : first = kind
    · subst hkind
      have hrest : rs.filter (fun r => r.1 = first) = [] := by
        refine List.filter_eq_nil_iff.mpr fun r hr heq => honce.1 ?_
        exact List.mem_map.mpr ⟨r, hr, of_decide_eq_true heq⟩
      simp [hrest]
    · rw [List.filter_cons_of_neg (by simpa using hkind), ih honce.2, List.lookup_cons,
        beq_false_of_ne (Ne.symm hkind)]

/-- The observers of a kind are those that the register names. -/
theorem InStep.observers_of_kind (h : InStep foreign j)
    (hforeign : ∀ o ∈ foreign, o.target = .collector) (kind : Kind) :
    (j.observers.filter fun o => o.target.kind? = some kind).map (·.id) =
      (j.running.lookup kind).toList := by
  have hnone : (foreign.filter fun o => o.target.kind? = some kind) = [] :=
    List.filter_eq_nil_iff.mpr fun o ho => by simp [hforeign o ho, Target.kind?]
  have hsinks : (j.running.filter fun r => (sink j.files r).target.kind? = some kind) =
      j.running.filter fun r => r.1 = kind :=
    List.filter_congr fun r _ => by simp [kind_sink]
  rw [h.observers, List.filter_append, hnone, List.nil_append, List.filter_map, List.map_map]
  rw [← toList_lookup h.once, ← hsinks]
  rfl

/-- The observers that are no sinks are those of others. -/
theorem InStep.observers_foreign (h : InStep foreign j)
    (hforeign : ∀ o ∈ foreign, o.target = .collector) :
    (j.observers.filter fun o => o.target.kind? = none) = foreign := by
  have hall : (foreign.filter fun o => o.target.kind? = none) = foreign :=
    List.filter_eq_self.mpr fun o ho => by simp [hforeign o ho, Target.kind?]
  have hsinks : ((j.running.map (sink j.files)).filter fun o => o.target.kind? = none) = [] := by
    refine List.filter_eq_nil_iff.mpr fun o ho => ?_
    obtain ⟨r, -, rfl⟩ := List.mem_map.mp ho
    simp [kind_sink]
  rw [h.observers, List.filter_append, hall, hsinks, List.append_nil]

theorem setLevel_of_unknown {name : String} (hname : Level.ofName? name = none) (j : Journal) :
    j.setLevel name = (.error name, j) := by
  rw [setLevel, hname]

/-- Once all sinks were stopped nothing is heard until one is started again. -/
theorem InStep.quiet_of_stopAll (h : InStep foreign j)
    (hforeign : ∀ o ∈ foreign, o.target = .collector) {quiet : List Act}
    (hquiet : ∀ kind, Act.start kind ∉ quiet) :
    (j.run (.stopAll :: quiet)).2 = "" ∧
      (j.run (.stopAll :: quiet)).1.files.textContent = j.files.textContent ∧
      (j.run (.stopAll :: quiet)).1.files.records = j.files.records := by
  have hdelivered := h.delivered_run hforeign (.stopAll :: quiet)
  have hheard : ∀ kind, heard kind j.switchboard (.stopAll :: quiet) = [] := by
    intro kind
    rw [heard, heard_of_off rfl (hquiet kind)]
    rfl
  refine ⟨?_, ?_, ?_⟩
  · rw [hdelivered.console, hheard]
    rfl
  · rw [hdelivered.text, hheard, List.flatMap_nil, List.append_nil]
  · rw [hdelivered.json, hheard, List.map_nil, List.append_nil]

/-- Over any acts, starting with no sink and any observers of others: the journal has one observer
for each kind that is registered, the one that the register names, and none of other kinds; the
observers of others are as they were, in order. Which sinks run and which threshold is in force is
what the acts say. Every event that passes the threshold in force reaches each sink that runs at that
moment once, and no other event does: the console shows the lines of these events, and the logs hold
them behind what they held. A level that nobody knows is refused and changes nothing, and once all
sinks were stopped nothing is printed or written until one is started. -/
theorem run_delivers {as : List Act} (hnone : j.running = [])
    (hforeign : ∀ o ∈ j.observers, o.target = .collector) (hids : ∀ o ∈ j.observers, o.id < j.nextId)
    (hrun : j.run as = (j', printed)) :
    (∀ kind, (j'.observers.filter fun o => o.target.kind? = some kind).map (·.id) =
      (j'.running.lookup kind).toList) ∧
    (j'.observers.filter fun o => o.target.kind? = none) = j.observers ∧
    j'.switchboard = as.foldl Switchboard.after j.switchboard ∧
    printed = lines (heard .console j.switchboard as) ∧
    j'.files.textContent = j.files.textContent ++
      (heard .text j.switchboard as).flatMap (fun e => Utf8.encode (e.2.line e.1)) ∧
    j'.files.records = j.files.records ++ (heard .json j.switchboard as).map (·.2) ∧
    (∀ name, Level.ofName? name = none → j'.setLevel name = (.error name, j')) ∧
    ∀ quiet, (∀ kind, Act.start kind ∉ quiet) → (j'.run (.stopAll :: quiet)).2 = "" ∧
      (j'.run (.stopAll :: quiet)).1.files.textContent = j'.files.textContent ∧
      (j'.run (.stopAll :: quiet)).1.files.records = j'.files.records := by
  have hdelivered := (inStep_of_none hnone hids).delivered_run hforeign as
  rw [hrun] at hdelivered
  have hstep := hdelivered.inStep
  exact ⟨hstep.observers_of_kind hforeign, hstep.observers_foreign hforeign,
    hdelivered.switchboard, hdelivered.console, hdelivered.text, hdelivered.json,
    fun name hname => setLevel_of_unknown hname j',
    fun quiet hquiet => hstep.quiet_of_stopAll hforeign hquiet⟩

/-- A sink that is started twice and a level that nobody knows. -/
theorem run_delivers_console : ∃ j' printed,
    initial.run [.start .console, .start .console, .note "0" .info "s" (some "m"), .setLevel "loud",
      .note "1" .debug "s" (some "m"), .stopAll, .note "2" .error "s" (some "m")] = (j', printed) ∧
      printed = lines [("0", .ofMessage .info "s" (some "m"))] ∧
      (j'.observers.filter fun o => o.target.kind? = none) = initial.observers := by
  obtain ⟨j', printed, hrun⟩ : ∃ j' printed, initial.run
      [.start .console, .start .console, .note "0" .info "s" (some "m"), .setLevel "loud",
        .note "1" .debug "s" (some "m"), .stopAll, .note "2" .error "s" (some "m")] =
      (j', printed) := ⟨_, _, rfl⟩
  obtain ⟨-, hothers, -, hprinted, -⟩ := run_delivers rfl (by decide) (by decide) hrun
  exact ⟨j', printed, hrun, hprinted, hothers⟩

end Journal
end HdProvision.Log
