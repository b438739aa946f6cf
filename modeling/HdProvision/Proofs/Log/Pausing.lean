import HdProvision.Proofs.Log.Ledger

/-!
# What a pause brings back

A block of the program that does things to the journal may pause it around another block, may raise an
error, and may drop the errors of another block. Which sinks a block leaves attached, and whether it
ends well, is told by a ledger alone. A pause puts back what there was if its block ends well, but it
detaches nothing that the block left, and after an error it puts back nothing.
-/

set_option autoImplicit false

namespace HdProvision.Log

/-- What a block of the program does about logging. -/
inductive Block
  | done
  | raise (fault : String)
  | act (a : Act) (next : Block)
  /-- All observers are away while `inner` runs. -/
  | pause (inner next : Block)
  /-- An error of `inner` is dropped. -/
  | attempt (inner next : Block)
  deriving Repr

/-- The error of an act. -/
def Act.fault? : Act → Option String
  | .setLevel name => if (Level.ofName? name).isSome then none else some name
  | _ => none

namespace Block

def run : Block → Journal → Except String Unit × Journal
  | done, j => (.ok (), j)
  | raise fault, j => (.error fault, j)
  | act a next, j =>
    match a.fault? with
    | some fault => (.error fault, j)
    | none => next.run (j.perform a).1
  | pause inner next, j =>
    match j.pausedWhile inner.run with
    | (.ok (), j) => next.run j
    | (.error fault, j) => (.error fault, j)
  | attempt inner next, j => next.run (inner.run j).2

/-- The journals that there are while a block runs, up to the one at its end. -/
def moments : Block → Journal → List Journal
  | done, j => [j]
  | raise _, j => [j]
  | act a next, j => j :: if a.fault?.isSome then [] else next.moments (j.perform a).1
  | pause inner next, j =>
    j :: inner.moments j.silenced ++
      match j.pausedWhile inner.run with
      | (.ok (), j) => next.moments j
      | (.error _, _) => []
  | attempt inner next, j => inner.moments j ++ next.moments (inner.run j).2

/-- How a block ends, and the ledger at its end. -/
def account : Block → Ledger → Except String Unit × Ledger
  | done, t => (.ok (), t)
  | raise fault, t => (.error fault, t)
  | act a next, t =>
    match a.fault? with
    | some fault => (.error fault, t)
    | none => next.account (t.after a)
  | pause inner next, t =>
    match inner.account .empty with
    | (.ok (), left) => next.account { t with strays := left.attached ++ t.strays }
    | (.error fault, left) => (.error fault, left)
  | attempt inner next, t => next.account (inner.account t).2

/-- How a block ends that starts with nothing attached. -/
def outcome (b : Block) : Except String Unit := (b.account .empty).1

/-- What a block leaves that starts with nothing attached. -/
def leaves (b : Block) : Ledger := (b.account .empty).2

end Block

namespace Journal

/-- What there can be while the program runs, if only collectors are attached at its start. -/
def Reachable (m : Journal) : Prop :=
  ∃ (b : Block) (j : Journal), j.running = [] ∧
    (∀ o ∈ j.observers, o.target = .collector ∧ o.id < j.nextId) ∧
    (j.observers.map (·.id)).Nodup ∧ m ∈ b.moments j

/-- All that is attached was started after `former`, and the collectors heard nothing since. -/
structure Since (former m : Journal) : Prop where
  next : former.nextId ≤ m.nextId
  sinks : ∀ g ∈ m.tags, former.nextId ≤ g.1 ∧ g.2 ≠ none
  collected : m.collected = former.collected

variable {j m u former : Journal} {t : Ledger} {b : Block} {a : Act}

/-- The error of an act is that of its level. -/
theorem setLevel_fault (name : String) (j : Journal) : (j.setLevel name).1 =
    match (Act.setLevel name).fault? with
    | some fault => .error fault
    | none => .ok () := by
  rw [setLevel, Act.fault?]
  cases Level.ofName? name <;> rfl

theorem Since.silenced (former : Journal) : Since former former.silenced := by
  refine ⟨Nat.le_refl _, ?_, rfl⟩
  simp [tags, Journal.silenced]

theorem Since.silence (h : Since former m) : Since former m.silenced := by
  refine ⟨h.next, ?_, h.collected⟩
  simp [tags, Journal.silenced]

theorem tags_restored (j u : Journal) : (restored j u).tags = u.tags ++ j.tags :=
  List.map_append ..

theorem Since.restored (h : Since former m) (hu : Since former u) :
    Since former (restored m u) := by
  refine ⟨hu.next, fun g hg => ?_, hu.collected⟩
  rw [tags_restored] at hg
  exact (List.mem_append.mp hg).elim (hu.sinks g) (h.sinks g)

theorem Since.perform (h : Since former m) (a : Act) : Since former (m.perform a).1 := by
  obtain ⟨hnext, htags⟩ := tags_perform m a
  refine ⟨Nat.le_trans h.next hnext, fun g hg => ?_, ?_⟩
  · rcases htags g hg with hold | ⟨hid, hsink⟩
    · exact h.sinks g hold
    · exact ⟨hid ▸ h.next, hsink⟩
  · rw [collected_perform (fun g hg => (h.sinks g hg).2), h.collected]

theorem run_mem_moments (b : Block) (j : Journal) : (b.run j).2 ∈ b.moments j := by
  induction b generalizing j with
  | done | raise fault => exact List.mem_singleton_self _
  | act a next ih =>
    cases hfault : a.fault? with
    | some fault => simp [Block.run, Block.moments, hfault]
    | none => simp [Block.run, Block.moments, hfault, ih]
  | pause inner next ihinner ih =>
    have hinner := ihinner j.silenced
    rw [Block.run, Block.moments, pausedWhile]
    rcases hrun : inner.run j.silenced with ⟨⟨fault⟩ | ⟨⟨⟩⟩, u⟩
    · rw [hrun] at hinner
      simp [hinner]
    · simp [ih]
  | attempt inner next ihinner ih => exact List.mem_append_right _ (ih _)

/-- What acts, pauses and their ends preserve is true at every moment. -/
theorem moments_induct {P : Journal → Prop} (hact : ∀ j a, P j → P (j.perform a).1)
    (hsilence : ∀ j, P j → P j.silenced)
    (hrestore : ∀ j u (inner : Block), u ∈ inner.moments j.silenced → P j → P u → P (restored j u))
    (b : Block) (hj : P j) : ∀ m ∈ b.moments j, P m := by
  induction b generalizing j with
  | done | raise fault =>
    intro m hm
    obtain rfl := List.mem_singleton.mp hm
    exact hj
  | act a next ih =>
    intro m hm
    rw [Block.moments] at hm
    rcases List.mem_cons.mp hm with rfl | hm
    · exact hj
    · split at hm
      · cases hm
      · exact ih (hact j a hj) m hm
  | pause inner next ihinner ih =>
    intro m hm
    have hinner := ihinner (hsilence j hj)
    have hend := run_mem_moments inner j.silenced
    have hback := ih (hrestore j _ inner hend hj (hinner _ hend))
    rw [Block.moments, pausedWhile, List.cons_append] at hm
    rcases List.mem_cons.mp hm with rfl | hm
    · exact hj
    rcases List.mem_append.mp hm with hm | hm
    · exact hinner m hm
    · rcases hrun : inner.run j.silenced with ⟨⟨fault⟩ | ⟨⟨⟩⟩, u⟩
      · rw [hrun] at hm
        cases hm
      · rw [hrun] at hm hback
        exact hback m hm
  | attempt inner next ihinner ih =>
    intro m hm
    have hinner := ihinner hj
    rcases List.mem_append.mp hm with hm | hm
    · exact hinner m hm
    · exact ih (hinner _ (run_mem_moments inner j)) m hm

/-- While a block runs for which the journal is paused, nothing is attached that was before. -/
theorem since_moments (b : Block) (j : Journal) : ∀ m ∈ b.moments j.silenced, Since j m :=
  moments_induct (fun _ a h => h.perform a) (fun _ h => h.silence) (fun _ _ _ _ h hu => h.restored hu)
    b (.silenced j)

theorem Since.apart (h : Since j m) (hj : ∀ g ∈ j.tags, g.1 < j.nextId) {o o' : Observer}
    (ho : o ∈ j.observers) (ho' : o' ∈ m.observers) : o'.id ≠ o.id := by
  have hold := hj o.tag (List.mem_map_of_mem ho)
  have hnew := (h.sinks o'.tag (List.mem_map_of_mem ho')).1
  exact Nat.ne_of_gt (Nat.lt_of_lt_of_le hold hnew)

theorem Follows.fresh (h : Follows t j) : ∀ g ∈ j.tags, g.1 < j.nextId := by
  obtain ⟨front, hlisted, -⟩ := h
  exact hlisted.fresh

theorem follows_silenced (j : Journal) : Follows .empty j.silenced := by
  refine ⟨[], ⟨rfl, List.nodup_nil, List.nodup_nil, ?_⟩, rfl⟩
  simp [tags, Journal.silenced]

theorem Follows.restored {left : Ledger} (h : Follows t j) (hu : Follows left u)
    (hsince : Since j u) :
    Follows { t with strays := left.attached ++ t.strays } (restored j u) := by
  have hkinds := hu.kinds_eq
  obtain ⟨front, hlisted, rfl⟩ := h
  obtain ⟨front', hlisted', -⟩ := hu
  refine ⟨u.tags ++ front, ⟨?_, hlisted.once, ?_, ?_⟩, ?_⟩
  · rw [tags_restored, hlisted.tags, List.append_assoc]
    rfl
  · rw [tags_restored, List.map_append]
    refine hlisted'.ids.append hlisted.ids fun id hnew hold => ?_
    obtain ⟨g', hg', rfl⟩ := List.mem_map.mp hnew
    obtain ⟨g, hg, heq⟩ := List.mem_map.mp hold
    have hlt := hlisted.fresh g hg
    have hle := (hsince.sinks g' hg').1
    omega
  · intro g hg
    rw [tags_restored] at hg
    rcases List.mem_append.mp hg with hnew | hold
    · exact hlisted'.fresh g hnew
    · exact Nat.lt_of_lt_of_le (hlisted.fresh g hold) hsince.next
  · rw [← hkinds, List.map_append, tags, List.map_map]
    rfl

/-- A block runs as its account says. -/
theorem Follows.run (h : Follows t j) (b : Block) :
    (b.run j).1 = (b.account t).1 ∧ Follows (b.account t).2 (b.run j).2 := by
  induction b generalizing t j with
  | done | raise fault => exact ⟨rfl, h⟩
  | act a next ih =>
    rw [Block.run, Block.account]
    cases a.fault? with
    | some fault => exact ⟨rfl, h⟩
    | none => exact ih (h.perform a)
  | pause inner next ihinner ih =>
    -- The inner block starts with nothing, whatever was attached; what it leaves has numbers of its own.
    obtain ⟨houtcome, hleft⟩ := ihinner (follows_silenced j)
    have hsince := since_moments inner j _ (run_mem_moments inner j.silenced)
    rw [Block.run, Block.account, pausedWhile]
    rcases hrun : inner.run j.silenced with ⟨r, u⟩
    rcases haccount : inner.account .empty with ⟨r', left⟩
    rw [hrun, haccount] at houtcome hleft
    rw [hrun] at hsince
    obtain rfl := houtcome
    rcases r with fault | ⟨⟩
    · exact ⟨rfl, hleft⟩
    · exact ih (h.restored hleft hsince)
  | attempt inner next ihinner ih => exact ih (ihinner h).2

theorem Reachable.follows (h : Reachable j) : ∃ t, Follows t j := by
  obtain ⟨b, start, hnone, hothers, hids, hmem⟩ := h
  have hstart : ∃ t, Follows t start := by
    refine ⟨_, start.tags, ⟨?_, ?_, ?_, ?_⟩, rfl⟩
    · simp [hnone]
    · simp [kinds, hnone]
    · rw [tags, List.map_map]
      exact hids
    · intro g hg
      obtain ⟨o, ho, rfl⟩ := List.mem_map.mp hg
      exact (hothers o ho).2
  refine moments_induct (P := fun j => ∃ t, Follows t j) ?_ ?_ ?_ b hstart j hmem
  · rintro j a ⟨t, h⟩
    exact ⟨_, h.perform a⟩
  · exact fun j _ => ⟨_, follows_silenced j⟩
  · rintro j u inner hu ⟨t, h⟩ ⟨left, hleft⟩
    exact ⟨_, h.restored hleft (since_moments inner j u hu)⟩

theorem run_silenced (b : Block) (j : Journal) :
    (b.run j.silenced).1 = b.outcome ∧ Follows b.leaves (b.run j.silenced).2 :=
  (follows_silenced j).run b

theorem Follows.observers_eq_nil (h : Follows t j) : j.observers = [] ↔ t.attached = [] := by
  rw [← h.kinds_eq, List.map_eq_nil_iff]

/-- What is registered is attached. -/
theorem Follows.running_eq_nil (h : Follows t j) (hnone : j.observers = []) : j.running = [] := by
  have hattached := h.observers_eq_nil.mp hnone
  obtain ⟨front, -, rfl⟩ := h
  simpa [Ledger.attached, kinds] using (List.append_eq_nil_iff.mp hattached).2

/-- Stopping all sinks after a pause stops those that were registered before, and no other. -/
theorem Since.stopAll_restored (h : Since j u) (hj : Follows t j) :
    (Journal.restored j u).stopAll.observers = u.observers ++ j.stopAll.observers := by
  obtain ⟨front, hlisted, -⟩ := hj
  have hleft : (u.observers.filter fun o => ∀ r ∈ j.running, r.2 ≠ o.id) = u.observers := by
    refine List.filter_eq_self.mpr fun o ho => decide_eq_true fun r hr => ?_
    have hlt : r.2 < j.nextId := by
      refine hlisted.fresh (r.2, some r.1) ?_
      rw [hlisted.tags]
      exact List.mem_append_right _ (List.mem_map_of_mem hr)
    have hle := (h.sinks o.tag (List.mem_map_of_mem ho)).1
    exact Nat.ne_of_lt (Nat.lt_of_lt_of_le hlt hle)
  have hall := observers_stopAll (j := Journal.restored j u) hlisted.once
  rw [Journal.restored, List.filter_append, hleft] at hall
  rw [observers_stopAll hlisted.once]
  exact hall

/-- Where nothing of before is attached, all is as before only if there is and was nothing. -/
theorem Since.same_iff (h : Since j u) (hj : Follows t j) {left : Ledger} (hu : Follows left u) :
    u.observers = j.observers ∧ u.running = j.running ↔ left.attached = [] ∧ j.observers = [] := by
  rw [← hu.observers_eq_nil]
  constructor
  · rintro ⟨hsame, -⟩
    have hnone : j.observers = [] := by
      refine List.eq_nil_iff_forall_not_mem.mpr fun o ho => ?_
      exact h.apart hj.fresh ho (hsame ▸ ho) rfl
    exact ⟨hsame.trans hnone, hnone⟩
  · rintro ⟨hleft, hnone⟩
    exact ⟨hleft.trans hnone.symm, (hu.running_eq_nil hleft).trans (hj.running_eq_nil hnone).symm⟩

/-- What an event prints when the sinks that a block left are attached beside those there were. -/
theorem printed_restored {left : Ledger} (hu : Follows left u) (j : Journal) (stamp : String)
    (e : Event) : ((restored j u).publish stamp e).2 = if e.level.passes (restored j u).threshold then
      lines (List.replicate (left.attached.count (some .console) +
        (j.observers.map (·.target.kind?)).count (some .console)) (stamp, e)) else "" := by
  have hprinted := deliverAll_printed (restored j u).threshold stamp e (restored j u).observers
    (restored j u).collected (restored j u).files
  rw [← hu.kinds_eq, ← List.count_append, ← List.map_append]
  exact hprinted

/-- A pause, whatever block it is for. While the block runs no observer is attached that was before, and
the collectors hear nothing. The account of the block says how it ends. If it ends well, register and
observers come back, and the sinks that it left stay in front: each event that passes is printed for
them too, and stopping all sinks does not stop them. After an error nothing comes back, and what the
block left is all there is. So a pause restores what there was exactly if the block leaves nothing
and ends well or nothing was attached before. -/
theorem pausing {r : Except String Unit} {j' : Journal} (hj : j.Reachable)
    (hrun : j.pausedWhile b.run = (r, j')) :
    (∀ m ∈ b.moments j.silenced, m.collected = j.collected ∧
      ∀ o ∈ j.observers, ∀ o' ∈ m.observers, o'.id ≠ o.id) ∧
    r = b.outcome ∧
    (r = .ok () → ∃ left, left.map (·.target.kind?) = b.leaves.attached ∧
      (∀ o ∈ j.observers, ∀ o' ∈ left, o'.id ≠ o.id) ∧
      j'.observers = left ++ j.observers ∧ j'.running = j.running ∧
      j'.stopAll.observers = left ++ j.stopAll.observers ∧
      ∀ stamp e, (j'.publish stamp e).2 = if e.level.passes j'.threshold then
        lines (List.replicate (b.leaves.attached.count (some .console) +
          (j.observers.map (·.target.kind?)).count (some .console)) (stamp, e)) else "") ∧
    (∀ fault, r = .error fault → j'.observers.map (·.target.kind?) = b.leaves.attached ∧
      j'.kinds = b.leaves.listed ∧ ∀ o ∈ j.observers, ∀ o' ∈ j'.observers, o'.id ≠ o.id) ∧
    (j'.observers = j.observers ∧ j'.running = j.running ↔
      b.leaves.attached = [] ∧ (r = .ok () ∨ j.observers = [])) := by
  obtain ⟨t, hfollows⟩ := hj.follows
  have hsince := since_moments b j
  have hend := hsince _ (run_mem_moments b j.silenced)
  obtain ⟨houtcome, hleaves⟩ := run_silenced b j
  refine ⟨fun m hm => ⟨(hsince m hm).collected, fun o ho o' ho' =>
    (hsince m hm).apart hfollows.fresh ho ho'⟩, ?_⟩
  rw [pausedWhile] at hrun
  rcases hinner : b.run j.silenced with ⟨s, u⟩
  rw [hinner] at hrun houtcome hleaves hend
  have hapart : ∀ o ∈ j.observers, ∀ o' ∈ u.observers, o'.id ≠ o.id := fun o ho o' ho' =>
    hend.apart hfollows.fresh ho ho'
  cases s with
  | error fault =>
    obtain ⟨rfl, rfl⟩ := Prod.mk.inj hrun
    refine ⟨houtcome, ?_, fun _ _ => ⟨hleaves.kinds_eq, hleaves.kinds_listed, hapart⟩, ?_⟩
    · intro hok
      cases hok
    · simpa using hend.same_iff hfollows hleaves
  | ok =>
    obtain ⟨rfl, rfl⟩ := Prod.mk.inj hrun
    refine ⟨houtcome, fun _ => ⟨u.observers, hleaves.kinds_eq, hapart, rfl, rfl,
      hend.stopAll_restored hfollows, printed_restored hleaves j⟩, ?_, ?_⟩
    · intro fault herror
      cases herror
    · simpa [restored] using hleaves.observers_eq_nil

/-- A console sink beside the collector. -/
def talking : Journal := initial.start .console

theorem reachable_talking : talking.Reachable :=
  ⟨.act (.start .console) .done, initial, rfl, by decide, by decide, by decide⟩

/-- A sink that is started while the journal is paused. -/
def starting : Block := .act (.start .console) .done

theorem pausing_starting : ∃ j', talking.Reachable ∧
    talking.pausedWhile starting.run = (.ok (), j') ∧
      j'.stopAll.observers.map (·.target.kind?) = [some .console, none] ∧
      (j'.publish "0" (.ofMessage .critical "s" (some "m"))).2 =
        lines (List.replicate 2 ("0", .ofMessage .critical "s" (some "m"))) := by
  obtain ⟨j', hrun⟩ : ∃ j', talking.pausedWhile starting.run = (.ok (), j') := ⟨_, rfl⟩
  obtain ⟨-, -, hwell, -⟩ := pausing reachable_talking hrun
  obtain ⟨left, hleft, -, -, -, hstopped, hprinted⟩ := hwell rfl
  refine ⟨j', reachable_talking, hrun, ?_, ?_⟩
  · rw [hstopped, List.map_append, hleft]
    decide
  · have hpasses : Level.passes .critical j'.threshold := by cases j'.threshold <;> decide
    exact (hprinted "0" _).trans (if_pos hpasses)

/-- A sink that is started while the journal is paused stays beside the one there was, and an error
leaves nothing attached and nothing registered. -/
theorem pause_restores_less :
    (∃ j', talking.pausedWhile starting.run = (.ok (), j') ∧ j'.observers ≠ talking.observers ∧
      j'.stopAll.observers.map (·.target.kind?) = [some .console, none] ∧
      (j'.publish "0" (.ofMessage .info "test" (some "after"))).2 =
        lines (List.replicate 2 ("0", .ofMessage .info "test" (some "after")))) ∧
    ∃ j', talking.pausedWhile (Block.raise "fault").run = (.error "fault", j') ∧
      j'.observers = [] ∧ talking.observers.length = 2 ∧
      j'.running = [] ∧ talking.kinds = [.console] := by
  refine ⟨⟨_, rfl, by decide, by decide, ?_⟩, ⟨_, rfl, rfl, rfl, rfl, rfl⟩⟩
  decide

end Journal
end HdProvision.Log
