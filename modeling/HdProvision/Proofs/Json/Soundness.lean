import Mathlib.Data.List.Induction
import Mathlib.Data.List.TakeWhile
import HdProvision.Proofs.Json.RoundTrip

/-!
# Sound values

Whatever is read is sound and has no more brackets inside each other than may be read. A sound value
stays sound when one of its fields is set and when one is left out.
-/

set_option autoImplicit false

namespace HdProvision.Json

namespace Value

theorem soundAll_append {vs ws : List Value} (hvs : SoundAll vs) (hws : SoundAll ws) :
    SoundAll (vs ++ ws) := by
  induction vs with
  | nil => exact hws
  | cons v vs ih => exact ⟨hvs.1, ih hvs.2⟩

theorem soundAll_reverse {vs : List Value} (h : SoundAll vs) : SoundAll vs.reverse := by
  induction vs with
  | nil => exact trivial
  | cons v vs ih =>
    rw [List.reverse_cons]
    exact soundAll_append (ih h.2) ⟨h.1, trivial⟩

theorem depthAll_le_iff {vs : List Value} {n : Nat} :
    depthAll vs ≤ n ↔ ∀ v ∈ vs, v.depth ≤ n := by
  induction vs with
  | nil => simp [depthAll]
  | cons v vs ih => rw [depthAll, Nat.max_le, ih, List.forall_mem_cons]

theorem depthFields_le_iff {fs : Fields} {n : Nat} :
    depthFields fs ≤ n ↔ ∀ f ∈ fs, f.2.depth ≤ n := by
  induction fs with
  | nil => simp [depthFields]
  | cons f fs ih => rw [depthFields, Nat.max_le, ih, List.forall_mem_cons]

theorem soundFields_iff {fs : Fields} : SoundFields fs ↔ ∀ f ∈ fs, f.2.Sound := by
  induction fs with
  | nil => simp [SoundFields]
  | cons f fs ih => rw [SoundFields, ih, List.forall_mem_cons]

end Value

namespace Fields

theorem mem_names_set (fs : Fields) (name other : Units) (v : Value) :
    other ∈ (fs.set name v).map Prod.fst ↔ other = name ∨ other ∈ fs.map Prod.fst := by
  induction fs with
  | nil => simp [set]
  | cons f fs ih =>
    rw [set]
    split
    · next h => simp [h]
    · rw [List.map_cons, List.mem_cons, ih, List.map_cons, List.mem_cons]
      tauto

theorem nodup_names_set {fs : Fields} (h : (fs.map Prod.fst).Nodup) (name : Units) (v : Value) :
    ((fs.set name v).map Prod.fst).Nodup := by
  induction fs with
  | nil => simp [set]
  | cons f fs ih =>
    rw [List.map_cons, List.nodup_cons] at h
    rw [set]
    split
    · exact List.nodup_cons.mpr h
    · next hne =>
      rw [List.map_cons, List.nodup_cons, mem_names_set, not_or]
      exact ⟨⟨hne, h.1⟩, ih h.2⟩

theorem soundFields_set {fs : Fields} {v : Value} (h : Value.SoundFields fs) (hv : v.Sound)
    (name : Units) : Value.SoundFields (fs.set name v) := by
  induction fs with
  | nil => exact ⟨hv, trivial⟩
  | cons f fs ih =>
    rw [set]
    split
    · exact ⟨hv, h.2⟩
    · exact ⟨h.1, ih h.2⟩

theorem mem_set {fs : Fields} {name : Units} {v : Value} {f : Units × Value}
    (h : f ∈ fs.set name v) : f ∈ fs ∨ f.2 = v := by
  induction fs with
  | nil => exact .inr (congrArg Prod.snd (List.mem_singleton.mp h))
  | cons g fs ih =>
    rw [set] at h
    split at h
    · rcases List.mem_cons.mp h with rfl | h
      · exact .inr rfl
      · exact .inl (List.mem_cons_of_mem g h)
    · rcases List.mem_cons.mp h with rfl | h
      · exact .inl List.mem_cons_self
      · exact (ih h).imp_left (List.mem_cons_of_mem g)

/-- A field that is set nests no deeper than its value. -/
theorem depthFields_set {fs : Fields} {v : Value} {n : Nat} (h : Value.depthFields fs ≤ n)
    (hv : v.depth ≤ n) (name : Units) : Value.depthFields (fs.set name v) ≤ n := by
  refine Value.depthFields_le_iff.mpr fun f hf => ?_
  rcases mem_set hf with hf | hf
  · exact Value.depthFields_le_iff.mp h f hf
  · exact hf ▸ hv

theorem erase_of_not_mem {fs : Fields} {name : Units} (h : name ∉ fs.map Prod.fst) :
    fs.erase name = fs := by
  refine List.filter_eq_self.mpr fun f hf => ?_
  have hne : f.1 ≠ name := fun heq => h (heq ▸ List.mem_map_of_mem hf)
  simpa using hne

theorem depthFields_append (fs gs : Fields) : Value.depthFields (fs ++ gs) =
    max (Value.depthFields fs) (Value.depthFields gs) := by
  induction fs with
  | nil => exact (Nat.zero_max _).symm
  | cons f fs ih => rw [List.cons_append, Value.depthFields, ih, Value.depthFields, Nat.max_assoc]

/-- Leaving a field out takes no room. -/
theorem depthFields_erase_le (fs : Fields) (name : Units) :
    Value.depthFields (fs.erase name) ≤ Value.depthFields fs :=
  Value.depthFields_le_iff.mpr fun f hf =>
    Value.depthFields_le_iff.mp le_rfl f (List.mem_filter.mp hf).1

/-- A field that is set takes the place of what was there under its name. -/
theorem depthFields_set_eq {fs : Fields} (hnodup : (fs.map Prod.fst).Nodup) (name : Units)
    (v : Value) :
    Value.depthFields (fs.set name v) = max v.depth (Value.depthFields (fs.erase name)) := by
  induction fs with
  | nil => rfl
  | cons f fs ih =>
    obtain ⟨k, w⟩ := f
    rw [List.map_cons, List.nodup_cons] at hnodup
    by_cases hk : k = name
    · subst hk
      have herase : erase ((k, w) :: fs) k = fs := by
        rw [erase, List.filter_cons_of_neg (by simp), ← erase, erase_of_not_mem hnodup.1]
      rw [herase, set, if_pos rfl, Value.depthFields]
    · have herase : erase ((k, w) :: fs) name = (k, w) :: erase fs name :=
        List.filter_cons_of_pos (by simp [hk])
      rw [herase, set, if_neg hk, Value.depthFields, Value.depthFields, ih hnodup.2,
        Nat.max_left_comm]

/-- A new field leaves the others as they are. -/
theorem depthFields_le_set {fs : Fields} {name : Units} (hfresh : fs.get? name = none)
    (v : Value) : Value.depthFields fs ≤ Value.depthFields (fs.set name v) := by
  induction fs with
  | nil => exact Nat.zero_le _
  | cons f fs ih =>
    obtain ⟨k, w⟩ := f
    rw [get?, List.lookup_cons] at hfresh
    split at hfresh
    · cases hfresh
    · next hne =>
      rw [set, if_neg fun heq => by simp [heq] at hne, Value.depthFields, Value.depthFields]
      exact max_le_max le_rfl (ih hfresh)

/-- Fields that can be written and read again. -/
def Sound (fs : Fields) : Prop := (Value.object fs).Sound

theorem Sound.set {fs : Fields} {v : Value} (h : Sound fs) (hv : v.Sound) (name : Units) :
    Sound (fs.set name v) :=
  ⟨soundFields_set h.1 hv name, nodup_names_set h.2 name v⟩

theorem Sound.erase {fs : Fields} (h : Sound fs) (name : Units) : Sound (fs.erase name) := by
  refine ⟨Value.soundFields_iff.mpr fun f hf => ?_, ?_⟩
  · exact Value.soundFields_iff.mp h.1 f (List.mem_filter.mp hf).1
  · exact h.2.sublist (List.filter_sublist.map Prod.fst)

theorem not_mem_erase (fs : Fields) (name : Units) : name ∉ (fs.erase name).map Prod.fst := by
  intro h
  obtain ⟨f, hf, rfl⟩ := List.mem_map.mp h
  simpa using (List.mem_filter.mp hf).2

end Fields

namespace Reader

open Value (SoundAll SoundFields)

theorem isDigit_whole (cs : List Char) : ∀ c ∈ (whole cs).1, isDigit c = true := by
  intro c hc
  unfold whole at hc
  split at hc
  · rw [List.mem_singleton.mp hc]
    decide
  · rw [digits, List.span_eq_takeWhile_dropWhile] at hc
    exact List.mem_takeWhile_imp hc

theorem unsigned_sound {negative : Bool} {cs rest : List Char} {v : Value}
    (h : unsigned negative cs = .ok (v, rest)) : v.Sound := by
  rw [unsigned_eq] at h
  split at h
  · cases h
  · next hne =>
    split at h
    · split at h
      · cases h
      · next hlength =>
        obtain ⟨rfl, -⟩ := Prod.mk.inj (Except.ok.inj h)
        have hpos : 0 < (whole cs).1.length := List.length_pos_iff.mpr hne
        have hvalue := Text.Integer.digitsValue_lt (isDigit_whole cs)
        have habs : (if negative then -(digitsValue (whole cs).1 : Int)
            else digitsValue (whole cs).1).natAbs = digitsValue (whole cs).1 := by
          split <;> omega
        rw [Value.Sound, habs]
        exact (Text.Integer.length_natChars_le hpos hvalue).trans (Nat.not_lt.mp hlength)
    · obtain ⟨rfl, -⟩ := Prod.mk.inj (Except.ok.inj h)
      exact Binary64.sound_ofDecimal _ _ _ _

theorem scalar_sound {cs rest : List Char} {v : Value} (h : scalar cs = .ok (v, rest)) :
    v.Sound := by
  unfold scalar at h
  split at h
  · cases h; exact trivial
  · cases h; exact trivial
  · cases h; exact trivial
  · cases h; exact trivial
  · cases h; exact trivial
  · cases h; exact trivial
  · exact unsigned_sound h
  · exact unsigned_sound h

theorem scalar_depth {cs rest : List Char} {v : Value} (h : scalar cs = .ok (v, rest)) :
    v.depth = 0 := by
  have hunsigned : ∀ {negative : Bool} {cs : List Char},
      unsigned negative cs = .ok (v, rest) → v.depth = 0 := by
    intro negative cs h
    rw [unsigned_eq] at h
    split at h
    · cases h
    · split at h
      · split at h
        · cases h
        · cases h
          rfl
      · cases h
        rfl
  unfold scalar at h
  split at h
  · cases h; rfl
  · cases h; rfl
  · cases h; rfl
  · cases h; rfl
  · cases h; rfl
  · cases h; rfl
  · exact hunsigned h
  · exact hunsigned h

mutual

/-- A value that is read can be written and read again, and there was room for it. -/
theorem value_sound (fuel room : Nat) (cs rest : List Char) (v : Value)
    (h : value fuel room cs = .ok (v, rest)) : v.Sound ∧ v.depth ≤ room := by
  match fuel, room with
  | 0, _ => cases h
  | fuel + 1, room =>
    unfold value at h
    split at h
    · split at h
      · cases h
        exact ⟨trivial, Nat.zero_le room⟩
      · cases h
    · split at h
      · cases h
      · next room =>
        split at h
        · cases h
          exact ⟨trivial, Nat.succ_le_succ (Nat.zero_le room)⟩
        · exact items_sound fuel room [] _ rest v trivial (Nat.zero_le room) h
    · split at h
      · cases h
      · next room =>
        split at h
        · cases h
          exact ⟨⟨trivial, List.nodup_nil⟩, Nat.succ_le_succ (Nat.zero_le room)⟩
        · exact members_sound fuel room [] _ rest v ⟨trivial, List.nodup_nil⟩ (Nat.zero_le room) h
    · exact ⟨scalar_sound h, scalar_depth h ▸ Nat.zero_le room⟩

theorem items_sound (fuel room : Nat) (before : List Value) (cs rest : List Char) (v : Value)
    (hbefore : SoundAll before) (hdepth : Value.depthAll before ≤ room)
    (h : items fuel room before cs = .ok (v, rest)) : v.Sound ∧ v.depth ≤ room + 1 := by
  match fuel with
  | 0 => cases h
  | fuel + 1 =>
    unfold items at h
    split at h
    · cases h
    · next w r hw =>
      obtain ⟨hsound, hroom⟩ := value_sound fuel room cs r w hw
      have hitems : SoundAll (w :: before) := ⟨hsound, hbefore⟩
      have hall : Value.depthAll (w :: before) ≤ room := Nat.max_le.mpr ⟨hroom, hdepth⟩
      split at h
      · cases h
        refine ⟨Value.soundAll_reverse hitems, Nat.succ_le_succ ?_⟩
        rw [Value.depthAll_le_iff] at hall ⊢
        exact fun u hu => hall u (List.mem_reverse.mp hu)
      · exact items_sound fuel room _ _ rest v hitems hall h
      · cases h

theorem members_sound (fuel room : Nat) (before : Fields) (cs rest : List Char) (v : Value)
    (hbefore : before.Sound) (hdepth : Value.depthFields before ≤ room)
    (h : members fuel room before cs = .ok (v, rest)) : v.Sound ∧ v.depth ≤ room + 1 := by
  match fuel with
  | 0 => cases h
  | fuel + 1 =>
    unfold members at h
    split at h
    · split at h
      · cases h
      · next name r _ =>
        split at h
        · split at h
          · cases h
          · next r w s hw =>
            obtain ⟨hsound, hroom⟩ := value_sound fuel room _ s w hw
            have hfields := hbefore.set hsound name
            have hall := Fields.depthFields_set hdepth hroom name
            dsimp only at h
            split at h
            · cases h
              exact ⟨hfields, Nat.succ_le_succ hall⟩
            · exact members_sound fuel room _ _ rest v hfields hall h
            · cases h
        · cases h
    · cases h

end

end Reader

section Documents

variable [Nesting]

theorem value_of_read {cs : List Char} {v : Value} (h : read cs = .ok v) :
    ∃ rest, Reader.value (cs.length + 1) Nesting.reading (Reader.skip cs) = .ok (v, rest) := by
  rw [read] at h
  split at h
  · cases h
  · next w rest hw =>
    split at h
    · cases h
      exact ⟨rest, hw⟩
    · cases h

/-- What is read can be written and read again. -/
theorem read_sound {cs : List Char} {v : Value} (h : read cs = .ok v) : v.Sound := by
  obtain ⟨rest, hvalue⟩ := value_of_read h
  exact (Reader.value_sound _ _ _ rest v hvalue).1

theorem depth_of_read {cs : List Char} {v : Value} (h : read cs = .ok v) :
    v.depth ≤ Nesting.reading := by
  obtain ⟨rest, hvalue⟩ := value_of_read h
  exact (Reader.value_sound _ _ _ rest v hvalue).2

end Documents

end HdProvision.Json
