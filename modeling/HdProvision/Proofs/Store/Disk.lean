import Mathlib.Data.Nat.Bitwise
import HdProvision.Store.Disk

/-!
# Files on the disk

Directories that are made for a file leave all files as they are. A file that was written can be
reached, read and written again. A path through directories that are not there yet leads to a place
all the same: the one it leads to once they are made.
-/

set_option autoImplicit false

namespace HdProvision.Store.Disk

theorem lookup_put (nodes : List (Place × Node)) (p q : Place) (n : Node) :
    (put nodes p n).lookup q = if q = p then some n else nodes.lookup q := by
  induction nodes with
  | nil =>
    by_cases h : q = p
    · simp [put, h]
    · simp [put, List.lookup_cons, h, beq_false_of_ne h]
  | cons e nodes ih =>
    obtain ⟨r, m⟩ := e
    by_cases hr : r = p
    · by_cases h : q = p
      · simp [put, hr, h]
      · simp [put, hr, h, List.lookup_cons, beq_false_of_ne h]
    · rw [put, if_neg hr, List.lookup_cons, List.lookup_cons, ih]
      by_cases h : q = r
      · simp [h, hr]
      · simp [beq_false_of_ne h]

/-- The disk with something at a place. -/
def withNode (d : Disk) (p : Place) (n : Node) : Disk := { d with nodes := put d.nodes p n }

theorem node?_withNode (d : Disk) {p : Place} (hp : p ≠ []) (n : Node) (q : Place) :
    (d.withNode p n).node? q = if q = p then some n else d.node? q := by
  rw [node?, node?, withNode, lookup_put]
  by_cases hq : q = []
  · rw [if_pos hq, if_pos hq, if_neg fun h => hp (h.symm.trans hq)]
  · rw [if_neg hq, if_neg hq]

theorem ne_nil_of_node? {d : Disk} {p : Place} (h : d.node? p ≠ some .directory) : p ≠ [] := by
  rintro rfl
  exact h rfl

/-- Where a path starts. -/
def origin (d : Disk) (p : Path) : Place := if p.anchor = .here then d.workdir else []

/-- The place that a path leads to when all directories on the way are there. -/
def target (d : Disk) (p : Path) : Place := p.parts.foldl step (d.origin p)

theorem walk_ok {d : Disk} {names : List (List Char)} {p q : Place}
    (h : d.walk p names = .ok q) : q = names.foldl step p := by
  induction names generalizing p with
  | nil =>
    cases h
    rfl
  | cons name names ih =>
    rw [walk] at h
    split at h
    · cases h
    · split at h
      · next hnil =>
        cases h
        rw [hnil]
        rfl
      · split at h
        · cases h
        · cases h
        · exact ih h

theorem place_ok {d : Disk} {p : Path} {q : Place} (h : d.place p = .ok q) : q = d.target p := by
  rw [place] at h
  split at h
  · cases h
  · split at h
    · cases h
    · exact walk_ok h

/-- The directories of a disk are there on another, and paths start from the same one. -/
structure KeepsDirectories (d d' : Disk) : Prop where
  workdir : d'.workdir = d.workdir
  directories : ∀ p, d.node? p = some .directory → d'.node? p = some .directory

theorem KeepsDirectories.walk {d d' : Disk} (h : KeepsDirectories d d') {names : List (List Char)}
    {p q : Place} (hwalk : d.walk p names = .ok q) : d'.walk p names = .ok q := by
  induction names generalizing p with
  | nil => exact hwalk
  | cons name names ih =>
    rw [Disk.walk] at hwalk ⊢
    split at hwalk
    · cases hwalk
    · next hsize =>
      rw [if_neg hsize]
      split at hwalk
      · next hnil =>
        rw [if_pos hnil]
        exact hwalk
      · next hne =>
        rw [if_neg hne]
        split at hwalk
        · cases hwalk
        · cases hwalk
        · next hnode =>
          rw [h.directories _ hnode]
          exact ih hwalk

theorem KeepsDirectories.place {d d' : Disk} (h : KeepsDirectories d d') {p : Path} {q : Place}
    (hplace : d.place p = .ok q) : d'.place p = .ok q := by
  rw [Disk.place] at hplace ⊢
  rw [h.workdir]
  split at hplace
  · cases hplace
  · next hzero =>
    rw [if_neg hzero]
    split at hplace
    · cases hplace
    · next hsize =>
      rw [if_neg hsize]
      exact h.walk hplace

theorem KeepsDirectories.target {d d' : Disk} (h : KeepsDirectories d d') (p : Path) :
    d'.target p = d.target p := by
  rw [Disk.target, Disk.target, origin, origin, h.workdir]

theorem isDirectory_iff {d : Disk} {p : Path} :
    d.isDirectory p = true ↔ ∃ q, d.place p = .ok q ∧ d.node? q = some .directory := by
  rw [isDirectory, decide_eq_true_eq, find?]
  cases d.place p with
  | error fault => simp
  | ok q => simp

theorem KeepsDirectories.isDirectory {d d' : Disk} (h : KeepsDirectories d d') {p : Path}
    (hp : d.isDirectory p = true) : d'.isDirectory p = true := by
  obtain ⟨q, hplace, hnode⟩ := isDirectory_iff.mp hp
  exact isDirectory_iff.mpr ⟨q, h.place hplace, h.directories q hnode⟩

theorem KeepsDirectories.refl (d : Disk) : KeepsDirectories d d := ⟨rfl, fun _ h => h⟩

theorem KeepsDirectories.trans {d d' d'' : Disk} (h : KeepsDirectories d d')
    (h' : KeepsDirectories d' d'') : KeepsDirectories d d'' :=
  ⟨h'.workdir.trans h.workdir, fun p hp => h'.directories p (h.directories p hp)⟩

/-- No file was made, changed or taken away, and no directory was taken away. -/
structure Untouched (d d' : Disk) : Prop extends KeepsDirectories d d' where
  files : ∀ p content mode,
    d'.node? p = some (.file content mode) ↔ d.node? p = some (.file content mode)

theorem Untouched.refl (d : Disk) : Untouched d d := ⟨.refl d, fun _ _ _ => Iff.rfl⟩

theorem Untouched.trans {d d' d'' : Disk} (h : Untouched d d') (h' : Untouched d' d'') :
    Untouched d d'' :=
  ⟨h.toKeepsDirectories.trans h'.toKeepsDirectories,
    fun p content mode => (h'.files p content mode).trans (h.files p content mode)⟩

section Directories

variable {d d' : Disk} {p : Path} {lenient : Bool}

theorem makeDirectory_ok (h : d.makeDirectory p = .ok d') :
    Untouched d d' ∧ d'.isDirectory p = true := by
  rw [makeDirectory] at h
  split at h
  · cases h
  · next q hplace =>
    split at h
    · cases h
    · next hnone =>
      cases h
      have hq : q ≠ [] := ne_nil_of_node? (d := d) (by rw [hnone]; nofun)
      have hnode := node?_withNode d hq .directory
      have hkeeps : KeepsDirectories d (d.withNode q .directory) := by
        refine ⟨rfl, fun r hr => ?_⟩
        rw [hnode]
        split
        · rfl
        · exact hr
      refine ⟨⟨hkeeps, fun r content mode => ?_⟩, ?_⟩
      · change (d.withNode q .directory).node? r = _ ↔ _
        rw [hnode]
        split
        · next heq => simp [heq, hnone]
        · exact Iff.rfl
      · refine isDirectory_iff.mpr ⟨q, hkeeps.place hplace, ?_⟩
        exact (hnode q).trans (if_pos rfl)

theorem untouched_ensureDirectory (d : Disk) (lenient : Bool) (p : Path) :
    Untouched d (d.ensureDirectory lenient p).2 := by
  rw [ensureDirectory]
  split
  · next h => exact (makeDirectory_ok h).1
  · exact .refl d

theorem ensureDirectory_ok (h : d.ensureDirectory lenient p = (.ok (), d')) :
    d'.isDirectory p = true := by
  rw [ensureDirectory] at h
  split at h
  · next hmake =>
    cases h
    exact (makeDirectory_ok hmake).2
  · obtain ⟨hok, rfl⟩ := Prod.mk.inj h
    split at hok
    · next hthere => exact ((Bool.and_eq_true _ _).mp hthere).2
    · cases hok

/-- How directories are made: at once, or after those above. -/
theorem makeDirectoriesFrom_cases (d : Disk) (fuel : Nat) (lenient : Bool) (p : Path) :
    d.makeDirectoriesFrom (fuel + 1) lenient p = d.ensureDirectory lenient p ∨
      ∃ r, (d.ensureDirectory lenient p).2.makeDirectoriesFrom fuel true p.parent = r ∧
        (d.makeDirectoriesFrom (fuel + 1) lenient p = r ∧ r.1 ≠ .ok () ∨
          d.makeDirectoriesFrom (fuel + 1) lenient p = r.2.ensureDirectory lenient p) := by
  rw [makeDirectoriesFrom]
  split
  · next q d' hensure =>
    split
    · exact Or.inl hensure.symm
    · refine Or.inr ⟨_, rfl, ?_⟩
      rw [hensure]
      split
      · next hmake =>
        rw [hmake]
        exact Or.inr rfl
      · next failed hfailed =>
        refine Or.inl ⟨rfl, fun hok => ?_⟩
        exact hfailed _ (Prod.ext hok rfl)
  · exact Or.inl rfl

theorem untouched_makeDirectoriesFrom (d : Disk) (fuel : Nat) (lenient : Bool) (p : Path) :
    Untouched d (d.makeDirectoriesFrom fuel lenient p).2 := by
  induction fuel generalizing d lenient p with
  | zero => exact .refl d
  | succ fuel ih =>
    have hfirst := untouched_ensureDirectory d lenient p
    rcases makeDirectoriesFrom_cases d fuel lenient p with h | ⟨r, hr, h⟩
    · rw [h]
      exact hfirst
    · have habove := hfirst.trans (hr ▸ ih (d.ensureDirectory lenient p).2 true p.parent)
      rcases h with ⟨h, -⟩ | h
      · rw [h]
        exact habove
      · rw [h]
        exact habove.trans (untouched_ensureDirectory r.2 lenient p)

theorem makeDirectoriesFrom_ok {fuel : Nat}
    (h : d.makeDirectoriesFrom fuel lenient p = (.ok (), d')) : d'.isDirectory p = true := by
  cases fuel with
  | zero => cases h
  | succ fuel =>
    rcases makeDirectoriesFrom_cases d fuel lenient p with heq | ⟨r, -, ⟨heq, hfailed⟩ | heq⟩
    · exact ensureDirectory_ok (heq.symm.trans h)
    · rw [heq] at h
      exact absurd (by rw [h]) hfailed
    · exact ensureDirectory_ok (heq.symm.trans h)

theorem untouched_makeDirectories (d : Disk) (p : Path) : Untouched d (d.makeDirectories p).2 :=
  untouched_makeDirectoriesFrom d _ true p

theorem makeDirectories_ok (h : d.makeDirectories p = (.ok (), d')) : d'.isDirectory p = true :=
  makeDirectoriesFrom_ok h

/-- There is nothing to do for a directory that is there. -/
theorem makeDirectories_of_isDirectory (h : d.isDirectory p = true) :
    d.makeDirectories p = (.ok (), d) := by
  obtain ⟨q, hplace, hnode⟩ := isDirectory_iff.mp h
  have hensure : d.ensureDirectory true p = (.ok (), d) := by
    simp [ensureDirectory, makeDirectory, hplace, hnode, h]
  rw [makeDirectories, makeDirectoriesFrom, hensure]

end Directories

section Modes

theorem mayRead_eq (mode : Nat) : mayRead mode = mode.testBit 8 := by
  rw [mayRead, show (0o400 : Nat) = 2 ^ 8 from rfl, Nat.and_two_pow]
  cases mode.testBit 8 <;> rfl

theorem mayWrite_eq (mode : Nat) : mayWrite mode = mode.testBit 7 := by
  rw [mayWrite, show (0o200 : Nat) = 2 ^ 7 from rfl, Nat.and_two_pow]
  cases mode.testBit 7 <;> rfl

theorem testBit_sub_two_pow {mode i j : Nat} (h : mode.testBit j = true) (hij : i < j) :
    (mode - 2 ^ j).testBit i = mode.testBit i := by
  have hle : 2 ^ j ≤ mode := Nat.ge_two_pow_of_testBit h
  have hsum := Nat.testBit_two_pow_add_gt hij (mode - 2 ^ j)
  rw [Nat.add_sub_cancel' hle] at hsum
  exact hsum.symm

/-- Opening a file takes away no permission of its owner. -/
theorem testBit_openedMode (mode : Nat) {i : Nat} (hi : i < 10) :
    (openedMode mode).testBit i = mode.testBit i := by
  have huser : ∀ m : Nat,
      (if m &&& 0o4000 = 0 then m else m - 0o4000).testBit i = m.testBit i := by
    intro m
    split
    · rfl
    · next hset =>
      refine testBit_sub_two_pow (j := 11) ?_ (by omega)
      rw [show (0o4000 : Nat) = 2 ^ 11 from rfl, Nat.and_two_pow] at hset
      cases hbit : m.testBit 11
      · exact absurd (by rw [hbit]; rfl) hset
      · rfl
  have hgroup : ∀ m : Nat,
      (if m &&& 0o2010 = 0o2010 then m - 0o2000 else m).testBit i = m.testBit i := by
    intro m
    split
    · next hset =>
      refine testBit_sub_two_pow (j := 10) ?_ hi
      have hbit := congrArg (Nat.testBit · 10) hset
      simp only [Nat.testBit_and] at hbit
      exact ((Bool.and_eq_true _ _).mp hbit).1
    · rfl
  rw [openedMode, hgroup, huser]

theorem mayRead_openedMode (mode : Nat) : mayRead (openedMode mode) = mayRead mode := by
  rw [mayRead_eq, mayRead_eq, testBit_openedMode mode (by decide)]

theorem mayWrite_openedMode (mode : Nat) : mayWrite (openedMode mode) = mayWrite mode := by
  rw [mayWrite_eq, mayWrite_eq, testBit_openedMode mode (by decide)]

end Modes

/-- A file that can be reached, read and written. -/
structure HoldsAt (d : Disk) (p : Path) (q : Place) (content : Bytes) (mode : Nat) : Prop where
  parent : d.isDirectory p.parent = true
  place : d.place p = .ok q
  node : d.node? q = some (.file content mode)
  readable : mayRead mode = true
  writable : mayWrite mode = true

/-- The path leads to a file with some content that can be read and written. -/
def Holds (d : Disk) (p : Path) (content : Bytes) : Prop := ∃ q mode, HoldsAt d p q content mode

/-- A file that stands where the path leads can be reached and read. -/
def Accessible (d : Disk) (p : Path) : Prop :=
  ∀ content mode, d.node? (d.target p) = some (.file content mode) →
    d.place p = .ok (d.target p) ∧ mayRead mode = true

/-- A file that stands where the path leads can be read. -/
def Readable (d : Disk) (p : Path) : Prop :=
  ∀ content mode, d.node? (d.target p) = some (.file content mode) → mayRead mode = true

section Writing

variable {d d' : Disk} {p : Path} {q : Place} {content new : Bytes} {mode : Nat}

theorem Holds.accessible (h : Holds d p content) : Accessible d p := by
  obtain ⟨q, mode, h⟩ := h
  obtain rfl := place_ok h.place
  intro content' mode' hnode
  rw [h.node] at hnode
  cases hnode
  exact ⟨h.place, h.readable⟩

theorem Untouched.accessible (h : Untouched d d') (haccess : Accessible d p) : Accessible d' p := by
  intro content mode hnode
  rw [h.target, h.files] at hnode
  obtain ⟨hplace, hread⟩ := haccess content mode hnode
  rw [h.target]
  exact ⟨h.toKeepsDirectories.place hplace, hread⟩

theorem Accessible.readable (h : Accessible d p) : Readable d p :=
  fun content mode hnode => (h content mode hnode).2

theorem Untouched.readable_iff (h : Untouched d d') : Readable d' p ↔ Readable d p := by
  simp only [Readable, h.target, h.files]

theorem Untouched.holds (h : Untouched d d') (hholds : Holds d p content) : Holds d' p content := by
  obtain ⟨q, mode, hat⟩ := hholds
  exact ⟨q, mode, h.isDirectory hat.parent, h.toKeepsDirectories.place hat.place,
    (h.files q content mode).mpr hat.node, hat.readable, hat.writable⟩

theorem accessible_of_absent
    (h : ∀ content mode, d.node? (d.target p) ≠ some (.file content mode)) : Accessible d p :=
  fun content mode hnode => absurd hnode (h content mode)

/-- Putting a file where no directory is leaves all directories. -/
theorem keepsDirectories_withNode (content : Bytes) (mode : Nat) (h : d.node? q ≠ some .directory) :
    KeepsDirectories d (d.withNode q (.file content mode)) := by
  refine ⟨rfl, fun r hr => ?_⟩
  rw [node?_withNode d (ne_nil_of_node? h)]
  split
  · next heq => exact absurd (heq ▸ hr) h
  · exact hr

theorem create_ok (h : d.create p = .ok d') : ∃ q mode, d.place p = .ok q ∧
    d.node? q ≠ some .directory ∧ mayWrite mode = true ∧ d' = d.withNode q (.file [] mode) ∧
    (d.node? q = none ∧ mode = privateMode ∨
      ∃ content m, d.node? q = some (.file content m) ∧ mode = openedMode m) := by
  rw [create] at h
  split at h
  · cases h
  · next q hplace =>
    split at h
    · next hnone =>
      cases h
      exact ⟨q, _, hplace, by rw [hnone]; nofun, by decide, rfl, Or.inl ⟨hnone, rfl⟩⟩
    · cases h
    · next content m hfile =>
      split at h
      · next hwrite =>
        cases h
        refine ⟨q, _, hplace, by rw [hfile]; nofun, ?_, rfl, Or.inr ⟨content, m, hfile, rfl⟩⟩
        rw [mayWrite_openedMode, hwrite]
      · cases h

/-- A file that was opened can be filled. -/
theorem write_of_create {r : Place} (hplace : d.place p = .ok r)
    (hnode : d.node? r ≠ some .directory)
    (h : d.create p = .ok (d.withNode r (.file [] mode))) (new : Bytes) :
    d.write p new = .ok ((d.withNode r (.file [] mode)).withNode r (.file new mode)) := by
  have hkeeps := keepsDirectories_withNode [] mode hnode
  have hopened := node?_withNode d (ne_nil_of_node? hnode) (.file [] mode) r
  rw [if_pos rfl] at hopened
  simp only [write, h, fill, hkeeps.place hplace, hopened]
  rfl

theorem fill_of_create {opened : Disk} (h : d.create p = .ok opened) (new : Bytes) :
    ∃ d', opened.fill p new = .ok d' := by
  obtain ⟨q, mode, hplace, hnode, -, rfl, -⟩ := create_ok h
  have hwrite := write_of_create hplace hnode h new
  rw [write, h] at hwrite
  exact ⟨_, hwrite⟩

/-- A file that was written has the new content. It can be read if it could be read before. -/
theorem write_ok (h : d.write p new = .ok d') : ∃ q mode, KeepsDirectories d d' ∧
    d'.place p = .ok q ∧ d'.node? q = some (.file new mode) ∧ mayWrite mode = true ∧
    (Readable d p ↔ mayRead mode = true) := by
  cases hcreate : d.create p with
  | error e =>
    rw [write, hcreate] at h
    cases h
  | ok opened =>
    obtain ⟨q, mode, hplace, hnode, hwrite, rfl, hmode⟩ := create_ok hcreate
    have hkeeps := keepsDirectories_withNode [] mode hnode
    have hq := ne_nil_of_node? hnode
    rw [write_of_create hplace hnode hcreate] at h
    cases h
    have hopened : (d.withNode q (.file [] mode)).node? q ≠ some .directory := by
      rw [node?_withNode d hq, if_pos rfl]
      nofun
    have hall := hkeeps.trans (keepsDirectories_withNode new mode hopened)
    refine ⟨q, mode, hall, hall.place hplace, ?_, hwrite, ?_⟩
    · rw [node?_withNode _ hq, if_pos rfl]
    · rw [Readable, ← place_ok hplace]
      rcases hmode with ⟨hnone, rfl⟩ | ⟨content, m, hfile, rfl⟩
      · rw [hnone]
        exact iff_of_true nofun (by decide)
      · rw [hfile, mayRead_openedMode]
        constructor
        · exact fun hreadable => hreadable content m rfl
        · rintro hread _ _ ⟨⟩
          exact hread

theorem holds_of_write (hparent : d.isDirectory p.parent = true) (hreadable : Readable d p)
    (h : d.write p new = .ok d') : Holds d' p new := by
  obtain ⟨q, mode, hkeeps, hplace, hnode, hwrite, hread⟩ := write_ok h
  exact ⟨q, mode, hkeeps.isDirectory hparent, hplace, hnode, hread.mp hreadable, hwrite⟩

/-- What is written to a file makes no difference to whether it can be written. -/
theorem write_again (h : d.write p new = .ok d') (other : Bytes) :
    ∃ d'', d.write p other = .ok d'' := by
  cases hcreate : d.create p with
  | error e =>
    rw [write, hcreate] at h
    cases h
  | ok opened =>
    obtain ⟨d'', hfill⟩ := fill_of_create hcreate other
    exact ⟨d'', by simp only [write, hcreate, hfill]⟩

/-- A file that can be written is written. -/
theorem write_of_holds (h : Holds d p content) (new : Bytes) :
    ∃ d', d.write p new = .ok d' ∧ Holds d' p new := by
  obtain ⟨q, mode, h⟩ := id h
  have hnode : d.node? q ≠ some .directory := by
    rw [h.node]
    nofun
  have hcreate : d.create p = .ok (d.withNode q (.file [] (openedMode mode))) := by
    simp only [create, h.place, h.node, h.writable, if_true]
    rfl
  have hwrite := write_of_create h.place hnode hcreate new
  exact ⟨_, hwrite, holds_of_write h.parent (Holds.accessible ⟨q, mode, h⟩).readable hwrite⟩

/-- A file that is not there is written. -/
theorem write_of_absent (hparent : d.isDirectory p.parent = true) (hplace : d.place p = .ok q)
    (hnone : d.node? q = none) (new : Bytes) : ∃ d', d.write p new = .ok d' ∧ Holds d' p new := by
  have hnode : d.node? q ≠ some .directory := by
    rw [hnone]
    nofun
  have hcreate : d.create p = .ok (d.withNode q (.file [] privateMode)) := by
    simp only [create, hplace, hnone]
    rfl
  have hwrite := write_of_create hplace hnode hcreate new
  have haccess : Accessible d p := accessible_of_absent fun content mode => by
    rw [← place_ok hplace, hnone]
    nofun
  exact ⟨_, hwrite, holds_of_write hparent haccess.readable hwrite⟩

theorem read_eq_ok : d.read p = .ok content ↔ ∃ q mode, d.place p = .ok q ∧
    d.node? q = some (.file content mode) ∧ mayRead mode = true := by
  rw [read]
  constructor
  · intro h
    split at h
    · cases h
    · next q hplace =>
      split at h
      · cases h
      · cases h
      · next held mode hnode =>
        split at h
        · next hreadable =>
          cases h
          exact ⟨q, mode, hplace, hnode, hreadable⟩
        · cases h
  · rintro ⟨q, mode, hplace, hnode, hreadable⟩
    simp only [hplace, hnode, if_pos hreadable]

theorem read_of_holds (h : Holds d p content) : d.read p = .ok content := by
  obtain ⟨q, mode, h⟩ := h
  exact read_eq_ok.mpr ⟨q, mode, h.place, h.node, h.readable⟩

theorem look_of_holds (h : Holds d p content) : ∃ n, d.look p = .ok (some n) := by
  obtain ⟨q, mode, h⟩ := h
  exact ⟨.file content mode, by simp only [look, h.place, h.node]⟩

end Writing
end HdProvision.Store.Disk
