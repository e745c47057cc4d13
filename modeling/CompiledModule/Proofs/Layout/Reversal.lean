import CompiledModule.Layout.Block
import Mathlib.Data.List.Perm.Basic

namespace CompiledModule

/-!
# Reversing runs of a block

Reversing the elements of a run moves no byte in or out of the run, nor out of its element: the byte
that comes to stand at a place is the one that stood at the place's mirror image in the element.  A
place outside the run is its own mirror image.

Several runs are reversed one after another, and a byte is moved once for every run that covers its
place.  Where runs overlap, elements may be mixed up, but no byte is lost.  Where they do not, each
byte is moved at most once, and doing all of it twice puts every byte back.
-/

/-- A run of `count` scalars of `width` bytes each. -/
structure ScalarRun where
  offset : Nat
  width : Nat
  count : Nat
  deriving DecidableEq, Repr

namespace ScalarRun

def length (run : ScalarRun) : Nat :=
  run.width * run.count

def finish (run : ScalarRun) : Nat :=
  run.offset + run.length

def Covers (run : ScalarRun) (place : Nat) : Prop :=
  run.offset ≤ place ∧ place < run.finish
  deriving Decidable

/-- One of the runs ends before the other one begins. -/
def Apart (left right : ScalarRun) : Prop :=
  left.finish ≤ right.offset ∨ right.finish ≤ left.offset
  deriving Decidable

def element (run : ScalarRun) (bytes : List UInt8) (index : Nat) : List UInt8 :=
  (bytes.drop (run.offset + index * run.width)).take run.width

theorem element_within {run : ScalarRun} {index : Nat} (inside : index < run.count) :
    index * run.width + run.width ≤ run.width * run.count := by
  calc index * run.width + run.width
    _ = (index + 1) * run.width := (Nat.succ_mul index run.width).symm
    _ ≤ run.count * run.width := Nat.mul_le_mul_right run.width inside
    _ = run.width * run.count := Nat.mul_comm run.count run.width

theorem length_element {run : ScalarRun} {bytes : List UInt8} (fits : run.finish ≤ bytes.length)
    {index : Nat} (inside : index < run.count) :
    (run.element bytes index).length = run.width := by
  have within := element_within inside
  simp only [finish, length] at fits
  simp only [element, List.length_take, List.length_drop]
  omega

def reverseIn (run : ScalarRun) (bytes : Array UInt8) : Array UInt8 :=
  BlockEditor.reversed bytes run.offset run.width run.length

end ScalarRun

/-! ## Elements -/

/-- The mirror image of a place among elements of `width` bytes. -/
def mirrored (width inside : Nat) : Nat :=
  inside / width * width + (width - 1 - inside % width)

variable {width count inside : Nat} {bytes : List UInt8}

theorem mirrored_lt (within : inside < width * count) : mirrored width inside < width * count := by
  have positive : 0 < width := Nat.pos_of_lt_mul_right within
  have earlier : inside / width + 1 ≤ count := Nat.div_lt_of_lt_mul within
  have bound : (inside / width + 1) * width ≤ count * width := Nat.mul_le_mul_right width earlier
  rw [Nat.add_mul, Nat.mul_comm count width] at bound
  unfold mirrored
  omega

theorem mirrored_mul_add {index : Nat} (within : inside < width) :
    mirrored width (index * width + inside) = index * width + (width - 1 - inside) := by
  have positive : 0 < width := by omega
  have element : (index * width + inside) / width = index := by
    rw [Nat.mul_comm, Nat.mul_add_div positive, Nat.div_eq_of_lt within, Nat.add_zero]
  have place : (index * width + inside) % width = inside := by
    rw [Nat.mul_comm, Nat.mul_add_mod, Nat.mod_eq_of_lt within]
  rw [mirrored, element, place]

theorem mirrored_of_lt (within : inside < width) : mirrored width inside = width - 1 - inside := by
  rw [mirrored, Nat.div_eq_of_lt within, Nat.mod_eq_of_lt within, Nat.zero_mul, Nat.zero_add]

theorem mirrored_add (positive : 0 < width) (rest : Nat) :
    mirrored width (width + rest) = width + mirrored width rest := by
  rw [mirrored, mirrored, Nat.add_div_left rest positive, Nat.add_mod_left, Nat.succ_mul]
  omega

theorem mirrored_mirrored (positive : 0 < width) (inside : Nat) :
    mirrored width (mirrored width inside) = inside := by
  have place := Nat.mod_lt inside positive
  have whole := Nat.div_add_mod' inside width
  have back : mirrored width (mirrored width inside) =
      inside / width * width + (width - 1 - (width - 1 - inside % width)) :=
    mirrored_mul_add (by omega)
  omega

theorem mirrored_one (inside : Nat) : mirrored 1 inside = inside := by
  simp [mirrored, Nat.mod_one]

theorem perm_reverseRun (width count : Nat) (bytes : List UInt8) :
    (reverseRun width count bytes).Perm bytes := by
  induction count generalizing bytes with
  | zero => exact .refl bytes
  | succ count ih =>
    rw [reverseRun]
    calc (bytes.take width).reverse ++ reverseRun width count (bytes.drop width)
      List.Perm _ (bytes.take width ++ bytes.drop width) :=
        (List.reverse_perm _).append (ih (bytes.drop width))
      List.Perm _ bytes := by rw [List.take_append_drop]

/-- The induction is on the elements; behind the first one the places begin anew. -/
theorem getElem?_reverseRun (within : inside < width * count)
    (enough : width * count ≤ bytes.length) :
    (reverseRun width count bytes)[inside]? = bytes[mirrored width inside]? := by
  induction count generalizing bytes inside with
  | zero => exact absurd within (Nat.not_lt_zero inside)
  | succ count ih =>
    have positive : 0 < width := Nat.pos_of_lt_mul_right within
    rw [Nat.mul_succ] at within enough
    have first : (bytes.take width).length = width := by
      rw [List.length_take]
      omega
    rw [reverseRun]
    rcases Nat.lt_or_ge inside width with early | late
    · rw [List.getElem?_append_left (by rwa [List.length_reverse, first]),
        List.getElem?_reverse (by rwa [first]), first, mirrored_of_lt early,
        List.getElem?_take_of_lt (by omega)]
    · rcases Nat.exists_eq_add_of_le late with ⟨rest, rfl⟩
      have later : rest < width * count := by omega
      have left : width * count ≤ (bytes.drop width).length := by
        rw [List.length_drop]
        omega
      rw [List.getElem?_append_right (by rw [List.length_reverse, first]; exact late),
        List.length_reverse, first, Nat.add_sub_cancel_left, ih later left, List.getElem?_drop,
        mirrored_add positive]

theorem getElem?_reverseElements (whole : bytes.length = width * count)
    (within : inside < bytes.length) :
    (reverseElements width bytes)[inside]? = bytes[mirrored width inside]? := by
  rw [whole] at within
  have positive : 0 < width := Nat.pos_of_lt_mul_right within
  have elements : bytes.length / width = count := by
    rw [whole, Nat.mul_div_cancel_left count positive]
  rw [reverseElements, elements]
  exact getElem?_reverseRun within (Nat.le_of_eq whole.symm)

/-! ## One run -/

namespace ScalarRun

variable {run : ScalarRun} {block : Array UInt8} {place : Nat}

/-- Where the byte has stood that stands at a place once the run is reversed. -/
def mirror (run : ScalarRun) (place : Nat) : Nat :=
  if run.Covers place then run.offset + mirrored run.width (place - run.offset) else place

theorem covers_iff :
    run.Covers place ↔ ∃ inside, inside < run.width * run.count ∧ place = run.offset + inside := by
  simp only [Covers, finish, length]
  constructor
  · rintro ⟨begun, unfinished⟩
    exact ⟨place - run.offset, by omega, by omega⟩
  · rintro ⟨inside, within, rfl⟩
    omega

theorem mirror_add {inside : Nat} (within : inside < run.width * run.count) :
    run.mirror (run.offset + inside) = run.offset + mirrored run.width inside := by
  rw [mirror, if_pos (covers_iff.mpr ⟨inside, within, rfl⟩), Nat.add_sub_cancel_left]

theorem mirror_outside (outside : ¬ run.Covers place) : run.mirror place = place :=
  if_neg outside

theorem covers_mirror (covers : run.Covers place) : run.Covers (run.mirror place) := by
  rcases covers_iff.mp covers with ⟨inside, within, rfl⟩
  rw [mirror_add within]
  exact covers_iff.mpr ⟨_, mirrored_lt within, rfl⟩

theorem mirror_mirror (run : ScalarRun) (place : Nat) : run.mirror (run.mirror place) = place := by
  by_cases covers : run.Covers place
  · rcases covers_iff.mp covers with ⟨inside, within, rfl⟩
    rw [mirror_add within, mirror_add (mirrored_lt within),
      mirrored_mirrored (Nat.pos_of_lt_mul_right within)]
  · rw [mirror_outside covers, mirror_outside covers]

theorem mirror_of_width_one (one : run.width = 1) (place : Nat) : run.mirror place = place := by
  by_cases covers : run.Covers place
  · rcases covers_iff.mp covers with ⟨inside, within, rfl⟩
    rw [mirror_add within, one, mirrored_one]
  · exact mirror_outside covers

theorem size_reverseIn (run : ScalarRun) (block : Array UInt8) :
    (run.reverseIn block).size = block.size :=
  size_overwrite _ _ _

/-- The bytes of the run, which are all there when the run ends inside the block. -/
def bytesIn (run : ScalarRun) (block : Array UInt8) : List UInt8 :=
  (block.toList.drop run.offset).take run.length

theorem length_bytesIn (fits : run.finish ≤ block.size) :
    (run.bytesIn block).length = run.length := by
  simp only [finish] at fits
  simp only [bytesIn, List.length_take, List.length_drop, Array.length_toList]
  omega

theorem toList_reverseIn (fits : run.finish ≤ block.size) :
    (run.reverseIn block).toList = block.toList.take run.offset ++
      reverseElements run.width (run.bytesIn block) ++ block.toList.drop run.finish := by
  have extracted : (block.extract run.offset (run.offset + run.length)).toList =
      run.bytesIn block := by
    rw [Array.toList_extract, List.extract_eq_take_drop, Nat.add_sub_cancel_left, bytesIn]
  have kept : (reverseElements run.width (run.bytesIn block)).length = run.length :=
    (perm_reverseRun _ _ _).length_eq.trans (length_bytesIn fits)
  rw [reverseIn, BlockEditor.reversed, extracted, toList_overwrite _ _ _ (by rwa [kept]), kept,
    finish]

theorem perm_reverseIn (fits : run.finish ≤ block.size) :
    (run.reverseIn block).toList.Perm block.toList := by
  have whole : block.toList.take run.offset ++ run.bytesIn block ++ block.toList.drop run.finish =
      block.toList := by
    rw [List.append_assoc, bytesIn, finish, ← List.drop_drop, List.take_append_drop,
      List.take_append_drop]
  calc (run.reverseIn block).toList
    List.Perm _ (block.toList.take run.offset ++ run.bytesIn block ++
        block.toList.drop run.finish) := by
      rw [toList_reverseIn fits]
      exact ((perm_reverseRun _ _ _).append_left _).append_right _
    List.Perm _ block.toList := by rw [whole]

/-- The byte at a place after the reversal is the one that stood at the place's mirror image. -/
theorem getElem?_reverseIn (fits : run.finish ≤ block.size) (place : Nat) :
    (run.reverseIn block).toList[place]? = block.toList[run.mirror place]? := by
  have before : (block.toList.take run.offset).length = run.offset := by
    simp only [finish] at fits
    rw [List.length_take, Array.length_toList]
    omega
  have kept : (reverseElements run.width (run.bytesIn block)).length = run.length :=
    (perm_reverseRun _ _ _).length_eq.trans (length_bytesIn fits)
  rw [toList_reverseIn fits]
  by_cases covers : run.Covers place
  · rcases covers_iff.mp covers with ⟨inside, within, rfl⟩
    have image := mirrored_lt within
    rw [List.getElem?_append_left (by rw [List.length_append, before, kept, length]; omega),
      List.getElem?_append_right (by rw [before]; omega), before, Nat.add_sub_cancel_left,
      getElem?_reverseElements (length_bytesIn fits) (by rwa [length_bytesIn fits]), bytesIn,
      length, List.getElem?_take_of_lt image, List.getElem?_drop, mirror_add within]
  · rw [mirror_outside covers]
    simp only [Covers, finish] at covers
    rcases Nat.lt_or_ge place run.offset with early | late
    · rw [List.append_assoc, List.getElem?_append_left (by rwa [before]),
        List.getElem?_take_of_lt early]
    · rw [List.getElem?_append_right (by rw [List.length_append, before, kept]; omega),
        List.length_append, before, kept, finish, List.getElem?_drop]
      congr 1
      omega

end ScalarRun

/-! ## Several runs -/

/-- The block with the scalars of all runs reversed, one run after another. -/
def reverseRuns (runs : List ScalarRun) (block : Array UInt8) : Array UInt8 :=
  runs.foldl (fun block run => run.reverseIn block) block

/-- Where the byte has stood that stands at a place once all runs are reversed. -/
def mirrorRuns (runs : List ScalarRun) (place : Nat) : Nat :=
  runs.foldr ScalarRun.mirror place

/-- Runs that are not empty lie apart. -/
def ApartRuns (runs : List ScalarRun) : Prop :=
  (runs.filter fun run => 0 < run.length).Pairwise ScalarRun.Apart
  deriving Decidable

section Runs

variable {runs : List ScalarRun} {block : Array UInt8} {place : Nat}

theorem reverseRuns_append (runs : List ScalarRun) (last : ScalarRun) (block : Array UInt8) :
    reverseRuns (runs ++ [last]) block = last.reverseIn (reverseRuns runs block) := by
  simp [reverseRuns]

theorem size_reverseRuns (runs : List ScalarRun) (block : Array UInt8) :
    (reverseRuns runs block).size = block.size := by
  induction runs generalizing block with
  | nil => rfl
  | cons run rest ih => exact (ih (run.reverseIn block)).trans (run.size_reverseIn block)

/-- Runs that end inside the block still do once one of them is reversed. -/
theorem fit_rest {run : ScalarRun} (fit : ∀ other ∈ run :: runs, other.finish ≤ block.size) :
    ∀ other ∈ runs, other.finish ≤ (run.reverseIn block).size := by
  intro other member
  rw [ScalarRun.size_reverseIn]
  exact fit other (List.mem_cons_of_mem _ member)

theorem perm_reverseRuns (fit : ∀ run ∈ runs, run.finish ≤ block.size) :
    (reverseRuns runs block).toList.Perm block.toList := by
  induction runs generalizing block with
  | nil => exact .refl _
  | cons run rest ih =>
    have first := run.perm_reverseIn (fit run List.mem_cons_self)
    exact (ih (fit_rest fit)).trans first

theorem getElem?_reverseRuns (fit : ∀ run ∈ runs, run.finish ≤ block.size) (place : Nat) :
    (reverseRuns runs block).toList[place]? = block.toList[mirrorRuns runs place]? := by
  induction runs generalizing block with
  | nil => rfl
  | cons run rest ih =>
    exact (ih (fit_rest fit)).trans (run.getElem?_reverseIn (fit run List.mem_cons_self) _)

theorem mirrorRuns_outside (outside : ∀ run ∈ runs, ¬ run.Covers place) :
    mirrorRuns runs place = place := by
  induction runs with
  | nil => rfl
  | cons run rest ih =>
    have behind := ih fun other member => outside other (List.mem_cons_of_mem _ member)
    rw [mirrorRuns, List.foldr_cons]
    change run.mirror (mirrorRuns rest place) = place
    rw [behind, ScalarRun.mirror_outside (outside run List.mem_cons_self)]

/-- Of runs that lie apart only one covers a place. -/
theorem ApartRuns.disjoint (apart : ApartRuns runs) :
    runs.Pairwise fun left right => ∀ place, left.Covers place → ¬ right.Covers place := by
  apply (List.pairwise_filter.mp apart).imp
  intro left right separate place covers covers'
  simp only [ScalarRun.Covers, ScalarRun.finish] at covers covers'
  have apart := separate (by simp; omega) (by simp; omega)
  simp only [ScalarRun.Apart, ScalarRun.finish] at apart
  omega

/-- Where runs do not overlap, a place has its image in the run that covers it. -/
theorem mirrorRuns_inside (apart : ApartRuns runs) {run : ScalarRun} (member : run ∈ runs)
    (covers : run.Covers place) : mirrorRuns runs place = run.mirror place := by
  have disjoint := apart.disjoint
  clear apart
  induction runs with
  | nil => cases member
  | cons head rest ih =>
    rcases List.pairwise_cons.mp disjoint with ⟨first, others⟩
    change head.mirror (mirrorRuns rest place) = run.mirror place
    rcases List.mem_cons.mp member with rfl | later
    · rw [mirrorRuns_outside fun other inRest => first other inRest place covers]
    · rw [ih later others, ScalarRun.mirror_outside]
      exact fun covers' => first run later _ covers' (ScalarRun.covers_mirror covers)

theorem mirrorRuns_mirrorRuns (apart : ApartRuns runs) (place : Nat) :
    mirrorRuns runs (mirrorRuns runs place) = place := by
  by_cases covered : ∃ run ∈ runs, run.Covers place
  · rcases covered with ⟨run, member, covers⟩
    rw [mirrorRuns_inside apart member covers,
      mirrorRuns_inside apart member (ScalarRun.covers_mirror covers), ScalarRun.mirror_mirror]
  · have outside : ∀ run ∈ runs, ¬ run.Covers place :=
      fun run member covers => covered ⟨run, member, covers⟩
    rw [mirrorRuns_outside outside, mirrorRuns_outside outside]

theorem reverseRuns_reverseRuns (apart : ApartRuns runs)
    (fit : ∀ run ∈ runs, run.finish ≤ block.size) :
    reverseRuns runs (reverseRuns runs block) = block := by
  apply Array.toList_inj.mp
  apply List.ext_getElem?
  intro place
  rw [getElem?_reverseRuns (by rwa [size_reverseRuns]), getElem?_reverseRuns fit,
    mirrorRuns_mirrorRuns apart]

/-- Where runs do not overlap, every scalar is reversed once. -/
theorem element_reverseRuns (apart : ApartRuns runs)
    (fit : ∀ run ∈ runs, run.finish ≤ block.size) {run : ScalarRun} (member : run ∈ runs)
    {index : Nat} (inside : index < run.count) :
    run.element (reverseRuns runs block).toList index =
      (run.element block.toList index).reverse := by
  have fits : run.finish ≤ block.toList.length := fit run member
  have fits' : run.finish ≤ (reverseRuns runs block).toList.length := by
    rw [Array.length_toList, size_reverseRuns]
    exact fits
  have width := ScalarRun.length_element fits inside
  have width' := ScalarRun.length_element fits' inside
  apply List.ext_getElem?
  intro place
  rcases Nat.lt_or_ge place run.width with early | late
  · have within := ScalarRun.element_within inside
    have covers : run.Covers (run.offset + (index * run.width + place)) :=
      ScalarRun.covers_iff.mpr ⟨_, by omega, rfl⟩
    rw [List.getElem?_reverse (by rwa [width]), width, ScalarRun.element, ScalarRun.element,
      List.getElem?_take_of_lt early, List.getElem?_take_of_lt (by omega), List.getElem?_drop,
      List.getElem?_drop, getElem?_reverseRuns fit, Nat.add_assoc, Nat.add_assoc,
      mirrorRuns_inside apart member covers, ScalarRun.mirror_add (by omega),
      mirrored_mul_add early]
  · rw [List.getElem?_eq_none (by rwa [width']),
      List.getElem?_eq_none (by rwa [List.length_reverse, width])]

end Runs

end CompiledModule
