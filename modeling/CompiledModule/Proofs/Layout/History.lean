import CompiledModule.Layout.Block
import CompiledModule.Proofs.Layout.Remembering

namespace CompiledModule

/-!
# Walkers with a history

All blocks of a module are walked with one cache of sizes, so what a walk answers might depend on
the blocks that were walked before.  It does not, with one exception.  A used walker knows sizes
that a fresh one has to measure, and so it may come to the size of a type which a fresh walker finds
nested too deep.

Every other answer is the same after every history: the size, the normalized block and the error,
and with the error the block as far as it was normalized.  The exception is real.  A chain of 33
structs is too deep for a fresh walker, but not for one that has measured the 32 inner ones before.
-/

variable {spaces : List VariableSpace} {ε σ : Type}

/-! ## Histories -/

/-- Something that a walker is asked to do.  Of all that it does only the sizes outlast the call. -/
inductive WalkerCall where
  | measure (type : TypeDescriptor)
  | normalize (bytes : List UInt8) (offset : Nat) (type : TypeDescriptor) (swap : Bool)
  | normalizeBlock (bytes : List UInt8) (vars : List Variable) (swap : Bool)
  deriving DecidableEq, Repr

/-- The sizes that are known after a call, whether or not it has succeeded. -/
def SizeCache.afterCall (spaces : List VariableSpace) (sizes : SizeCache) :
    WalkerCall → SizeCache
  | .measure type => leftBy (measure spaces type sizes)
  | .normalize bytes offset type swap =>
    (leftBy (Workspace.normalize spaces offset type swap ⟨sizes, bytes⟩)).sizes
  | .normalizeBlock bytes vars swap =>
    (leftBy (Workspace.normalizeBlock spaces vars swap ⟨sizes, bytes⟩)).sizes

def SizeCache.after (spaces : List VariableSpace) (calls : List WalkerCall) : SizeCache :=
  calls.foldl (SizeCache.afterCall spaces) []

theorem Visitor.Alike.refl {excuse : ε → Prop} (visitor : Visitor ε σ) :
    visitor.Alike excuse Eq visitor where
  enters := rfl
  visit _ _ _ := Coupled.refl _
  checkSpan _ _ := Coupled.refl _

/-- The block after an edit and what the edit has come to are those of the walk. -/
theorem Workspace.edit_eq (swap : Bool) (walk : Walk LayoutError BlockEditor α)
    (sizes : SizeCache) (bytes : List UInt8) :
    outcomeOf (edit swap walk ⟨sizes, bytes⟩) = outcomeOf (walk ⟨sizes, .ofBlock bytes swap⟩) ∧
      leftBy (edit swap walk ⟨sizes, bytes⟩) =
        ⟨(leftBy (walk ⟨sizes, .ofBlock bytes swap⟩)).sizes,
          (leftBy (walk ⟨sizes, .ofBlock bytes swap⟩)).state.bytes.toList⟩ := by
  unfold edit
  cases walk ⟨sizes, .ofBlock bytes swap⟩ <;> exact ⟨rfl, rfl⟩

namespace SizeCache

/-- A call only adds what it measures.  The walk is compared with itself: what is asked of the caches
is kept by every walk. -/
theorem Sound.trails_afterCall {sizes : SizeCache} (sound : sizes.Sound spaces)
    (call : WalkerCall) : sizes.Trails spaces (sizes.afterCall spaces call) := by
  have walks : BlockEditor.visitor.Alike noExcuse Eq BlockEditor.visitor := .refl _
  have caches := @sizesAlike_grown noExcuse spaces sizes
  have start : ∀ editor : BlockEditor, Walked.Alike (Grown spaces sizes) Eq
      ⟨sizes, editor⟩ ⟨sizes, editor⟩ := fun _ => ⟨⟨rfl, sound.trails⟩, rfl⟩
  cases call with
  | measure type =>
    rcases measure_finds type sizes sound with ⟨outcome, after, ran, found⟩
    change sizes.Trails spaces (leftBy (measure spaces type sizes))
    rw [ran]
    cases outcome <;> exact ⟨sound, found.sound, found.grown⟩
  | normalize bytes offset type swap =>
    have refers : ∀ space, type.RefersTo space → True := fun _ _ => trivial
    have kept := Walk.value_alike walks caches nestingLimit offset refers _ _
      (start (.ofBlock bytes swap))
    change sizes.Trails spaces (leftBy (Workspace.edit swap _ ⟨sizes, bytes⟩)).sizes
    rw [(Workspace.edit_eq swap _ sizes bytes).2]
    exact kept.left_behind.1.2
  | normalizeBlock bytes vars swap =>
    have refers : ∀ record ∈ vars, ∀ space, record.type.RefersTo space → True :=
      fun _ _ _ _ => trivial
    have kept := Walk.block_alike walks caches refers _ _ (start (.ofBlock bytes swap))
    change sizes.Trails spaces (leftBy (Workspace.edit swap _ ⟨sizes, bytes⟩)).sizes
    rw [(Workspace.edit_eq swap _ sizes bytes).2]
    exact kept.left_behind.1.2

theorem Trails.trans {first second third : SizeCache} (step : first.Trails spaces second)
    (next : second.Trails spaces third) : first.Trails spaces third :=
  ⟨step.sound, next.ahead, step.within.trans next.within⟩

/-- The induction is on the calls, from the last one back. -/
theorem Sound.trails_afterCalls {sizes : SizeCache} (sound : sizes.Sound spaces)
    (calls : List WalkerCall) : sizes.Trails spaces (calls.foldl (afterCall spaces) sizes) := by
  induction calls generalizing sizes with
  | nil => exact sound.trails
  | cons call rest ih =>
    have first := sound.trails_afterCall call
    exact first.trans (ih first.ahead)

theorem sound_after (spaces : List VariableSpace) (calls : List WalkerCall) :
    (after spaces calls).Sound spaces :=
  ((sound_nil spaces).trails_afterCalls calls).ahead

end SizeCache

/-! ## Answers -/

def measured (spaces : List VariableSpace) (sizes : SizeCache) (type : TypeDescriptor) :
    Except LayoutError Nat :=
  outcomeOf (measure spaces type sizes)

/-- What a walker answers when it normalizes a value, and what it makes of the block. -/
def normalized (spaces : List VariableSpace) (sizes : SizeCache) (bytes : List UInt8)
    (offset : Nat) (type : TypeDescriptor) (swap : Bool) :
    Except LayoutError Nat × List UInt8 :=
  let ran := Workspace.normalize spaces offset type swap ⟨sizes, bytes⟩
  (outcomeOf ran, (leftBy ran).bytes)

/-- With these sizes remembered, a walker answers as a fresh one. -/
structure SizeCache.Transparent (spaces : List VariableSpace) (sizes : SizeCache)
    (type : TypeDescriptor) : Prop where
  measured : measured spaces sizes type = measured spaces [] type
  normalized : ∀ bytes offset swap,
    normalized spaces sizes bytes offset type swap = normalized spaces [] bytes offset type swap

section Answers

variable [LayoutFailure ε] {sizes others : SizeCache} {type : TypeDescriptor} {space : UInt32}
  {count : Nat}

/-- What is done with the size of one struct. -/
def structsSize (count size : Nat) : Except LayoutError Nat :=
  if size = 0 ∨ count = 0 then .ok 0 else sizeProduct size count

theorem structsSize_ne_tooDeep (count size : Nat) : structsSize count size ≠ .error tooDeep := by
  unfold structsSize sizeProduct
  split
  · simp
  · split <;> simp

/-- A product with nothing in it never is too large. -/
theorem structsSize_eq (count size : Nat) : structsSize count size = sizeProduct count size := by
  unfold structsSize
  by_cases empty : size = 0 ∨ count = 0
  · have nothing : count * size = 0 := by
      rcases empty with none | none <;> simp only [none, Nat.mul_zero, Nat.zero_mul]
    rw [if_pos empty]
    exact (sizeProduct_eq_ok.mpr ⟨nothing, by decide⟩).symm
  · rw [if_neg empty, sizeProduct, sizeProduct, Nat.mul_comm]

theorem measured_error {error : LayoutError} (found : type.extent = .error error) :
    measured spaces sizes type = .error error := by
  unfold measured measure typeSize
  rw [found]
  rfl

theorem measured_scalars {width : Nat} (found : type.extent = .ok (.scalars width count)) :
    measured spaces sizes type = sizeProduct width count := by
  unfold measured measure typeSize
  rw [found]
  change outcomeOf (settle (sizeProduct width count) sizes) = _
  cases sizeProduct width count <;> rfl

theorem measured_structs (found : type.extent = .ok (.structs space count)) :
    measured spaces sizes type =
      outcomeOf (structSize spaces nestingLimit [] space sizes) >>= structsSize count := by
  unfold measured measure typeSize structsSize
  rw [found]
  change outcomeOf (EStateM.bind (structSize spaces nestingLimit [] space) _ sizes) = _
  unfold EStateM.bind
  cases structSize spaces nestingLimit [] space sizes with
  | error error after => rfl
  | ok size after =>
    change outcomeOf ((if size = 0 ∨ count = 0 then pure 0 else _ : Measure Nat) after) =
      if size = 0 ∨ count = 0 then .ok 0 else sizeProduct size count
    split
    · rfl
    · cases sizeProduct size count <;> rfl

/-- Sound caches that give the same size of a type give the same size of its struct, or the same
error. -/
theorem structSize_outcome (sound : sizes.Sound spaces) (sound' : others.Sound spaces)
    (found : type.extent = .ok (.structs space count))
    (alike : measured spaces sizes type = measured spaces others type) :
    outcomeOf (structSize spaces nestingLimit [] space sizes) =
      outcomeOf (structSize spaces nestingLimit [] space others) := by
  rcases structSize_finds nestingLimit [] space sizes sound with ⟨outcome, after, ran, finds⟩
  rcases structSize_finds nestingLimit [] space others sound' with ⟨outcome', after', ran', finds'⟩
  rw [measured_structs found, measured_structs found, ran, ran'] at alike
  have settled : ∀ (outcome : Except LayoutError Nat) (after : SizeCache),
      outcomeOf (settle outcome after) = outcome := by
    intro outcome after
    cases outcome <;> rfl
  rw [settled, settled] at alike
  rw [ran, ran', settled, settled]
  rcases finds.settles with rfl | settles
  · cases outcome' with
    | error error => exact alike
    | ok size => exact absurd alike.symm (structsSize_ne_tooDeep count size)
  · rcases finds'.settles with rfl | settles'
    · cases outcome with
      | error error => exact alike
      | ok size => exact absurd alike (structsSize_ne_tooDeep count size)
    · exact settles.unique settles'

/-- A walk begins with the size of the struct, and goes on from the sizes that are known then. -/
theorem value_structs_ok (visitor : Visitor ε σ) (levels offset : Nat) {after : SizeCache}
    {size : Nat} (found : type.extent = .ok (.structs space count))
    (ran : structSize spaces (levels + 1) [] space sizes = .ok size after)
    (again : structSize spaces (levels + 1) [] space others = .ok size after) (state : σ) :
    Walk.value spaces visitor (levels + 1) offset type ⟨sizes, state⟩ =
      Walk.value spaces visitor (levels + 1) offset type ⟨others, state⟩ := by
  unfold Walk.value
  rw [found]
  change EStateM.bind (Walk.measuring _) _ _ = EStateM.bind (Walk.measuring _) _ _
  have same : (Walk.measuring (structSize spaces (levels + 1) [] space) ⟨sizes, state⟩ :
      EStateM.Result ε (Walked σ) Nat) =
        Walk.measuring (structSize spaces (levels + 1) [] space) ⟨others, state⟩ := by
    rw [Walk.measuring_eq, Walk.measuring_eq, ran, again]
  unfold EStateM.bind
  rw [same]

theorem value_structs_error (visitor : Visitor ε σ) (levels offset : Nat) {after : SizeCache}
    {error : LayoutError} (found : type.extent = .ok (.structs space count))
    (ran : structSize spaces (levels + 1) [] space sizes = .error error after) (state : σ) :
    Walk.value spaces visitor (levels + 1) offset type ⟨sizes, state⟩ =
      .error (LayoutFailure.ofLayout error) ⟨after, state⟩ := by
  unfold Walk.value
  rw [found]
  change EStateM.bind (Walk.measuring _) _ _ = _
  unfold EStateM.bind Walk.measuring
  simp only [ran]

/-- Once both have measured the struct to the end, nothing is left on which they differ. -/
theorem value_measured (visitor : Visitor ε σ) {after after' : SizeCache} {size levels : Nat}
    (sound : sizes.Sound spaces) (sound' : others.Sound spaces)
    (found : type.extent = .ok (.structs space count))
    (ran : structSize spaces (levels + 1) [] space sizes = .ok size after)
    (ran' : structSize spaces (levels + 1) [] space others = .ok size after') (offset : Nat)
    (state : σ) :
    EndAlike noExcuse (Walked.Alike (fun _ _ => True) Eq) Eq
      (Walk.value spaces visitor (levels + 1) offset type ⟨sizes, state⟩)
      (Walk.value spaces visitor (levels + 1) offset type ⟨others, state⟩) := by
  have visitors : visitor.Alike noExcuse Eq visitor := .refl visitor
  rcases structSize_again sound ran with ⟨known, again⟩
  rcases structSize_again sound' ran' with ⟨known', again'⟩
  have caches := @sizesAlike_known spaces noExcuse after after' (structSize_sound sound ran)
    (structSize_sound sound' ran')
  have refers : ∀ inner, type.RefersTo inner → after.Knows inner ∧ after'.Knows inner := by
    intro inner refers
    rcases refers with ⟨count', found'⟩
    rw [found] at found'
    cases found'
    exact ⟨known, known'⟩
  rw [value_structs_ok visitor levels offset found ran again state,
    value_structs_ok visitor levels offset found ran' again' state]
  have ends := Walk.value_alike visitors caches (levels + 1) offset refers ⟨after, state⟩
    ⟨after', state⟩ ⟨⟨rfl, rfl⟩, rfl⟩
  exact ends.weaken fun _ _ alike => ⟨trivial, alike.2⟩

/-- Walks from sound caches that come to the same size end alike, and so do their visitors. -/
theorem value_sizes (visitor : Visitor ε σ) (sound : sizes.Sound spaces)
    (sound' : others.Sound spaces)
    (alike : measured spaces sizes type = measured spaces others type) (offset : Nat) (state : σ) :
    EndAlike noExcuse (Walked.Alike (fun _ _ => True) Eq) Eq
      (Walk.value spaces visitor nestingLimit offset type ⟨sizes, state⟩)
      (Walk.value spaces visitor nestingLimit offset type ⟨others, state⟩) := by
  have visitors : visitor.Alike noExcuse Eq visitor := .refl visitor
  -- Types without structs ask for no sizes.
  have plain (refers : ∀ space, ¬ type.RefersTo space) := Walk.value_alike visitors
    (sizesAlike_none spaces) nestingLimit offset refers ⟨sizes, state⟩ ⟨others, state⟩
    ⟨trivial, rfl⟩
  cases found : type.extent with
  | error error =>
    apply plain
    rintro space ⟨count, found'⟩
    rw [found] at found'
    cases found'
  | ok extent =>
    cases extent with
    | scalars width count =>
      apply plain
      rintro space ⟨count', found'⟩
      rw [found] at found'
      cases found'
    | structs space count =>
      have sameSize := structSize_outcome sound sound' found alike
      rcases ⟨31, rfl⟩ with ⟨below, limit⟩ : ∃ below, nestingLimit = below + 1
      rw [limit] at sameSize ⊢
      cases ran : structSize spaces (below + 1) [] space sizes with
      | error error after =>
        cases ran' : structSize spaces (below + 1) [] space others with
        | ok size' after' =>
          rw [ran, ran'] at sameSize
          cases sameSize
        | error error' after' =>
          rw [ran, ran'] at sameSize
          cases sameSize
          have stops := value_structs_error visitor below offset found ran state
          have stops' := value_structs_error visitor below offset found ran' state
          rw [stops, stops']
          exact Or.inl ⟨rfl, trivial, rfl⟩
      | ok size after =>
        cases ran' : structSize spaces (below + 1) [] space others with
        | error error' after' =>
          rw [ran, ran'] at sameSize
          cases sameSize
        | ok size' after' =>
          rw [ran, ran'] at sameSize
          cases sameSize
          exact value_measured visitor sound sound' found ran ran' offset state

theorem normalized_eq (sound : sizes.Sound spaces) (sound' : others.Sound spaces)
    (alike : measured spaces sizes type = measured spaces others type) (bytes : List UInt8)
    (offset : Nat) (swap : Bool) :
    normalized spaces sizes bytes offset type swap =
      normalized spaces others bytes offset type swap := by
  have ends := value_sizes BlockEditor.visitor sound sound' alike offset
    (.ofBlock bytes swap)
  have here := Workspace.edit_eq swap
    (Walk.value spaces BlockEditor.visitor nestingLimit offset type) sizes bytes
  have there := Workspace.edit_eq swap
    (Walk.value spaces BlockEditor.visitor nestingLimit offset type) others bytes
  rcases here with ⟨answers, leaves⟩
  rcases there with ⟨answers', leaves'⟩
  unfold normalized Workspace.normalize
  simp only [answers, answers', leaves, leaves', ends.outcome_eq, ends.left_behind.2]

/-- A walker that knows less measures the same size or error, or it gives up. -/
theorem measured_trails (trails : sizes.Trails spaces others) (type : TypeDescriptor) :
    measured spaces others type = measured spaces sizes type ∨
      measured spaces sizes type = .error tooDeep := by
  have ends := measure_trails type sizes others trails
  unfold measured
  revert ends
  cases measure spaces type sizes with
  | ok size after =>
    cases measure spaces type others with
    | ok size' after' =>
      intro ends
      exact Or.inl (congrArg Except.ok ends.1.symm)
    | error error' after' => exact False.elim
  | error error after =>
    cases measure spaces type others with
    | ok size' after' =>
      intro ends
      exact Or.inr (congrArg Except.error ends)
    | error error' after' =>
      intro ends
      rcases ends with same | gaveUp
      · exact Or.inl (congrArg Except.error same.1.symm)
      · exact Or.inr (congrArg Except.error gaveUp)

/-- A size that has been measured is measured again. -/
theorem measured_later {size : Nat} (trails : sizes.Trails spaces others)
    (answered : measured spaces sizes type = .ok size) : measured spaces others type = .ok size := by
  rcases measured_trails trails type with same | gaveUp
  · exact same.trans answered
  · rw [answered] at gaveUp
    cases gaveUp

/-- A fresh walker measures the same size or error as one with sound sizes, or it gives up. -/
theorem measured_fresh (sound : sizes.Sound spaces) (type : TypeDescriptor) :
    measured spaces sizes type = measured spaces [] type ∨
      measured spaces [] type = .error tooDeep := by
  apply measured_trails
  refine ⟨SizeCache.sound_nil spaces, sound, ?_⟩
  rintro space ⟨size, found⟩
  cases found

theorem measured_settles (sound : sizes.Sound spaces) (type : TypeDescriptor) :
    measured spaces sizes type = .error tooDeep ∨
      Settles (declaredSize spaces type) (measured spaces sizes type) := by
  rcases measure_finds type sizes sound with ⟨outcome, after, ran, found⟩
  unfold measured
  rw [ran]
  cases outcome <;> exact found.settles

end Answers

/-! ## Transparency -/

/-- After any calls a walker answers as a fresh one, except where only the fresh one gives up; and
a walker that does not give up answers what is declared. -/
theorem usedWalker_transparent_iff (spaces : List VariableSpace) (calls : List WalkerCall)
    (type : TypeDescriptor) :
    (SizeCache.Transparent spaces (.after spaces calls) type ↔
        (measured spaces [] type = .error tooDeep →
          measured spaces (.after spaces calls) type = .error tooDeep)) ∧
      (measured spaces (.after spaces calls) type = .error tooDeep ∨
        Settles (declaredSize spaces type) (measured spaces (.after spaces calls) type)) := by
  have sound := SizeCache.sound_after spaces calls
  constructor
  · constructor
    · intro transparent gaveUp
      rw [transparent.measured, gaveUp]
    · intro givesUp
      have alike : measured spaces (.after spaces calls) type = measured spaces [] type := by
        rcases measured_fresh sound type with same | gaveUp
        · exact same
        · rw [gaveUp, givesUp gaveUp]
      exact ⟨alike, normalized_eq sound (SizeCache.sound_nil spaces) alike⟩
  · exact measured_settles sound type

/-- The first `length` spaces have one member each, a struct of the next space; the last space has
a byte. -/
def structChain (length : Nat) : List VariableSpace :=
  (List.range length).map (fun number => [⟨.ofSpace (UInt32.ofNat (number + 1)), 0, 0, 0⟩]) ++
    [[⟨.ofBase (.scalar .byte), 0, 0, 0⟩]]

set_option maxRecDepth 4000 in
theorem usedWalker_not_transparent :
    measured (structChain 32) [] (.ofSpace 0) = .error tooDeep ∧
      measured (structChain 32) (.after (structChain 32) [.measure (.ofSpace 1)]) (.ofSpace 0) =
        .ok 1 ∧
      ¬ SizeCache.Transparent (structChain 32)
        (.after (structChain 32) [.measure (.ofSpace 1)]) (.ofSpace 0) := by
  have fresh : measured (structChain 32) [] (.ofSpace 0) = .error tooDeep := rfl
  have used : measured (structChain 32) (.after (structChain 32) [.measure (.ofSpace 1)])
      (.ofSpace 0) = .ok 1 := rfl
  refine ⟨fresh, used, ?_⟩
  intro transparent
  rw [transparent.measured, fresh] at used
  cases used

end CompiledModule
