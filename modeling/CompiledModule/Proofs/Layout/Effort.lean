import CompiledModule.Proofs.Layout.Acceptance

namespace CompiledModule

/-!
# The effort of a walk

Structs may name each other so that the number of paths from a struct to its scalars doubles with
every level, and runs without scalars are visited although they take nothing from the budget of a
block.  A walk is short all the same.  A struct that has no bytes is not entered, so every struct
that is walked to the end takes at least one byte from the budget, and for this byte it pays for the
visits to its own members.  With each level of nesting a byte pays once more.  Only one struct on
each level can be left unfinished, namely where the walk stops, and one byte more pays for these.

The visits are counted by a visitor that does what another one does.  What a walk costs is put
together from its parts: so many visits for each byte, for as many bytes as the walk has if it goes
through, and a few visits to spare that no byte pays for.
-/

variable {ε σ α β : Type} {spaces : List VariableSpace} {type : TypeDescriptor}

/-! ## Counting -/

/-- How many runs a visitor has been shown, and how many bytes the runs that it has not refused have
together. -/
structure Tally where
  visits : Nat
  bytes : Nat
  deriving DecidableEq, Repr

def counting (length : Nat) (visit : EStateM ε σ Unit) :
    EStateM ε (σ × Tally) Unit := fun (state, tally) =>
  match visit state with
  | .ok () state => .ok () (state, ⟨tally.visits + 1, tally.bytes + length⟩)
  | .error error state => .error error (state, ⟨tally.visits + 1, tally.bytes⟩)

def uncounted (check : EStateM ε σ Unit) :
    EStateM ε (σ × Tally) Unit := fun (state, tally) =>
  match check state with
  | .ok () state => .ok () (state, tally)
  | .error error state => .error error (state, tally)

def Visitor.counted (visitor : Visitor ε σ) : Visitor ε (σ × Tally) where
  entersStructs := visitor.entersStructs
  visit offset width count := counting (width * count) (visitor.visit offset width count)
  checkSpan offset length := uncounted (visitor.checkSpan offset length)

def mostMembers (spaces : List VariableSpace) : Nat :=
  spaces.foldr (fun members most => max members.length most) 0

theorem length_le_mostMembers {parts : VariableSpace} (member : parts ∈ spaces) :
    parts.length ≤ mostMembers spaces := by
  induction spaces with
  | nil => exact absurd member List.not_mem_nil
  | cons first rest ih =>
    change parts.length ≤ max first.length (mostMembers rest)
    rcases List.mem_cons.mp member with rfl | member
    · exact Nat.le_max_left _ _
    · exact Nat.le_trans (ih member) (Nat.le_max_right _ _)

/-! ## What a walk costs -/

/-- What a run has come to that began with this tally.  If it has a result, it has visited so many
bytes, and each of them pays for `rate` visits; `spare` visits need no byte.  If it has failed, one
byte more pays for what was not finished. -/
inductive Costs (caches : SizeCache → Prop) (start : Tally) (spare rate bytes : Nat) :
    EStateM.Result ε (Walked (σ × Tally)) α → Prop
  | ended {value : α} {sizes : SizeCache} {state : σ} {visits : Nat} (holds : caches sizes)
    (affordable : visits ≤ start.visits + spare + rate * bytes) :
    Costs caches start spare rate bytes
      (.ok value ⟨sizes, state, visits, start.bytes + bytes⟩)
  | failed {error : ε} {sizes : SizeCache} {state : σ} {visits : Nat} (accepted : Nat)
    (affordable : visits ≤ start.visits + spare + rate * (accepted + 1)) :
    Costs caches start spare rate bytes
      (.error error ⟨sizes, state, visits, start.bytes + accepted⟩)

/-- From all these caches the walk costs so much. -/
def Costing (caches : SizeCache → Prop) (walk : Walk ε (σ × Tally) α) (spare rate bytes : Nat) :
    Prop :=
  ∀ sizes state tally, caches sizes →
    Costs caches tally spare rate bytes (walk ⟨sizes, state, tally⟩)

section Rules

variable {caches : SizeCache → Prop} {spare more rate bytes others : Nat}

theorem Costs.weaken {start : Tally} {spare' rate' : Nat}
    {ran : EStateM.Result ε (Walked (σ × Tally)) α}
    (costs : Costs caches start spare rate bytes ran) (spares : spare ≤ spare')
    (rates : rate ≤ rate') : Costs caches start spare' rate' bytes ran := by
  cases costs with
  | ended holds affordable =>
    have paid := Nat.mul_le_mul_right bytes rates
    exact .ended holds (by omega)
  | failed accepted affordable =>
    have paid := Nat.mul_le_mul_right (accepted + 1) rates
    exact .failed accepted (by omega)

theorem Costs.mono {start : Tally} {wider : SizeCache → Prop}
    {ran : EStateM.Result ε (Walked (σ × Tally)) α}
    (costs : Costs caches start spare rate bytes ran)
    (implies : ∀ sizes, caches sizes → wider sizes) : Costs wider start spare rate bytes ran := by
  cases costs with
  | ended holds affordable => exact .ended (implies _ holds) affordable
  | failed accepted affordable => exact .failed accepted affordable

/-- A walk that fails before it has shown anything costs nothing. -/
theorem Costs.of_shows [LayoutFailure ε] {visitor : Visitor ε (σ × Tally)} {sizes : SizeCache}
    {state : σ} {start : Tally} {stops : LayoutError → Prop}
    {ran : EStateM.Result ε (Walked (σ × Tally)) α}
    (shows' : Shows visitor sizes (state, start) [] stops (fun _ => False) ran) :
    Costs caches start spare rate bytes ran := by
  cases shows' with
  | ended _ impossible => exact impossible.elim
  | refused planned refusal =>
    rw [List.prefix_nil.mp planned] at refusal
    cases refusal
  | stopped planned shown _ =>
    rw [List.prefix_nil.mp planned] at shown
    cases shown
    exact .failed 0 (by omega)

/-- However a run ends, the bytes that were accepted and one more have paid for the visits. -/
theorem Costs.visits_le {ran : EStateM.Result ε (Walked (σ × Tally)) α}
    (costs : Costs caches ⟨0, 0⟩ spare rate bytes ran) :
    (leftBy ran).state.2.visits ≤ spare + rate * ((leftBy ran).state.2.bytes + 1) := by
  cases costs with
  | ended holds affordable =>
    simp only [leftBy, Nat.zero_add, Nat.mul_add] at affordable ⊢
    omega
  | failed accepted affordable =>
    simp only [leftBy, Nat.zero_add] at affordable ⊢
    exact affordable

/-- What has bytes pays with them for the visits that it had to spare. -/
theorem Costs.absorb {start : Tally} {ran : EStateM.Result ε (Walked (σ × Tally)) α}
    (costs : Costs caches start spare rate bytes ran) (filled : 0 < bytes) :
    Costs caches start 0 (rate + spare) bytes ran := by
  cases costs with
  | ended holds affordable =>
    have paid := Nat.le_mul_of_pos_right spare filled
    refine .ended holds ?_
    rw [Nat.add_mul]
    omega
  | failed accepted affordable =>
    have paid : spare ≤ spare * (accepted + 1) :=
      Nat.le_mul_of_pos_right spare (Nat.zero_lt_succ accepted)
    refine .failed accepted ?_
    rw [Nat.add_mul]
    omega

/-- What follows begins with the tally that has been reached. -/
theorem Costs.behind {start : Tally} {visits : Nat}
    {ran : EStateM.Result ε (Walked (σ × Tally)) β}
    (affordable : visits ≤ start.visits + spare + rate * bytes)
    (costs : Costs caches ⟨visits, start.bytes + bytes⟩ more rate others ran) :
    Costs caches start (spare + more) rate (bytes + others) ran := by
  cases costs with
  | ended holds affordable' =>
    dsimp only at affordable' ⊢
    rw [Nat.add_assoc]
    refine .ended holds ?_
    rw [Nat.mul_add]
    omega
  | failed accepted affordable' =>
    dsimp only at affordable' ⊢
    rw [Nat.add_assoc]
    refine .failed (bytes + accepted) ?_
    rw [Nat.add_assoc bytes, Nat.mul_add rate bytes]
    omega

namespace Costing

theorem weaken {walk : Walk ε (σ × Tally) α} {spare' rate' : Nat}
    (costing : Costing caches walk spare rate bytes) (spares : spare ≤ spare')
    (rates : rate ≤ rate') : Costing caches walk spare' rate' bytes :=
  fun sizes state tally holds => (costing sizes state tally holds).weaken spares rates

theorem absorb {walk : Walk ε (σ × Tally) α} (costing : Costing caches walk spare rate bytes)
    (filled : 0 < bytes) : Costing caches walk 0 (rate + spare) bytes :=
  fun sizes state tally holds => (costing sizes state tally holds).absorb filled

theorem pure (value : α) : Costing caches (pure value : Walk ε (σ × Tally) α) spare rate 0 :=
  fun _ _ _ holds => .ended holds (by omega)

theorem throw (error : ε) :
    Costing caches (throw error : Walk ε (σ × Tally) α) spare rate bytes :=
  fun _ _ _ _ => .failed 0 (by omega)

theorem bind {walk : Walk ε (σ × Tally) α} {next : α → Walk ε (σ × Tally) β}
    (first : Costing caches walk spare rate bytes)
    (rest : ∀ value, Costing caches (next value) more rate others) :
    Costing caches (walk >>= next) (spare + more) rate (bytes + others) := by
  intro sizes state tally holds
  have began := first sizes state tally holds
  cases ran : walk ⟨sizes, state, tally⟩ with
  | ok value middle =>
    rw [ran] at began
    rw [run_bind_of_ok ran]
    cases began with
    | ended holds affordable => exact (rest value _ _ _ holds).behind affordable
  | error error after =>
    rw [ran] at began
    rw [run_bind_of_error ran]
    cases began with
    | failed accepted affordable => exact .failed accepted (by omega)

variable {visitor : Visitor ε σ}

theorem visit (offset width count : Nat) :
    Costing caches (Walk.showing (visitor.counted.visit offset width count)) 1 rate
      (width * count) := by
  intro sizes state tally holds
  simp only [Walk.showing_eq, Visitor.counted, counting]
  cases visitor.visit offset width count state with
  | ok _ after => exact .ended holds (by omega)
  | error error after => exact .failed 0 (by omega)

theorem checkSpan (offset length : Nat) :
    Costing caches (Walk.showing (visitor.counted.checkSpan offset length)) 0 rate 0 := by
  intro sizes state tally holds
  simp only [Walk.showing_eq, Visitor.counted, uncounted]
  cases visitor.checkSpan offset length state with
  | ok _ after => exact .ended holds (by omega)
  | error error after => exact .failed 0 (by omega)

variable [LayoutFailure ε]

theorem settle (outcome : Except LayoutError α) :
    Costing caches (Walk.settle outcome : Walk ε (σ × Tally) α) spare rate 0 := by
  cases outcome with
  | ok value => exact pure value
  | error error => exact throw _

theorem bind_settle {outcome : Except LayoutError α} {next : α → Walk ε (σ × Tally) β}
    (rest : ∀ value, outcome = .ok value → Costing caches (next value) spare rate bytes) :
    Costing caches (Walk.settle outcome >>= next) spare rate bytes := by
  cases outcome with
  | ok value => exact rest value rfl
  | error error => exact throw _

/-- A size that is known is found without a visit. -/
theorem measuring_bind {action : Measure α} {value : α} {next : α → Walk ε (σ × Tally) β}
    (known : ∀ sizes, caches sizes → action sizes = .ok value sizes)
    (rest : Costing caches (next value) spare rate bytes) :
    Costing caches (Walk.measuring action >>= next) spare rate bytes := by
  intro sizes state tally holds
  have ran : (Walk.measuring action : Walk ε (σ × Tally) α) ⟨sizes, state, tally⟩ =
      .ok value ⟨sizes, state, tally⟩ := by
    rw [Walk.measuring_eq, known sizes holds]
    rfl
  rw [run_bind_of_ok ran]
  exact rest sizes state tally holds

/-- Each member has a visit to spare. -/
theorem members {value : Nat → TypeDescriptor → Walk ε (σ × Tally) Nat} {base : Nat}
    {parts : VariableSpace} {weight : Variable → Nat}
    (values : ∀ part ∈ parts, ∀ offset, Costing caches (value offset part.type) 1 rate (weight part)) :
    Costing caches (Walk.members value base parts) parts.length rate (parts.map weight).sum := by
  induction parts with
  | nil => exact pure ()
  | cons part rest ih =>
    rw [List.length_cons, Nat.add_comm rest.length, List.map_cons, List.sum_cons]
    apply bind_settle
    intro offset _
    apply (values part List.mem_cons_self offset).bind
    intro _
    exact ih fun other member => values other (List.mem_cons_of_mem _ member)

/-- Structs pay for themselves when each of them does. -/
theorem instances {struct : Nat → Walk ε (σ × Tally) Unit} {size count base : Nat}
    (structs : ∀ base, Costing caches (struct base) 0 rate size) :
    Costing caches (Walk.instances struct size count base) 0 rate (count * size) := by
  induction count generalizing base with
  | zero =>
    rw [Nat.zero_mul]
    exact pure ()
  | succ count ih =>
    rw [Nat.succ_mul, Nat.add_comm (count * size), ← Nat.zero_add 0]
    apply (structs base).bind
    intro _
    apply bind_settle
    intro next _
    exact ih

end Costing

end Rules

variable [LayoutFailure ε]

/-! ## The effort for one value -/

section Value

variable {sizes : SizeCache} {visitor : Visitor ε σ} {rate size levels offset : Nat}
  {caches : SizeCache → Prop}

/-- A type without structs is at most one run. -/
theorem plain_costing (only : ∀ other, HasSize spaces type other → other = size)
    (plain : ∀ space, ¬ type.RefersTo space) :
    Costing caches (Walk.value spaces visitor.counted levels offset type) 1 rate size := by
  cases found : type.extent with
  | error error =>
    rw [Walk.value_error found]
    exact Costing.throw _
  | ok extent =>
    cases extent with
    | structs space count => exact absurd ⟨count, found⟩ (plain space)
    | scalars width count =>
      rcases TypeDescriptor.scalars_of_extent found with ⟨kind, ends, rfl, rfl⟩
      rw [Walk.value_scalars found, ← only _ (.scalars ends), Nat.mul_comm, ← Nat.add_zero 1,
        ← Nat.add_zero (kind.width * type.elementCount)]
      apply (Costing.visit offset kind.width type.elementCount).bind
      intro _
      exact Costing.settle _

/-- Structs that have bytes pay for the visits to their members, and others are not entered. -/
theorem structs_costing {space : UInt32} {parts : VariableSpace} {count : Nat}
    {weight : Variable → Nat} (available : membersOf spaces space = .ok parts)
    (total : structsSize count (parts.map weight).sum = .ok size)
    (members : ∀ part ∈ parts, ∀ offset,
      Costing caches (Walk.value spaces visitor.counted levels offset part.type) 1 rate
        (weight part)) :
    Costing caches
      (Walk.structs spaces visitor.counted levels offset space count (parts.map weight).sum) 0
      (rate + parts.length) size := by
  rcases structsSize_eq_ok.mp total with ⟨rfl, -⟩
  unfold Walk.structs
  by_cases empty : (parts.map weight).sum = 0 ∨ count = 0
  · rw [if_pos empty, Nat.mul_eq_zero.mpr empty.symm]
    exact Costing.pure 0
  have filled : 0 < (parts.map weight).sum := Nat.pos_of_ne_zero fun none => empty (Or.inl none)
  rw [if_neg empty, available]
  apply Costing.bind_settle
  intro length _
  rw [← Nat.zero_add 0, ← Nat.zero_add (count * _)]
  apply (Costing.checkSpan offset length).bind
  intro _
  rw [← Nat.zero_add 0, ← Nat.add_zero (count * _)]
  have structs : ∀ base, Costing caches
      (Walk.members (Walk.value spaces visitor.counted levels) base parts) 0 (rate + parts.length)
      (parts.map weight).sum :=
    fun base => (Costing.members members).absorb filled
  apply (Costing.instances structs).bind
  intro _
  exact Costing.pure length

/-- A walk of a type whose structs are all known has one visit to spare, and each byte pays on each
level for the members of one struct.  The induction is on the levels. -/
theorem value_costing (enters : visitor.counted.entersStructs = true) (sound : sizes.Sound spaces)
    {deep : Nat} (known : ∀ space, type.RefersTo space → sizes.Knows space)
    (declared : declaredSize spaces type deep = .ok size) :
    Costing (· = sizes) (Walk.value spaces visitor.counted levels offset type) 1
      (levels * mostMembers spaces) size := by
  induction levels generalizing type deep offset size with
  | zero =>
    by_cases plain : ∀ space, ¬ type.RefersTo space
    · exact plain_costing (fun _ has => has.unique (hasSize_of_declared declared)) plain
    · rcases not_forall_not.mp plain with ⟨space, count, found⟩
      rw [Walk.value_unlevelled found]
      exact Costing.throw _
  | succ levels ih =>
    by_cases plain : ∀ space, ¬ type.RefersTo space
    · exact plain_costing (fun _ has => has.unique (hasSize_of_declared declared)) plain
    · rcases not_forall_not.mp plain with ⟨space, count, found⟩
      have knows := known space ⟨count, found⟩
      rw [declaredSize, declaredTypeSize_structs found] at declared
      rcases bind_eq_ok.mp declared with ⟨one, valued, total⟩
      have looked := knows_declared sound knows valued
      cases deep with
      | zero => cases valued
      | succ deep =>
        rcases bind_eq_ok.mp valued with ⟨parts, available, sum⟩
        rcases members_of_declared sum with ⟨partsDeclared, rfl⟩
        rw [Nat.zero_add] at total looked
        rw [Walk.value_structs enters found, Nat.succ_mul]
        apply Costing.measuring_bind (by rintro _ rfl; exact structSize_known available looked)
        have few := length_le_mostMembers (List.mem_of_getElem? (membersOf_eq_ok.mp available))
        apply (structs_costing available total _).weaken (Nat.zero_le 1)
          (Nat.add_le_add_left few _)
        intro part member place
        exact ih (sound.members space parts knows available part member)
          (partsDeclared part member)

/-- From every sound cache a walk costs the same.  Once its type has been measured the sizes of all
its structs are known, and a walk of a type that cannot be measured visits at most one run. -/
theorem exists_costing (enters : visitor.counted.entersStructs = true) (levels offset : Nat)
    (type : TypeDescriptor) :
    ∃ bytes, Costing (SizeCache.Sound spaces)
      (Walk.value spaces visitor.counted levels offset type) 1 (levels * mostMembers spaces)
      bytes := by
  have single : ∃ bytes, ∀ other, HasSize spaces type other → other = bytes := by
    by_cases has : ∃ size, HasSize spaces type size
    · rcases has with ⟨size, has⟩
      exact ⟨size, fun _ again => again.unique has⟩
    · exact ⟨0, fun other impossible => absurd ⟨other, impossible⟩ has⟩
  rcases single with ⟨bytes, only⟩
  refine ⟨bytes, ?_⟩
  by_cases plain : ∀ space, ¬ type.RefersTo space
  · exact plain_costing only plain
  rcases not_forall_not.mp plain with ⟨space, count, found⟩
  intro sizes state tally sound
  rcases typeSize_finds (structSize_finds levels []) type sizes sound with
    ⟨outcome, after, answered, finds⟩
  cases outcome with
  | error error =>
    exact .of_shows (structs_unmeasured visitor.counted enters sound offset found answered
      (state, tally))
  | ok size =>
    rcases finds.settles.resolve_left (by simp) with ⟨deep, settled⟩
    have declared : declaredSize spaces type deep = .ok size := settled deep (Nat.le_refl deep)
    cases only size (hasSize_of_declared declared)
    rw [value_from_measured visitor.counted sound answered]
    apply (value_costing enters finds.sound (finds.knows _ rfl) declared _ _ _ rfl).mono
    rintro _ rfl
    exact finds.sound

end Value

/-- Each variable of a block has a visit to spare. -/
theorem exists_block_costing {visitor : Visitor ε σ} (enters : visitor.counted.entersStructs = true)
    (vars : List Variable) :
    ∃ bytes, Costing (SizeCache.Sound spaces) (Walk.block spaces visitor.counted vars) vars.length
      (nestingLimit * mostMembers spaces) bytes := by
  induction vars with
  | nil => exact ⟨0, Costing.pure ()⟩
  | cons record rest ih =>
    rcases exists_costing enters nestingLimit record.offset.toNat record.type with ⟨bytes, first⟩
    rcases ih with ⟨others, costing⟩
    refine ⟨bytes + others, ?_⟩
    rw [List.length_cons, Nat.add_comm rest.length]
    exact first.bind fun _ => costing

/-! ## The effort for a block -/

namespace BlockEditor

/-- An editor that is counted, and has been charged for what the tally says. -/
structure Charged (whole : Nat) (editor : BlockEditor) (counted : BlockEditor × Tally) : Prop where
  same : editor = counted.1
  budget : editor.budget + counted.2.bytes = whole

theorem counted_alike (whole : Nat) :
    Visitor.Alike noExcuse (Charged whole) visitor visitor.counted where
  enters := rfl
  visit offset width count := by
    rintro editor ⟨_, tally⟩ ⟨rfl, charged⟩
    simp only [Visitor.counted, counting, visitor, visit]
    cases ran : editor.runLength offset width count with
    | ok length =>
      rcases runLength_eq_ok.mp ran with ⟨rfl, -, -, affordable⟩
      refine ⟨rfl, rfl, ?_⟩
      rw [budget_accept]
      dsimp only at charged ⊢
      omega
    | error error => exact Or.inl ⟨rfl, rfl, charged⟩
  checkSpan offset length := by
    rintro editor ⟨_, tally⟩ ⟨rfl, charged⟩
    simp only [Visitor.counted, uncounted, visitor, checkSpan]
    cases editor.finish offset length with
    | ok finish => exact ⟨rfl, rfl, charged⟩
    | error error => exact Or.inl ⟨rfl, rfl, charged⟩

end BlockEditor

/-- However the structs of a layout overlap and whatever has been walked before, the effort for a
block is bounded by its length.  With its visits counted the walk of a block ends as without, and
whether it succeeds or fails, there is at most one visit for each variable and, for every byte that
may be visited and one more, one for each member of a struct on each of 32 levels; and the runs that
are accepted have at most four times as many bytes as the block. -/
theorem usedWalker_effort_bounded {sizes : SizeCache} (reached : sizes.Reachable spaces)
    (vars : List Variable) (swap : Bool) (bytes : List UInt8) :
    let counted := Walk.block spaces BlockEditor.visitor.counted vars
      ⟨sizes, .ofBlock bytes swap, ⟨0, 0⟩⟩
    let plain := Workspace.normalizeBlock spaces vars swap ⟨sizes, bytes⟩
    let tally := (leftBy counted).state.2
    (outcomeOf counted = outcomeOf plain ∧
      leftBy plain = ⟨(leftBy counted).sizes, (leftBy counted).state.1.bytes.toList⟩) ∧
    tally.visits ≤ vars.length + 32 * mostMembers spaces * (4 * bytes.length + 1) ∧
    tally.bytes ≤ 4 * bytes.length := by
  intro counted plain tally
  have ends := Walk.block_alike (BlockEditor.counted_alike (BlockEditor.wholeBudget bytes.length))
    (sizesAlike_eq spaces) (fun record (_ : record ∈ vars) _ _ => trivial)
    ⟨sizes, .ofBlock bytes swap⟩ ⟨sizes, .ofBlock bytes swap, ⟨0, 0⟩⟩ ⟨rfl, rfl, rfl⟩
  rcases ends.left_behind with ⟨sameSizes, sameEditor, charged⟩
  rcases Workspace.edit_eq swap (Walk.block spaces BlockEditor.visitor vars) sizes bytes
    with ⟨outcome, left⟩
  have whole : BlockEditor.wholeBudget bytes.length ≤ bytes.length * 4 := Nat.min_le_left _ _
  have accepted : tally.bytes ≤ 4 * bytes.length := by
    have charged : _ + tally.bytes = _ := charged
    omega
  refine ⟨⟨ends.outcome_eq.symm.trans outcome.symm, ?_⟩, ?_, accepted⟩
  · refine left.trans ?_
    rw [sameSizes, sameEditor]
  · have enters : BlockEditor.visitor.counted.entersStructs = true := rfl
    rcases exists_block_costing enters vars with ⟨most, costing⟩
    have affordable := (costing sizes (.ofBlock bytes swap) ⟨0, 0⟩ reached.sound).visits_le
    have paid : 32 * mostMembers spaces * (tally.bytes + 1) ≤
        32 * mostMembers spaces * (4 * bytes.length + 1) :=
      Nat.mul_le_mul_left _ (Nat.succ_le_succ accepted)
    exact Nat.le_trans affordable (Nat.add_le_add_left paid _)

/-- Structs of two structs of an empty run and a byte each, all at one place.  A block of two bytes
has the budget for four of them; the fifth one is left when its first byte is refused. -/
theorem usedWalker_effort_fan :
    let nothing : TypeDescriptor := ⟨#v[⟨17, 0⟩, ⟨6, 0⟩, ⟨0, 0⟩, ⟨0, 0⟩, ⟨0, 0⟩, ⟨0, 0⟩, ⟨0, 0⟩,
      ⟨0, 0⟩], 0⟩
    let spaces : List VariableSpace :=
      [[⟨.ofSpace 1, 0, 0, 0⟩, ⟨.ofSpace 1, 1, 0, 0⟩],
        [⟨nothing, 0, 0, 0⟩, ⟨.ofBase (.scalar .byte), 1, 0, 0⟩]]
    let vars : List Variable := List.replicate 5 ⟨.ofSpace 0, 0, 0, 0⟩
    let tally := (leftBy (Walk.block spaces BlockEditor.visitor.counted vars
      ⟨[], .ofBlock [7, 8] true, ⟨0, 0⟩⟩)).state.2
    outcomeOf (Workspace.normalizeBlock spaces vars true ⟨[], [7, 8]⟩) = .error (.tooComplex 8) ∧
      tally = ⟨18, 8⟩ ∧ tally.visits ≤ 5 + 32 * 2 * (4 * 2 + 1) := by
  intro nothing spaces vars tally
  have refused : outcomeOf (Workspace.normalizeBlock spaces vars true ⟨[], [7, 8]⟩) =
      .error (.tooComplex 8) := by
    decide +kernel
  have counts : tally = ⟨18, 8⟩ := by decide +kernel
  have bounded := usedWalker_effort_bounded (.fresh : SizeCache.Reachable spaces []) vars true [7, 8]
  exact ⟨refused, counts, bounded.2.1⟩

end CompiledModule
