import CompiledModule.Proofs.Layout.Sequence

namespace CompiledModule

/-!
# What a used walker shows

A walker outlasts the walks that are made with it, and what it remembers of them is a cache of
sizes.  Walks may be made by any visitor, from any offset and with any number of levels left, and
they may have failed; whatever has happened before, the next walk shows the expansion of its type.

The log of a visitor tells what was shown, and the log is enough to know how the visitor ends and
whether the walk goes on.  A visitor may refuse with errors of its own, which the walk hands on as
they are; its state is then the one that it has after all that the log lists.
-/

variable {ε σ : Type} {spaces : List VariableSpace} {sizes : SizeCache} {type : TypeDescriptor}

/-! ## Sizes that can be remembered -/

/-- The sizes that a walker may know, after calls and after walks of its own. -/
inductive SizeCache.Reachable (spaces : List VariableSpace) : SizeCache → Prop
  | fresh : Reachable spaces []
  | called {sizes : SizeCache} (reached : Reachable spaces sizes) (call : WalkerCall) :
    Reachable spaces (sizes.afterCall spaces call)
  | walked {ε σ : Type} [LayoutFailure ε] {sizes : SizeCache} (reached : Reachable spaces sizes)
    (visitor : Visitor ε σ) (levels offset : Nat) (type : TypeDescriptor) (state : σ) :
    Reachable spaces (leftBy (Walk.value spaces visitor levels offset type ⟨sizes, state⟩)).sizes

/-- A walk keeps a cache sound, since it only adds what it measures. -/
theorem SizeCache.Sound.afterWalk [LayoutFailure ε] (sound : sizes.Sound spaces)
    (visitor : Visitor ε σ) (levels offset : Nat) (type : TypeDescriptor) (state : σ) :
    (leftBy (Walk.value spaces visitor levels offset type ⟨sizes, state⟩)).sizes.Sound spaces := by
  have visitors : visitor.Alike noExcuse Eq visitor := .refl visitor
  have refers : ∀ space, type.RefersTo space → True := fun _ _ => trivial
  have kept := Walk.value_alike visitors (sizesAlike_grown spaces sizes) levels offset refers
    ⟨sizes, state⟩ ⟨sizes, state⟩ ⟨⟨rfl, sound.trails⟩, rfl⟩
  exact kept.left_behind.1.2.ahead

theorem SizeCache.Reachable.sound (reached : sizes.Reachable spaces) : sizes.Sound spaces := by
  induction reached with
  | fresh => exact SizeCache.sound_nil spaces
  | called _ call sound => exact (sound.trails_afterCall call).ahead
  | walked _ visitor levels offset type state sound =>
    exact sound.afterWalk visitor levels offset type state

/-! ## Measuring what was walked -/

section Again

variable {after : SizeCache} {size : Nat}

/-- What is known is known at every level. -/
theorem structSize_elsewhere {levels : Nat} {space : UInt32} (sound : sizes.Sound spaces)
    (ran : structSize spaces (levels + 1) [] space sizes = .ok size after) (others : Nat) :
    structSize spaces (others + 1) [] space after = .ok size after := by
  rcases structSize_again sound ran with ⟨⟨one, known⟩, again⟩
  cases available : membersOf spaces space with
  | error error =>
    rw [structSize_unavailable available] at again
    cases again
  | ok parts =>
    rw [structSize_known available known] at again
    cases again
    exact structSize_known available known

/-- A type that was measured somewhere inside a walk can be measured from then on. -/
theorem measure_after {levels : Nat} (sound : sizes.Sound spaces)
    (answered : typeSize (structSize spaces levels []) type sizes = .ok size after) :
    measure spaces type after = .ok size after := by
  unfold measure
  cases found : type.extent with
  | error error =>
    rw [typeSize_error found] at answered
    cases answered
  | ok extent =>
    cases extent with
    | scalars width count =>
      rw [typeSize_scalars found] at answered ⊢
      rcases settle_eq_ok.mp answered with ⟨product, rfl⟩
      exact answered
    | structs space count =>
      rw [typeSize_structs found] at answered ⊢
      rcases run_bind_eq_ok.mp answered with ⟨one, middle, ran, total⟩
      rcases settle_eq_ok.mp total with ⟨_, rfl⟩
      cases levels with
      | zero => cases ran
      | succ levels =>
        have again : structSize spaces nestingLimit [] space after = .ok one after :=
          structSize_elsewhere sound ran 31
        exact run_bind_eq_ok.mpr ⟨one, after, again, total⟩

end Again

/-! ## The log of a visitor -/

section Log

variable {visitor : Visitor ε σ} {events log : List WalkEvent} {state : σ}
  {left : σ × List WalkEvent}

theorem logging_eq_ok {event : WalkEvent} {action : EStateM ε σ Unit} :
    logging event action (state, log) = .ok () left ↔
      ∃ after, action state = .ok () after ∧ left = (after, log ++ [event]) := by
  simp only [logging]
  cases action state <;> simp [eq_comm]

theorem logging_eq_error {event : WalkEvent} {action : EStateM ε σ Unit} {error : ε} :
    logging event action (state, log) = .error error left ↔
      ∃ after, action state = .error error after ∧ left = (after, log ++ [event]) := by
  simp only [logging]
  cases action state <;> simp [eq_comm]

theorem Visitor.see_logged (visitor : Visitor ε σ) (event : WalkEvent) :
    visitor.logged.see event = logging event (visitor.see event) := by
  cases event <;> rfl

/-- What was shown to the end is in the log. -/
theorem Visitor.seeAll_logged_ok (ended : visitor.logged.seeAll events (state, log) = .ok () left) :
    left.2 = log ++ events ∧ visitor.seeAll events state = .ok () left.1 := by
  induction events generalizing state log with
  | nil =>
    cases ended
    exact ⟨(List.append_nil log).symm, rfl⟩
  | cons event rest ih =>
    rcases run_bind_eq_ok.mp ended with ⟨_, middle, seen, ended⟩
    rw [see_logged] at seen
    rcases logging_eq_ok.mp seen with ⟨after, ran, rfl⟩
    rcases ih ended with ⟨logged, shown⟩
    rw [List.append_assoc] at logged
    exact ⟨logged, run_bind_eq_ok.mpr ⟨(), after, ran, shown⟩⟩

/-- What was shown up to a refusal is in the log, the part that was refused with it. -/
theorem Visitor.seeAll_logged_error {error : ε}
    (ended : visitor.logged.seeAll events (state, log) = .error error left) :
    ∃ shown, shown <+: events ∧ left.2 = log ++ shown ∧
      visitor.seeAll shown state = .error error left.1 := by
  induction events generalizing state log with
  | nil => cases ended
  | cons event rest ih =>
    rcases run_bind_eq_error.mp ended with seen | ⟨_, middle, seen, ended⟩
    · rw [see_logged] at seen
      rcases logging_eq_error.mp seen with ⟨after, ran, rfl⟩
      refine ⟨[event], List.prefix_append [event] rest, rfl, ?_⟩
      rw [seeAll_one, ran]
    · rw [see_logged] at seen
      rcases logging_eq_ok.mp seen with ⟨after, ran, rfl⟩
      rcases ih ended with ⟨shown, planned, logged, refusal⟩
      rw [List.append_assoc] at logged
      exact ⟨event :: shown, (List.prefix_append_right_inj [event]).mpr planned, logged,
        run_bind_eq_error.mpr (Or.inr ⟨(), after, ran, refusal⟩)⟩

end Log

variable [LayoutFailure ε]

def Walk.shown (spaces : List VariableSpace) (visitor : Visitor ε σ) (levels offset : Nat)
    (type : TypeDescriptor) (start : Walked σ) : List WalkEvent :=
  (leftBy (value spaces visitor.logged levels offset type
    ⟨start.sizes, start.state, []⟩)).state.2

/-- The log is a part of what was planned, and tells how the run has ended: with a result when all
was shown, otherwise with the visitor's refusal of what was shown last or with the error of a
check. -/
structure Logged (visitor : Visitor ε σ) (state : σ) (events : List WalkEvent)
    (stops : LayoutError → Prop) (property : α → Prop) (log : List WalkEvent)
    (ran : EStateM.Result ε (Walked σ) α) : Prop where
  leaves : (leftBy ran).state = leftBy (visitor.seeAll log state)
  planned : log <+: events
  answered : ∀ value, outcomeOf ran = .ok value →
    log = events ∧ outcomeOf (visitor.seeAll log state) = .ok () ∧ property value
  failed : ∀ error, outcomeOf ran = .error error →
    outcomeOf (visitor.seeAll log state) = .error error ∨
      (outcomeOf (visitor.seeAll log state) = .ok () ∧
        ∃ cause, LayoutFailure.ofLayout cause = error ∧ stops cause)

/-- The run with the log tells of the run without it. -/
theorem Shows.logged {visitor : Visitor ε σ} {state : σ} {events : List WalkEvent}
    {stops : LayoutError → Prop} {property : α → Prop}
    {ran : EStateM.Result ε (Walked σ) α}
    {recorded : EStateM.Result ε (Walked (σ × List WalkEvent)) α}
    (shows' : Shows visitor.logged sizes (state, []) events stops property recorded)
    (alike : EndAlike noExcuse (Walked.Alike Eq fun state logged => state = logged.1) Eq ran
      recorded) :
    Logged visitor state events stops property (leftBy recorded).state.2 ran ∧
      (leftBy ran).sizes = sizes := by
  cases shows' with
  | ended shown holds =>
    rcases alike.left_ok with ⟨value, ⟨_, _⟩, rfl, rfl, same, rfl⟩
    rcases Visitor.seeAll_logged_ok shown with ⟨logged, seen⟩
    simp only [leftBy, logged, List.nil_append]
    refine ⟨⟨?_, List.prefix_refl events, ?_, ?_⟩, same⟩
    · rw [seen]
      rfl
    · rintro _ ⟨⟩
      rw [seen]
      exact ⟨rfl, rfl, holds⟩
    · rintro _ ⟨⟩
  | refused planned refusal =>
    rcases alike.left_error with ⟨⟨_, _⟩, rfl, same, rfl⟩
    rcases Visitor.seeAll_logged_error refusal with ⟨log, part, logged, refusal⟩
    simp only [leftBy, logged, List.nil_append]
    refine ⟨⟨?_, part.trans planned, ?_, ?_⟩, same⟩
    · rw [refusal]
      rfl
    · rintro _ ⟨⟩
    · rintro _ ⟨⟩
      rw [refusal]
      exact Or.inl rfl
  | stopped planned shown cause =>
    rcases alike.left_error with ⟨⟨_, _⟩, rfl, same, rfl⟩
    rcases Visitor.seeAll_logged_ok shown with ⟨logged, seen⟩
    simp only [leftBy, logged, List.nil_append]
    refine ⟨⟨?_, planned, ?_, ?_⟩, same⟩
    · rw [seen]
      rfl
    · rintro _ ⟨⟩
    · rintro _ ⟨⟩
      rw [seen]
      exact Or.inr ⟨rfl, _, rfl, cause⟩

/-! ## Every walk -/

/-- A check of a walk fails with this error: the type cannot be measured, or the walk stops inside
what it expands to. -/
inductive CheckFails (spaces : List VariableSpace) (sizes : SizeCache) (levels offset : Nat)
    (type : TypeDescriptor) : ε → Prop
  | unmeasured {error : LayoutError} {after : SizeCache}
    (failed : typeSize (structSize spaces levels []) type sizes = .error error after) :
    CheckFails spaces sizes levels offset type (LayoutFailure.ofLayout error)
  | inside {error : LayoutError} {events : List WalkEvent}
    (expands : Expands spaces offset type events)
    (stops : Stops spaces type levels events error) :
    CheckFails spaces sizes levels offset type (LayoutFailure.ofLayout error)

/-- With the log a walk keeps step with the walk without it. -/
theorem Walk.value_logged (spaces : List VariableSpace) (visitor : Visitor ε σ)
    (levels offset : Nat) (type : TypeDescriptor) (sizes : SizeCache) (state : σ) :
    EndAlike noExcuse (Walked.Alike Eq fun state logged => state = logged.1) Eq
      (value spaces visitor levels offset type ⟨sizes, state⟩)
      (value spaces visitor.logged levels offset type ⟨sizes, state, []⟩) := by
  have refers : ∀ space, type.RefersTo space → True := fun _ _ => trivial
  exact value_alike visitor.logged_alike (sizesAlike_eq spaces) levels offset refers
    ⟨sizes, state⟩ ⟨sizes, state, []⟩ ⟨rfl, rfl⟩

/-- After any calls and walks, also after those that have failed, what a walk shows is the layout of
its type.  A walk that comes to an answer has shown exactly the expansion of the type, whose runs
have as many bytes together as the answer says, and so does a measurement from then on.  A walk that
fails has shown a part of the expansion, and either the visitor has refused the last of it with this
error, or the visitor has refused nothing and it is the error of a check. -/
theorem usedWalker_shows_layout (reached : sizes.Reachable spaces) (visitor : Visitor ε σ)
    (enters : visitor.entersStructs = true) (levels offset : Nat) (type : TypeDescriptor)
    (state : σ) :
    let ran := Walk.value spaces visitor levels offset type ⟨sizes, state⟩
    let shown := Walk.shown spaces visitor levels offset type ⟨sizes, state⟩
    (leftBy ran).state = leftBy (visitor.seeAll shown state) ∧
    (∀ answer, outcomeOf ran = .ok answer →
      Expands spaces offset type shown ∧ outcomeOf (visitor.seeAll shown state) = .ok () ∧
        shownBytes shown = answer ∧ measured spaces (leftBy ran).sizes type = .ok answer) ∧
    (∀ error, outcomeOf ran = .error error →
      (shown = [] ∨ ∃ events, Expands spaces offset type events ∧ shown <+: events) ∧
        (outcomeOf (visitor.seeAll shown state) = .error error ∨
          (outcomeOf (visitor.seeAll shown state) = .ok () ∧
            CheckFails spaces sizes levels offset type error))) := by
  intro ran shown
  have sound := reached.sound
  have alike := Walk.value_logged spaces visitor levels offset type sizes state
  cases measuredType : typeSize (structSize spaces levels []) type sizes with
  | ok size after =>
    rcases value_shows visitor.logged enters sound offset measuredType (state, [])
      with ⟨events, expands, shows'⟩
    rcases shows'.logged alike with ⟨logged, sameSizes⟩
    refine ⟨logged.leaves, ?_, ?_⟩
    · intro answer answered
      rcases logged.answered answer answered with ⟨all, accepted, rfl, _⟩
      have again : measured spaces (leftBy ran).sizes type = .ok answer := by
        rw [sameSizes, measured, measure_after sound measuredType]
        rfl
      have has : HasSize spaces type answer :=
        hasSize_of_measured (sound.afterWalk visitor levels offset type state) again
      have same : shown = events := all
      rw [← same] at expands
      exact ⟨expands, accepted, expands.shownBytes_eq has, again⟩
    · intro error failed
      refine ⟨Or.inr ⟨events, expands, logged.planned⟩, ?_⟩
      apply (logged.failed error failed).imp_right
      rintro ⟨accepted, cause, rfl, stops⟩
      exact ⟨accepted, .inside expands stops⟩
  | error error after =>
    rcases value_unmeasured visitor.logged enters sound offset measuredType (state, [])
      with ⟨events, planned, shows'⟩
    rcases shows'.logged alike with ⟨logged, sameSizes⟩
    refine ⟨logged.leaves, ?_, ?_⟩
    · intro answer answered
      exact (logged.answered answer answered).2.2.elim
    · intro other failed
      constructor
      · rcases planned with rfl | expands
        · exact Or.inl (List.prefix_nil.mp logged.planned)
        · exact Or.inr ⟨events, expands, logged.planned⟩
      · apply (logged.failed other failed).imp_right
        rintro ⟨accepted, _, rfl, rfl⟩
        exact ⟨accepted, .unmeasured measuredType⟩

/-- Two segments, each of two points and a byte, after a call that has failed.  With room for three
runs the walk ends at the fourth one. -/
theorem usedWalker_shows_segments :
    let spaces : List VariableSpace :=
      [[⟨.ofBase (.scalar .short), 0, 0, 0⟩, ⟨.ofBase (.scalar .short), 1, 2, 0⟩],
        [⟨.ofSpace 0, 0, 0, 0⟩, ⟨.ofSpace 0, 1, 4, 0⟩, ⟨.ofBase (.scalar .byte), 2, 8, 0⟩]]
    let segments : TypeDescriptor := ⟨#v[⟨17, 2⟩, ⟨18, 0⟩, ⟨0, 0⟩, ⟨0, 0⟩, ⟨0, 0⟩, ⟨0, 0⟩, ⟨0, 0⟩,
      ⟨0, 0⟩], 1⟩
    let first : List WalkEvent :=
      [.span 100 18, .span 100 4, .run 100 2 1, .run 102 2 1, .span 104 4, .run 104 2 1]
    let rest : List WalkEvent :=
      [.run 106 2 1, .run 108 1 1, .span 109 4, .run 109 2 1, .run 111 2 1, .span 113 4,
        .run 113 2 1, .run 115 2 1, .run 117 1 1]
    let sizes := SizeCache.afterCall spaces [] (.measure (.ofSpace 2))
    Expands spaces 100 segments (first ++ rest) ∧ shownBytes (first ++ rest) = 18 ∧
      Walk.shown spaces (.recorder true true 3) nestingLimit 100 segments ⟨sizes, .ofLimit 3⟩ =
        first ++ [.run 106 2 1] ∧
      outcomeOf ((Visitor.recorder true true 3).seeAll (first ++ [.run 106 2 1]) (.ofLimit 3)) =
        .error (.tooComplex 3) := by
  intro spaces segments first rest sizes
  have reached : sizes.Reachable spaces := .called .fresh _
  have all : outcomeOf (Walk.value spaces (.recorder true true 10) nestingLimit 100 segments
      ⟨sizes, .ofLimit 10⟩) = .ok 18 := by decide +kernel
  have shown : Walk.shown spaces (.recorder true true 10) nestingLimit 100 segments
      ⟨sizes, .ofLimit 10⟩ = first ++ rest := by decide +kernel
  have part : Walk.shown spaces (.recorder true true 3) nestingLimit 100 segments
      ⟨sizes, .ofLimit 3⟩ = first ++ [.run 106 2 1] := by decide +kernel
  rcases usedWalker_shows_layout reached (.recorder true true 10) rfl nestingLimit 100 segments
    (.ofLimit 10) with ⟨_, answered, _⟩
  rcases answered 18 all with ⟨expands, _, bytes, _⟩
  rw [shown] at expands bytes
  exact ⟨expands, bytes, part, by decide +kernel⟩

/-- A visitor that copies what it is shown may run out of memory, and no layout is to blame for
that. -/
example :
    let copier : Visitor LoadError Unit :=
      { entersStructs := true
        visit := fun _ width count => throw (.allocation .globalVars (width * count))
        checkSpan := fun _ _ => pure () }
    outcomeOf (Walk.value [] copier nestingLimit 8 (.ofBase (.scalar .word)) ⟨[], ()⟩) =
        .error (.allocation .globalVars 2) ∧
      outcomeOf (Walk.value [] copier nestingLimit 8 (.ofSpace 0) ⟨[], ()⟩) =
        .error (.layout (.badStructRef 0 0)) := by
  decide +kernel

end CompiledModule
