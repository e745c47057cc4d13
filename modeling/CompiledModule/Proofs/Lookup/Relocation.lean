import CompiledModule.Proofs.Lookup.Resolution

namespace CompiledModule

/-!
# What a relocation binds

The host's list leads a relocation, and each of its routines changes the calls that the next one
is offered to.  What comes of it can still be said of each call by itself.  A call that is bound
stays as it is.  One that is not bound gets the first routine that is offered for what it asks for,
provided that no call before it asks for the same, be that call bound or not.

The order of the host's list therefore matters only among routines that are offered for the same.
Routines that differ in any of the four things that a call asks for never compete, even if they
have all the others in common.
-/

variable {host : HostTable} {ids : IdTable} {calls after : List SystemCall}

/-- With the host's routines bound to them, the calls have become the calls `after`. -/
structure Relocation (host : HostTable) (ids : IdTable) (calls after : List SystemCall) : Prop where
  /-- Apart from what they are bound to, the calls are the same and in the same order. -/
  unchanged : after.map SystemCall.unbound = calls.map SystemCall.unbound
  keeps : ∀ (index : Nat) dispatch, calls[index]?.bind SystemCall.binding = some dispatch →
    after[index]?.bind SystemCall.binding = some dispatch
  binds : ∀ (index : Nat) call, calls[index]? = some call → call.binding = none →
    ∀ dispatch, after[index]?.bind SystemCall.binding = some dispatch ↔
      (∀ earlier < index, ∀ other, calls[earlier]? = some other → other.request ≠ call.request) ∧
        ∃ refused routine,
          First host (fun routine => routine.request? ids = some call.request) refused routine ∧
            routine.dispatch = dispatch

/-- The other table has the host's routines in an order of its own, but those that are offered for
the same stand one behind the other as they do here. -/
structure HostTable.Rearranged (ids : IdTable) (host other : HostTable) : Prop where
  routines : host.Perm other
  order : ∀ request, host.filter (fun routine => routine.request? ids = some request) =
    other.filter fun routine => routine.request? ids = some request

/-! ## Each call by itself -/

namespace SystemCall

theorem not_mem_earlier {index : Nat} {request : Request} :
    request ∉ (calls.map SystemCall.request).take index ↔
      ∀ earlier < index, ∀ other, calls[earlier]? = some other → other.request ≠ request := by
  constructor
  · intro fresh earlier before other found same
    apply fresh
    apply List.mem_of_getElem? (i := earlier)
    rw [List.getElem?_take_of_lt before, List.getElem?_map, found, Option.map_some, same]
  · intro fresh member
    rcases List.getElem?_of_mem member with ⟨earlier, found⟩
    rcases List.getElem?_eq_some_iff.mp found with ⟨inside, _⟩
    have before : earlier < index := by
      rw [List.length_take] at inside
      omega
    rw [List.getElem?_take_of_lt before, List.getElem?_map] at found
    rcases Option.map_eq_some_iff.mp found with ⟨other, among, same⟩
    exact fresh earlier before other among same

/-- What a call is bound to once the host's routines have been offered. -/
theorem binding_offered {call : SystemCall} {index : Nat} (found : calls[index]? = some call) :
    (relocate host ids calls)[index]?.bind binding =
      call.binding.or (boundTo? host ids ((calls.map request).take index) call.request) := by
  rw [getElem?_relocate, found, Option.map_some, Option.bind_some]
  rfl

theorem eq_of_unbound {left right : SystemCall} (same : left.unbound = right.unbound)
    (bound : left.binding = right.binding) : left = right := by
  cases left
  cases right
  simp only [unbound, SystemCall.mk.injEq] at same bound ⊢
  exact ⟨same.1, same.2.1, same.2.2.1, same.2.2.2.1, same.2.2.2.2.1, bound⟩

/-- Calls that differ in nothing but bindings, and in no binding either, are the same. -/
theorem eq_of_bindings (same : after.map unbound = calls.map unbound)
    (bound : ∀ index : Nat, after[index]?.bind binding = calls[index]?.bind binding) :
    after = calls := by
  apply List.ext_getElem?
  intro index
  have here := congrArg (fun entries : List SystemCall => entries[index]?) same
  have boundHere := bound index
  simp only [List.getElem?_map] at here
  cases there : calls[index]? with
  | none =>
    rw [there] at here
    exact Option.map_eq_none_iff.mp here
  | some call =>
    rw [there] at here boundHere
    rcases Option.map_eq_some_iff.mp here with ⟨other, found, alike⟩
    rw [found] at boundHere ⊢
    exact congrArg some (eq_of_unbound alike boundHere)

end SystemCall

theorem relocation_relocate (host : HostTable) (ids : IdTable) (calls : List SystemCall) :
    Relocation host ids calls (SystemCall.relocate host ids calls) where
  unchanged := SystemCall.unbound_relocate host ids calls
  keeps index dispatch bound := by
    rcases Option.bind_eq_some_iff.mp bound with ⟨call, found, bound⟩
    rw [SystemCall.binding_offered found, bound, Option.some_or]
  binds index call found unbound dispatch := by
    rw [SystemCall.binding_offered found, unbound, Option.none_or, SystemCall.boundTo?_eq_some,
      SystemCall.not_mem_earlier]

/-- No two lists of calls are what the calls become.  Where a call was bound, both have it bound as
it was; where it was not, both bind it to the same routine or to none. -/
theorem Relocation.unique {others : List SystemCall} (first : Relocation host ids calls after)
    (second : Relocation host ids calls others) : after = others := by
  apply SystemCall.eq_of_bindings (first.unchanged.trans second.unchanged.symm)
  intro index
  cases found : calls[index]? with
  | none =>
    have gone : ∀ {list : List SystemCall},
        list.map SystemCall.unbound = calls.map SystemCall.unbound → list[index]? = none := by
      intro list same
      have lengths := congrArg List.length same
      rw [List.length_map, List.length_map] at lengths
      rw [List.getElem?_eq_none_iff] at found ⊢
      omega
    rw [gone first.unchanged, gone second.unchanged]
  | some call =>
    cases bound : call.binding with
    | none =>
      apply Option.ext
      intro dispatch
      rw [first.binds index call found bound, second.binds index call found bound]
    | some dispatch =>
      have before : calls[index]?.bind SystemCall.binding = some dispatch := by
        rw [found, Option.bind_some, bound]
      rw [first.keeps index dispatch before, second.keeps index dispatch before]

theorem relocation_iff :
    Relocation host ids calls after ↔ after = SystemCall.relocate host ids calls := by
  constructor
  · intro relocation
    exact relocation.unique (relocation_relocate host ids calls)
  · intro same
    rw [same]
    exact relocation_relocate host ids calls

/-! ## Orders and repetitions -/

namespace SystemCall

theorem boundTo?_rearranged {other : HostTable} (rearranged : host.Rearranged ids other)
    (earlier : List Request) (request : Request) :
    boundTo? other ids earlier request = boundTo? host ids earlier request := by
  unfold boundTo?
  rw [← List.head?_filter, ← List.head?_filter, rearranged.order]

theorem relocate_rearranged {other : HostTable} (rearranged : host.Rearranged ids other)
    (calls : List SystemCall) : relocate other ids calls = relocate host ids calls := by
  apply List.ext_getElem?
  intro index
  simp only [getElem?_relocate, boundTo?_rearranged rearranged]

theorem relocate_append (host more : HostTable) (ids : IdTable) (calls : List SystemCall) :
    relocate (host ++ more) ids calls = relocate more ids (relocate host ids calls) := by
  rw [relocate, List.foldl_append, ← relocate, ← relocate]

/-- A second relocation finds every call bound that it would bind. -/
theorem relocate_relocate (host : HostTable) (ids : IdTable) (calls : List SystemCall) :
    relocate host ids (relocate host ids calls) = relocate host ids calls := by
  apply List.ext_getElem?
  intro index
  rw [getElem?_relocate, requests_relocate, getElem?_relocate, Option.map_map]
  apply Option.map_congr
  intro call _
  change (call.offered _).offered (boundTo? host ids _ call.request) = _
  rw [offered_offered, Option.or_self]

end SystemCall

theorem RelocationReport.ofCalls_eq (calls : List SystemCall) :
    ofCalls calls = ⟨(calls.filter fun call => call.binding.isSome).length,
      (calls.filter fun call => call.binding.isNone).length⟩ := by
  have together := List.length_eq_countP_add_countP (fun call => call.binding.isSome) (l := calls)
  have others : calls.countP (fun call => ¬ call.binding.isSome) =
      (calls.filter fun call => call.binding.isNone).length := by
    rw [List.countP_eq_length_filter]
    congr 2
    funext call
    cases call.binding <;> rfl
  rw [others] at together
  rw [ofCalls, RelocationReport.mk.injEq]
  exact ⟨List.countP_eq_length_filter, by omega⟩

/-- A relocation is known by what it does to each call.  It binds an unbound call to a routine
exactly when the call is the first one that asks for what it asks for and the routine is the first
one that is offered for that; it changes nothing else, and nothing else is such a relocation.  The
report counts the calls that are bound and those that are not.  It follows that the order of
routines matters only among those that are offered for the same, that two hosts may be offered one
after the other or together, and that a host may be offered again without effect. -/
theorem relocate_binds_exactly (host : HostTable) (ids : IdTable) (calls : List SystemCall) :
    let bound := SystemCall.relocate host ids calls
    (∀ after, Relocation host ids calls after ↔ after = bound) ∧
    RelocationReport.ofCalls bound = ⟨(bound.filter fun call => call.binding.isSome).length,
      (bound.filter fun call => call.binding.isNone).length⟩ ∧
    (∀ other, host.Rearranged ids other → SystemCall.relocate other ids calls = bound) ∧
    (∀ more, SystemCall.relocate (host ++ more) ids calls =
      SystemCall.relocate more ids bound) ∧
    SystemCall.relocate host ids bound = bound := by
  intro bound
  refine ⟨fun _ => relocation_iff, RelocationReport.ofCalls_eq _, ?_, ?_, ?_⟩
  · intro other rearranged
    exact SystemCall.relocate_rearranged rearranged calls
  · intro more
    exact SystemCall.relocate_append host more ids calls
  · exact SystemCall.relocate_relocate host ids calls

/-- Two names share a code, so two routines are offered for the same, and the first of them goes to
the first call.  The second call asks for the same and stays unbound, the third one is bound before,
and a routine that the module has no name for may stand anywhere in the host's list. -/
theorem relocate_greetings :
    let ids : IdTable := .ofList [⟨1, "SAY"⟩, ⟨1, "TELL"⟩]
    let say : HostRoutine := ⟨"SAY", 0, 1, "I", 7⟩
    let tell : HostRoutine := ⟨"TELL", 0, 1, "I", 8⟩
    let halt : HostRoutine := ⟨"HALT", 0, 0, "", 9⟩
    let calls : List SystemCall := [⟨1, 0, 1, 40, [0x49], none⟩, ⟨1, 0, 1, 41, [0x49], none⟩,
      ⟨1, 0, 0, 42, [], some 3⟩]
    let bound : List SystemCall := [⟨1, 0, 1, 40, [0x49], some 7⟩, ⟨1, 0, 1, 41, [0x49], none⟩,
      ⟨1, 0, 0, 42, [], some 3⟩]
    Relocation [say, tell, halt] ids calls bound ∧
      SystemCall.relocate [halt, say, tell] ids calls = bound ∧
      SystemCall.relocate [tell, halt] ids (SystemCall.relocate [say] ids calls) = bound := by
  intro ids say tell halt calls bound
  have came : bound = SystemCall.relocate [say, tell, halt] ids calls := by decide +kernel
  rcases relocate_binds_exactly [say, tell, halt] ids calls with ⟨exactly, _, orders, _, _⟩
  rcases relocate_binds_exactly [say] ids calls with ⟨_, _, _, joins, _⟩
  have unknown : halt.request? ids = none := by decide +kernel
  have rearranged : HostTable.Rearranged ids [say, tell, halt] [halt, say, tell] := by
    constructor
    · exact (List.perm_append_comm : ([say, tell] ++ [halt]).Perm _)
    · intro request
      have nothing : [halt].filter (fun routine => routine.request? ids = some request) = [] := by
        rw [List.filter_cons, unknown]
        rfl
      change ([say, tell] ++ [halt]).filter _ = ([halt] ++ [say, tell]).filter _
      rw [List.filter_append, List.filter_append, nothing, List.append_nil, List.nil_append]
  refine ⟨(exactly bound).mpr came, ?_, ?_⟩
  · rw [orders _ rearranged, came]
  · rw [← joins [tell, halt], came]
    rfl

end CompiledModule
