import CompiledModule.Image
import CompiledModule.Loader
import CompiledModule.Proofs.Lookup.FirstPosition
import CompiledModule.Proofs.Reading.Results

namespace CompiledModule

/-!
# Which routine a call is made to

When a module calls a routine, an index leads from the call code to a call of the table, and the
call has kept the routine that it was bound to by the load.  None of the four tables that take part
has unique keys: two names may share a code, two codes a name, two calls what they ask for, and two
calls their code.  A host may offer a routine twice.

The result is the one of plain scans from the front, each of which stops at its first hit.  Scan
the calls for the code.  If an earlier call has asked for the same, then the host's routine went to
that one.  Otherwise scan the host for a routine that serves the call; its name is looked up by
another scan, of the module's names.
-/

/-! ## Requests -/

/-- What a call asks for, and what a routine is offered for. -/
structure Request where
  nameCode : UInt32
  kind : UInt32
  params : UInt32
  signature : List UInt8
  deriving DecidableEq, Repr

def SystemCall.request (call : SystemCall) : Request :=
  ⟨call.nameCode, call.kind, call.params, call.signature⟩

def HostRoutine.requestAs (routine : HostRoutine) (nameCode : UInt32) : Request :=
  ⟨nameCode, routine.kind, routine.params, Utf8.encode routine.signature⟩

/-- What a routine is offered for, if the module knows its name. -/
def HostRoutine.request? (routine : HostRoutine) (ids : IdTable) : Option Request :=
  (ids.codeFor? routine.name).map routine.requestAs

namespace SystemCall

theorem agrees_iff {call : SystemCall} {routine : HostRoutine} {nameCode : UInt32} :
    call.agrees routine nameCode ↔ routine.requestAs nameCode = call.request := by
  simp only [agrees, request, HostRoutine.requestAs, Bool.and_eq_true, beq_iff_eq,
    Request.mk.injEq]
  constructor
  · intro agrees
    rcases agrees with ⟨⟨⟨kind, params⟩, name⟩, signature⟩
    exact ⟨name.symm, kind.symm, params.symm, signature.symm⟩
  · intro same
    rcases same with ⟨name, kind, params, signature⟩
    exact ⟨⟨⟨kind.symm, params.symm⟩, name.symm⟩, signature.symm⟩

/-- A call to which a routine may have been offered.  If it is bound already it stays so. -/
def offered (call : SystemCall) (dispatch : Option DispatchCode) : SystemCall :=
  { call with binding := call.binding.or dispatch }

theorem offered_none (call : SystemCall) : call.offered none = call := by
  rw [offered, Option.or_none]

theorem offered_offered (call : SystemCall) (first second : Option DispatchCode) :
    (call.offered first).offered second = call.offered (first.or second) := by
  simp only [offered, Option.or_assoc]

def unbound (call : SystemCall) : SystemCall :=
  { call with binding := none }

theorem requests_unbound (calls : List SystemCall) :
    (calls.map unbound).map request = calls.map request := by
  rw [List.map_map]
  rfl

theorem unbound_offer (routine : HostRoutine) (nameCode : UInt32) (calls : List SystemCall) :
    (offer routine nameCode calls).map unbound = calls.map unbound := by
  induction calls with
  | nil => rfl
  | cons call rest ih =>
    rw [offer]
    split
    · rfl
    · rw [List.map_cons, ih, List.map_cons]

theorem requests_offer (routine : HostRoutine) (nameCode : UInt32) (calls : List SystemCall) :
    (offer routine nameCode calls).map request = calls.map request := by
  rw [← requests_unbound, unbound_offer, requests_unbound]

/-- A routine is offered to the first call that asks for it, and to no other one. -/
theorem getElem?_offer (routine : HostRoutine) (nameCode : UInt32) (calls : List SystemCall)
    (position : Nat) :
    (offer routine nameCode calls)[position]? = calls[position]?.map fun call =>
      call.offered (if routine.requestAs nameCode = call.request ∧
        call.request ∉ (calls.map request).take position then some routine.dispatch else none) := by
  induction calls generalizing position with
  | nil => rfl
  | cons first rest ih =>
    rw [offer]
    by_cases served : routine.requestAs nameCode = first.request
    · rw [if_pos (agrees_iff.mpr served)]
      cases position with
      | zero =>
        have firstOne : first.request ∉ ((first :: rest).map request).take 0 := List.not_mem_nil
        rw [List.getElem?_cons_zero, List.getElem?_cons_zero, Option.map_some,
          if_pos ⟨served, firstOne⟩]
        rfl
      | succ position =>
        -- Whoever asks for the same behind the first call comes too late.
        have late : ∀ call : SystemCall, ¬ (routine.requestAs nameCode = call.request ∧
            call.request ∉ ((first :: rest).map request).take (position + 1)) := by
          intro call both
          apply both.2
          rw [← both.1, served]
          exact List.mem_cons_self
        simp only [List.getElem?_cons_succ, late, if_false, offered_none, Option.map_id_fun', id]
    · rw [if_neg fun agrees => served (agrees_iff.mp agrees)]
      cases position with
      | zero =>
        rw [List.getElem?_cons_zero, List.getElem?_cons_zero, Option.map_some,
          if_neg fun both => served both.1, offered_none]
      | succ position =>
        rw [List.getElem?_cons_succ, List.getElem?_cons_succ, ih]
        apply Option.map_congr
        intro call _
        have among : routine.requestAs nameCode = call.request →
            (call.request ∈ ((first :: rest).map request).take (position + 1) ↔
              call.request ∈ (rest.map request).take position) := by
          intro same
          rw [List.map_cons, List.take_succ_cons, List.mem_cons]
          exact or_iff_right fun equal => served (same.trans equal)
        congr 1
        by_cases same : routine.requestAs nameCode = call.request
        · simp only [same, true_and, among same]
        · rw [if_neg fun both => same both.1, if_neg fun both => same both.1]

/-- One round of a relocation. -/
theorem relocate_cons (routine : HostRoutine) (host : HostTable) (ids : IdTable)
    (calls : List SystemCall) :
    ∃ offeredTo : List SystemCall,
      relocate (routine :: host) ids calls = relocate host ids offeredTo ∧
      offeredTo.map request = calls.map request ∧
      ∀ position : Nat, offeredTo[position]? = calls[position]?.map fun call =>
        call.offered (if routine.request? ids = some call.request ∧
          call.request ∉ (calls.map request).take position
          then some routine.dispatch else none) := by
  cases known : ids.codeFor? routine.name with
  | none =>
    refine ⟨calls, ?_, rfl, ?_⟩
    · rw [relocate, List.foldl_cons, known, relocate]
    · intro position
      simp only [HostRoutine.request?, known, Option.map_none, reduceCtorEq, false_and, if_false,
        offered_none, Option.map_id_fun', id]
  | some nameCode =>
    refine ⟨offer routine nameCode calls, ?_, requests_offer routine nameCode calls, ?_⟩
    · rw [relocate, List.foldl_cons, known, relocate]
    · intro position
      simp only [getElem?_offer, HostRoutine.request?, known, Option.map_some, Option.some.injEq]

/-- The routine that a request is bound to when these requests came earlier: the first one that
serves it, unless the same was asked for before. -/
def boundTo? (host : HostTable) (ids : IdTable) (earlier : List Request) (request : Request) :
    Option DispatchCode :=
  if request ∈ earlier then none
  else (host.find? fun routine => routine.request? ids = some request).map HostRoutine.dispatch

theorem boundTo?_cons (routine : HostRoutine) (host : HostTable) (ids : IdTable)
    (earlier : List Request) (request : Request) :
    boundTo? (routine :: host) ids earlier request =
      (if routine.request? ids = some request ∧ request ∉ earlier then some routine.dispatch
        else none).or (boundTo? host ids earlier request) := by
  rw [boundTo?, boundTo?]
  by_cases early : request ∈ earlier
  · rw [if_pos early, if_pos early, if_neg fun both => both.2 early, Option.or_none]
  · rw [if_neg early, if_neg early, List.find?_cons]
    by_cases served : routine.request? ids = some request
    · rw [if_pos ⟨served, early⟩, decide_eq_true served, Option.some_or, Option.map_some]
    · rw [if_neg fun both => served both.1, decide_eq_false served, Option.none_or]

/-- The induction is on the host's routines; the calls change from round to round, and what they
ask for does not. -/
theorem getElem?_relocate (host : HostTable) (ids : IdTable) (calls : List SystemCall)
    (position : Nat) :
    (relocate host ids calls)[position]? = calls[position]?.map fun call =>
      call.offered (boundTo? host ids ((calls.map request).take position) call.request) := by
  induction host generalizing calls with
  | nil =>
    simp only [relocate, List.foldl_nil, boundTo?, List.find?_nil, Option.map_none, ite_self,
      offered_none, Option.map_id_fun', id]
  | cons routine host ih =>
    rcases relocate_cons routine host ids calls with ⟨offeredTo, goesOn, asked, round⟩
    rw [goesOn, ih, asked, round, Option.map_map]
    apply Option.map_congr
    intro call _
    rw [boundTo?_cons]
    exact offered_offered call _ _

/-- A relocation binds calls and does nothing else. -/
theorem unbound_relocate (host : HostTable) (ids : IdTable) (calls : List SystemCall) :
    (relocate host ids calls).map unbound = calls.map unbound := by
  apply List.ext_getElem?
  intro position
  rw [List.getElem?_map, getElem?_relocate, Option.map_map, List.getElem?_map]
  rfl

theorem requests_relocate (host : HostTable) (ids : IdTable) (calls : List SystemCall) :
    (relocate host ids calls).map request = calls.map request := by
  rw [← requests_unbound, unbound_relocate, requests_unbound]

theorem callCodes_relocate (host : HostTable) (ids : IdTable) (calls : List SystemCall) :
    (relocate host ids calls).map callCode = calls.map callCode := by
  have codes : ∀ calls : List SystemCall,
      (calls.map unbound).map callCode = calls.map callCode := by
    intro calls
    rw [List.map_map]
    rfl
  rw [← codes, unbound_relocate, codes]

theorem length_relocate (host : HostTable) (ids : IdTable) (calls : List SystemCall) :
    (relocate host ids calls).length = calls.length := by
  have lengths := congrArg List.length (unbound_relocate host ids calls)
  rwa [List.length_map, List.length_map] at lengths

/-- Where nothing was bound before, a relocation has bound each call as its request asks. -/
theorem binding_relocate {host : HostTable} {ids : IdTable} {calls passed rest : List SystemCall}
    {call : SystemCall} (unbound : ∀ call ∈ calls, call.binding = none)
    (split : relocate host ids calls = passed ++ call :: rest) :
    call.binding = boundTo? host ids (passed.map request) call.request := by
  have here : (relocate host ids calls)[passed.length]? = some call := by
    rw [split, List.getElem?_append_right (Nat.le_refl _), Nat.sub_self, List.getElem?_cons_zero]
  have earlier : (calls.map request).take passed.length = passed.map request := by
    rw [← requests_relocate host ids, split, List.map_append, List.take_left' (List.length_map _)]
  rw [getElem?_relocate, earlier] at here
  rcases Option.map_eq_some_iff.mp here with ⟨before, among, same⟩
  rw [← same, offered, unbound before (List.mem_of_getElem? among), Option.none_or]
  rfl

theorem boundTo?_eq_some {host : HostTable} {ids : IdTable} {earlier : List Request}
    {request : Request} {dispatch : DispatchCode} :
    boundTo? host ids earlier request = some dispatch ↔
      request ∉ earlier ∧ ∃ refused routine,
        First host (fun routine => routine.request? ids = some request) refused routine ∧
          routine.dispatch = dispatch := by
  rw [boundTo?]
  by_cases early : request ∈ earlier
  · rw [if_pos early]
    constructor
    · intro impossible
      cases impossible
    · intro both
      exact absurd early both.1
  · rw [if_neg early, Option.map_eq_some_iff]
    simp only [← exists_first_iff]
    constructor
    · intro found
      rcases found with ⟨routine, ⟨refused, scan⟩, same⟩
      exact ⟨early, refused, routine, scan, same⟩
    · intro both
      rcases both with ⟨_, refused, routine, scan, same⟩
      exact ⟨routine, ⟨refused, scan⟩, same⟩

end SystemCall

/-! ## Scans of a module -/

/-- The host's routine is of the kind that the call asks for, and the first of the module's names
that is the routine's carries the code that the call asks for. -/
structure HostRoutine.Serves (ids : List IdEntry) (routine : HostRoutine) (call : SystemCall) :
    Prop where
  kind : routine.kind = call.kind
  params : routine.params = call.params
  signature : Utf8.encode routine.signature = call.signature
  name : ∃ passed entry, First ids (fun entry => entry.name = routine.name) passed entry ∧
    entry.code = call.nameCode

theorem HostRoutine.serves_iff {ids : List IdEntry} {routine : HostRoutine} {call : SystemCall} :
    routine.Serves ids call ↔ routine.request? (.ofList ids) = some call.request := by
  have named : (∃ passed entry, First ids (fun entry => entry.name = routine.name) passed entry ∧
      entry.code = call.nameCode) ↔
        (IdTable.ofList ids).codeFor? routine.name = some call.nameCode := by
    rw [IdTable.codeFor?_ofList, Option.map_eq_some_iff]
    rw [exists_comm]
    simp only [exists_and_right, exists_first_iff]
    rfl
  rw [request?, Option.map_eq_some_iff]
  constructor
  · intro serves
    refine ⟨call.nameCode, named.mp serves.name, ?_⟩
    rw [requestAs, serves.kind, serves.params, serves.signature, SystemCall.request]
  · intro found
    rcases found with ⟨nameCode, known, same⟩
    rcases Request.mk.inj same with ⟨name, kind, params, signature⟩
    rw [name] at known
    exact ⟨kind, params, signature, named.mpr known⟩

/-- A name of a code: that of the first entry with the code, or the one that stands for none. -/
def IdTable.Names (ids : List IdEntry) (code : UInt32) (name : String) : Prop :=
  (∃ passed entry, First ids (fun entry => entry.code = code) passed entry ∧ entry.name = name) ∨
    ((∀ entry ∈ ids, entry.code ≠ code) ∧ name = unknownName)

theorem IdTable.names_nameFor (ids : List IdEntry) (code : UInt32) :
    Names ids code ((ofList ids).nameFor code) := by
  rw [nameFor_ofList]
  cases found : ids.find? (·.code == code) with
  | none => exact Or.inr ⟨no_first_iff.mpr found, rfl⟩
  | some entry =>
    rcases exists_first_iff.mpr found with ⟨passed, scan⟩
    exact Or.inl ⟨passed, entry, scan, rfl⟩

namespace LoadedModule

/-- What scans of the module and the host find for a call code: the first call with the code, if no
call before it asks for the same, and the first routine that serves this call. -/
def ScanFinds (loaded : LoadedModule) (host : HostTable) (callCode : UInt32)
    (dispatch : DispatchCode) : Prop :=
  ∃ passed call, First loaded.systemCalls (fun call => call.callCode = callCode) passed call ∧
    (∀ earlier ∈ passed, earlier.request ≠ call.request) ∧
      ∃ refused routine,
        First host (fun routine => routine.Serves loaded.ids.entries.toList call) refused routine ∧
          routine.dispatch = dispatch

/-- What scans of the module find as the name of a call code. -/
def ScanNames (loaded : LoadedModule) (callCode : UInt32) (name : String) : Prop :=
  (∃ passed call, First loaded.systemCalls (fun call => call.callCode = callCode) passed call ∧
      IdTable.Names loaded.ids.entries.toList call.nameCode name) ∨
    ((∀ call ∈ loaded.systemCalls, call.callCode ≠ callCode) ∧ name = IdTable.unknownName)

/-- The tables in which calls are looked up, as a load has left them. -/
structure Relocated (host : HostTable) (loaded : LoadedModule) : Prop where
  ids : ∃ entries, loaded.ids = .ofList entries
  calls : ∃ calls : List SystemCall, (∀ call ∈ calls, call.binding = none) ∧
    loaded.systemCalls = SystemCall.relocate host loaded.ids calls
  index : loaded.callIndex = .ofKeys (loaded.systemCalls.map SystemCall.callCode)

theorem read_gives [Memory] (options : LoadOptions) (host : HostTable) (provider : SourceProvider) :
    Load.Gives (read options host provider) (Relocated host) := by
  -- The header and four sections come before the names.
  iterate 10 apply Load.Gives.skip; intro _
  apply (IdTable.read_gives _).bind
  intro ids known
  rcases known with ⟨entries, _, known⟩
  -- Data, variables, spaces, listings and procedures come between the names and the calls.
  iterate 16 apply Load.Gives.skip; intro _
  apply (SystemCall.readTable_gives _).bind
  intro calls fresh
  apply Load.Gives.skip
  intro _
  exact Load.Gives.pure
    ⟨⟨entries, known⟩, ⟨calls, fun call member => (fresh.each call member).unbound, rfl⟩, rfl⟩

theorem load_relocated [Memory] {options : LoadOptions} {host : HostTable}
    {provider : SourceProvider} {stream : Stream} {base : Nat} {loaded : LoadedModule}
    (loads : load options host provider stream base = .ok loaded) : Relocated host loaded := by
  rcases bind_eq_ok.mp loads with ⟨reader, _, read⟩
  cases ended : LoadedModule.read options host provider reader with
  | ok found after =>
    rw [ended] at read
    cases read
    exact (read_gives options host provider).holds ended
  | error error after =>
    rw [ended] at read
    cases read

namespace Relocated

variable {host : HostTable} {loaded : LoadedModule} (relocated : Relocated host loaded)

include relocated

theorem systemCall?_eq (callCode : UInt32) :
    loaded.systemCall? callCode =
      loaded.systemCalls.find? fun call => decide (call.callCode = callCode) := by
  rw [systemCall?, relocated.index, FirstIndex.bind_ofKeys]
  rfl

theorem binding_iff {passed rest : List SystemCall} {call : SystemCall} {dispatch : DispatchCode}
    (split : loaded.systemCalls = passed ++ call :: rest) :
    call.binding = some dispatch ↔
      (∀ earlier ∈ passed, earlier.request ≠ call.request) ∧ ∃ refused routine,
        First host (fun routine => routine.Serves loaded.ids.entries.toList call) refused routine ∧
          routine.dispatch = dispatch := by
  rcases relocated.ids with ⟨entries, ids⟩
  rcases relocated.calls with ⟨calls, unbound, after⟩
  rw [after] at split
  rw [SystemCall.binding_relocate unbound split, SystemCall.boundTo?_eq_some, ids,
    IdTable.toList_ofList]
  simp only [HostRoutine.serves_iff, List.mem_map, not_exists, not_and]

theorem resolve_eq_ok_iff {callCode : UInt32} {dispatch : DispatchCode} :
    loaded.resolve callCode = .ok dispatch ↔ loaded.ScanFinds host callCode dispatch := by
  rw [resolve, relocated.systemCall?_eq]
  constructor
  · intro resolved
    cases found : loaded.systemCalls.find? fun call => decide (call.callCode = callCode) with
    | none =>
      rw [found] at resolved
      cases resolved
    | some call =>
      rcases exists_first_iff.mpr found with ⟨passed, scan⟩
      rcases scan.split with ⟨rest, split⟩
      cases bound : call.binding with
      | none =>
        simp only [found, bound] at resolved
        cases resolved
      | some routine =>
        simp only [found, bound] at resolved
        cases resolved
        exact ⟨passed, call, scan, (relocated.binding_iff split).mp bound⟩
  · intro finds
    rcases finds with ⟨passed, call, scan, serves⟩
    rcases scan.split with ⟨rest, split⟩
    rw [exists_first_iff.mp ⟨passed, scan⟩]
    simp only [(relocated.binding_iff split).mpr serves]

theorem scanNames_of_resolve {callCode : UInt32} {call : UnresolvedCall}
    (unresolved : loaded.resolve callCode = .error call) :
    call.callCode = callCode ∧ loaded.ScanNames callCode call.name := by
  rw [resolve, relocated.systemCall?_eq] at unresolved
  cases found : loaded.systemCalls.find? fun call => decide (call.callCode = callCode) with
  | none =>
    rw [found] at unresolved
    cases unresolved
    exact ⟨rfl, Or.inr ⟨no_first_iff.mpr found, rfl⟩⟩
  | some call =>
    rcases exists_first_iff.mpr found with ⟨passed, scan⟩
    rcases relocated.ids with ⟨entries, ids⟩
    cases bound : call.binding with
    | none =>
      simp only [found, bound] at unresolved
      cases unresolved
      refine ⟨rfl, Or.inl ⟨passed, call, scan, ?_⟩⟩
      rw [ids, IdTable.toList_ofList]
      exact IdTable.names_nameFor entries call.nameCode
    | some routine =>
      simp only [found, bound] at unresolved
      cases unresolved

end Relocated

/-- Resolving a call is scanning the tables.  Either the scans find a routine, and the call is made
to this one; or they find none, and the error has the code and the name that the scans give it. -/
theorem resolve_iff_scan [Memory] {options : LoadOptions} {host : HostTable}
    {provider : SourceProvider} {stream : Stream} {base : Nat} {loaded : LoadedModule}
    (loads : load options host provider stream base = .ok loaded) (callCode : UInt32) :
    (∀ dispatch, loaded.resolve callCode = .ok dispatch ↔
      loaded.ScanFinds host callCode dispatch) ∧
    ((∀ dispatch, ¬ loaded.ScanFinds host callCode dispatch) →
      ∃ name, loaded.resolve callCode = .error ⟨callCode, name⟩ ∧
        loaded.ScanNames callCode name) := by
  have relocated := load_relocated loads
  constructor
  · intro dispatch
    exact relocated.resolve_eq_ok_iff
  · intro nothing
    cases resolved : loaded.resolve callCode with
    | ok dispatch => exact absurd (relocated.resolve_eq_ok_iff.mp resolved) (nothing dispatch)
    | error call =>
      rcases relocated.scanNames_of_resolve resolved with ⟨code, named⟩
      rw [← code] at named ⊢
      exact ⟨call.name, rfl, named⟩

/-- A module whose names share a code, and whose calls share what they ask for and a code. -/
def callingImage : Image where
  version := Header.currentVersion
  ids := [⟨1, "SAY"⟩, ⟨1, "TELL"⟩]
  strings := []
  files := []
  imports := []
  globalData := []
  globalVars := []
  localData := []
  localVars := []
  localStrings := []
  spaces := []
  sourceFiles := []
  systemCalls := [
    ⟨1, 0, 1, 40, [0x49], none⟩,
    ⟨1, 0, 1, 41, [0x49], none⟩,
    ⟨2, 0, 0, 40, [], none⟩]
  procedures := []

/-- A routine that is offered twice goes to the first call both times, and the call keeps the first
offer.  The second call asks for the same and goes without. -/
theorem resolve_calling_scan :
    let host : HostTable := [⟨"SAY", 0, 1, "I", 7⟩, ⟨"SAY", 0, 1, "I", 8⟩]
    ∃ loaded, load .standard host (fun _ => none) (.ofBytes callingImage.encode) 0 = .ok loaded ∧
      loaded.ScanFinds host 40 7 ∧ (∀ dispatch, ¬ loaded.ScanFinds host 41 dispatch) ∧
      loaded.ScanNames 41 "SAY" := by
  intro host
  have resolved :
      (load .standard host (fun _ => none) (.ofBytes callingImage.encode) 0).toOption.bind
        (fun loaded => match loaded.resolve 40, loaded.resolve 41 with
          | .ok taken, .error left => some (taken, left)
          | _, _ => none) = some (7, ⟨41, "SAY"⟩) := by decide +kernel
  cases loads : load .standard host (fun _ => none) (.ofBytes callingImage.encode) 0 with
  | error error =>
    rw [loads] at resolved
    cases resolved
  | ok loaded =>
    rw [loads] at resolved
    cases taken : loaded.resolve 40 with
    | error call =>
      simp only [Except.toOption, Option.bind_some, taken] at resolved
      cases resolved
    | ok dispatch =>
    cases left : loaded.resolve 41 with
    | ok other =>
      simp only [Except.toOption, Option.bind_some, taken, left] at resolved
      cases resolved
    | error call =>
    simp only [Except.toOption, Option.bind_some, taken, left] at resolved
    cases resolved
    have nothing : ∀ dispatch, ¬ loaded.ScanFinds host 41 dispatch := by
      intro dispatch finds
      rw [((resolve_iff_scan loads 41).1 dispatch).mpr finds] at left
      cases left
    rcases (resolve_iff_scan loads 41).2 nothing with ⟨name, error, named⟩
    rw [left] at error
    cases error
    exact ⟨loaded, rfl, ((resolve_iff_scan loads 40).1 7).mp taken, nothing, named⟩

end LoadedModule

end CompiledModule
