import CompiledModule.Proofs.Failing.Journal
import CompiledModule.Proofs.Failing.Placement

namespace CompiledModule

/-!
# Streams that refuse

A stream may refuse to move or to be read.  What it refuses is compared here with what a load asks
of the same stream without its faults: the journal of that load lists its requests in order, with
the phases that it enters between them.  If the faulty stream refuses none of them, a load from it
ends in the same way, and leaves the same behind.  Otherwise the first request that is refused ends
it, with an error that names the phase in which the request was made.  So no fault is passed over,
and nothing is made of what was read before it.

The comparison is made for single requests.  The rest of a load goes over from one stream to the
other because steps are quiet between their requests.
-/

namespace Stream

/-- The answer to a request that is refused. -/
def refusal? (stream : Stream) : StreamRequest → Option Fault
  | .toEnd => if stream.faults.atEnd then some .seekRefused else none
  | .moveTo place => if stream.faults.seekTo.refuses place then some .seekRefused else none
  | .read start count =>
    (breakOff? { stream with cursor := start } count).map fun _ => .readRefused

/-- The first request of a journal that is refused: the phase in which it is made and the
answer. -/
def firstRefusal? (stream : Stream) : Phase → Journal → Option (Phase × Fault)
  | _, [] => none
  | _, .enters phase :: rest => firstRefusal? stream phase rest
  | phase, .asks request :: rest =>
    match stream.refusal? request with
    | some fault => some (phase, fault)
    | none => firstRefusal? stream phase rest

theorem firstRefusal?_append (stream : Stream) (phase : Phase) (journal rest : Journal) :
    stream.firstRefusal? phase (journal ++ rest) =
      (stream.firstRefusal? phase journal).or
        (stream.firstRefusal? (journal.lastPhase phase) rest) := by
  induction journal generalizing phase with
  | nil => rfl
  | cons entry others ih =>
    cases entry with
    | enters next => exact ih next
    | asks request =>
      rw [List.cons_append, firstRefusal?, firstRefusal?]
      cases stream.refusal? request with
      | some fault => rfl
      | none => exact ih phase

def refusalIn? (stream : Stream) (part : JournalPart) : Option (Phase × Fault) :=
  part.requests.findSome? fun request =>
    (stream.refusal? request).map fun fault => (part.phase, fault)

theorem firstRefusal?_requests (stream : Stream) (phase : Phase) (requests : List StreamRequest) :
    stream.firstRefusal? phase (requests.map .asks) = stream.refusalIn? ⟨phase, requests⟩ := by
  unfold refusalIn?
  induction requests with
  | nil => rfl
  | cons request rest ih =>
    rw [List.map_cons, firstRefusal?, ih, List.findSome?_cons]
    cases stream.refusal? request <;> rfl

/-- In a journal that comes in parts the marks say what the parts say. -/
theorem firstRefusal?_ofParts (stream : Stream) (phase : Phase) (parts : List JournalPart) :
    stream.firstRefusal? phase (Journal.ofParts parts) = parts.findSome? stream.refusalIn? := by
  induction parts generalizing phase with
  | nil => rfl
  | cons part rest ih =>
    have split : Journal.ofParts (part :: rest) =
        .enters part.phase :: (part.requests.map .asks ++ Journal.ofParts rest) := rfl
    rw [split, firstRefusal?, firstRefusal?_append, firstRefusal?_requests, ih,
      List.findSome?_cons]
    cases stream.refusalIn? part <;> rfl

/-- Where a stream stands plays no part in what it refuses. -/
theorem firstRefusal?_congr {stream other : Stream} (contents : stream.contents = other.contents)
    (faults : stream.faults = other.faults) (phase : Phase) (journal : Journal) :
    stream.firstRefusal? phase journal = other.firstRefusal? phase journal := by
  have same : ∀ request, stream.refusal? request = other.refusal? request := by
    intro request
    rcases stream with ⟨bytes, length, faulty, cursor⟩
    rcases other with ⟨_, _, _, _⟩
    cases contents
    cases faults
    cases request <;> rfl
  induction journal generalizing phase with
  | nil => rfl
  | cons entry others ih =>
    cases entry with
    | enters next => exact ih next
    | asks request =>
      rw [firstRefusal?, firstRefusal?, same]
      cases other.refusal? request with
      | some fault => rfl
      | none => exact ih phase

def sound (stream : Stream) : Stream :=
  { stream with faults := .none }

def withFaults (faults : Faults) (stream : Stream) : Stream :=
  { stream with faults }

theorem refusal?_of_sound {stream : Stream} (sound : stream.faults = .none)
    (request : StreamRequest) : stream.refusal? request = none := by
  cases request with
  | toEnd => rw [refusal?, sound]; rfl
  | moveTo place => rw [refusal?, sound]; rfl
  | read start count =>
    have sound : ({ stream with cursor := start } : Stream).faults = .none := sound
    exact Option.map_eq_none_iff.mpr (breakOff?_sound sound count)

theorem firstRefusal?_asks (stream : Stream) (phase : Phase) (request : StreamRequest) :
    stream.firstRefusal? phase [.asks request] =
      (stream.refusal? request).map fun fault => (phase, fault) := by
  rw [firstRefusal?]
  cases stream.refusal? request <;> rfl

theorem seek_eq (stream : Stream) (place : Nat) :
    stream.seek place =
      match stream.refusal? (.moveTo place) with
      | some fault => .error fault
      | none => .ok { stream with cursor := place } := by
  rw [seek, refusal?]
  split <;> rfl

theorem read_of_refusal {stream : Stream} {count : Nat} {fault : Fault}
    (refused : stream.refusal? (.read stream.cursor count) = some fault) :
    outcomeOf (read count stream) = .error fault := by
  rcases Option.map_eq_some_iff.mp refused with ⟨stop, breaks, same⟩
  cases same
  rw [read, show stream.breakOff? count = some stop from breaks]
  rfl

/-- A read that is granted does not depend on faults: it fails only where there are no more
bytes. -/
theorem read_withFaults {stream : Stream} (sound : stream.faults = .none) {faults : Faults}
    {count : Nat}
    (granted : (stream.withFaults faults).refusal? (.read stream.cursor count) = none) :
    read count (stream.withFaults faults) = leaving (withFaults faults) (read count stream) := by
  have granted : (stream.withFaults faults).breakOff? count = none :=
    Option.map_eq_none_iff.mp granted
  rw [read_of_granted (breakOff?_sound sound count), read_of_granted granted]
  change (if exact : (stream.next count).length = count then _ else _ :
    EStateM.Result Fault Stream (Bytes count)) = _
  split <;> rfl

end Stream

def Reader.withFaults (faults : Faults) (reader : Reader) : Reader :=
  { reader with stream := reader.stream.withFaults faults }

namespace Load

/-! ## One stream for another -/

/-- What a run over the stream with faults comes to when the run over the sound stream is known: the
same, unless there is a first refusal. -/
def EndsRefused (faults : Faults) (sound faulty : EStateM.Result LoadError Reader α) :
    Option (Phase × Fault) → Prop
  | none => faulty = leaving (Reader.withFaults faults) sound
  | some (phase, fault) => outcomeOf faulty = .error (.io phase fault)

/-- A run that keeps a journal leaves the stream as it was, up to the place where it stands, and is
in the last phase of its journal. -/
structure LeavesBehind (reader : Reader) (journal : Journal) (after : Reader) : Prop where
  contents : after.stream.contents = reader.stream.contents
  faults : after.stream.faults = reader.stream.faults
  phase : after.phase = journal.lastPhase reader.phase

theorem Quiet.stream {action : Load α} (quiet : Quiet action) (reader : Reader) :
    (leftBy (action reader)).stream = reader.stream := by
  have own : action reader =
      leaving (fun after => { after with stream := reader.stream }) (action reader) :=
    quiet.blind reader reader.stream
  rw [own]
  cases action reader <;> rfl

theorem LeavesBehind.trans {reader middle after : Reader} {journal rest : Journal}
    (first : LeavesBehind reader journal middle) (goesOn : LeavesBehind middle rest after) :
    LeavesBehind reader (journal ++ rest) after where
  contents := goesOn.contents.trans first.contents
  faults := goesOn.faults.trans first.faults
  phase := by rw [goesOn.phase, first.phase, Journal.lastPhase_append]

theorem seek_leavesBehind (offset : UInt32) (reader : Reader) :
    LeavesBehind reader (reader.movingJournal offset.toNat)
      (leftBy (seek (.start offset) reader)) := by
  have stays : (reader.movingJournal offset.toNat).lastPhase reader.phase = reader.phase := by
    unfold Reader.movingJournal
    split <;> rfl
  rw [seek_start_eq, moveTo, Stream.seek]
  split
  · split
    · exact ⟨rfl, rfl, stays.symm⟩
    · split <;> rename_i moved
      · split at moved <;> cases moved
        exact ⟨rfl, rfl, stays.symm⟩
      · exact ⟨rfl, rfl, stays.symm⟩
  · exact ⟨rfl, rfl, stays.symm⟩

theorem take_leavesBehind (count : Nat) (reader : Reader) :
    LeavesBehind reader [.asks (.read reader.stream.cursor count)]
      (leftBy (take count reader)) := by
  have read : (leftBy (Stream.read count reader.stream)).contents = reader.stream.contents ∧
      (leftBy (Stream.read count reader.stream)).faults = reader.stream.faults := by
    unfold Stream.read
    split
    · exact ⟨rfl, rfl⟩
    · dsimp only
      split <;> exact ⟨rfl, rfl⟩
  unfold take
  cases ran : Stream.read count reader.stream <;> rw [ran] at read
  · exact ⟨read.1, read.2, rfl⟩
  · exact ⟨read.1, read.2, rfl⟩

theorem Notes.leavesBehind {action : Load α} {reader : Reader} {journal : Journal}
    (notes : Notes action reader journal) :
    LeavesBehind reader journal (leftBy (action reader)) := by
  induction notes with
  | enter phase reader => exact ⟨rfl, rfl, rfl⟩
  | seek offset reader => exact seek_leavesBehind offset reader
  | take count reader => exact take_leavesBehind count reader
  | quiet quiet reader =>
    have same := quiet.stream reader
    exact ⟨congrArg Stream.contents same, congrArg Stream.faults same, quiet.phase reader⟩
  | ofPhase _ ih => exact ih
  | bind_ok _ began _ ih ih' =>
    rw [began] at ih
    rw [run_bind_of_ok began]
    exact ih.trans ih'
  | bind_error _ failed ih =>
    rw [failed] at ih
    rw [run_bind_of_error failed]
    exact ih

/-! ## Single requests over another stream -/

theorem moveTo_of_ne {reader : Reader} {place : Nat} (elsewhere : place ≠ reader.position) :
    moveTo place reader =
      match reader.stream.refusal? (.moveTo (reader.base + place)) with
      | some fault => .error (.io reader.phase fault) reader
      | none =>
        .ok place { reader with
          stream := { reader.stream with cursor := reader.base + place }
          position := place } := by
  rw [moveTo, if_neg elsewhere, Stream.seek_eq]
  cases reader.stream.refusal? (.moveTo (reader.base + place)) <;> rfl

theorem seek_endsRefused {reader : Reader} (sound : reader.stream.faults = .none) (faults : Faults)
    (offset : UInt32) :
    EndsRefused faults (seek (.start offset) reader)
      (seek (.start offset) (reader.withFaults faults))
      ((reader.withFaults faults).stream.firstRefusal? reader.phase
        (reader.movingJournal offset.toNat)) := by
  rw [seek_start_eq, seek_start_eq, Reader.movingJournal]
  change EndsRefused faults _ (if offset.toNat ≤ reader.length then _ else _) _
  by_cases inside : offset.toNat ≤ reader.length
  · rw [if_pos inside, if_pos inside]
    by_cases there : offset.toNat = reader.position
    · have both : moveTo offset.toNat reader = .ok offset.toNat reader ∧
          moveTo offset.toNat (reader.withFaults faults) =
            .ok offset.toNat (reader.withFaults faults) := ⟨if_pos there, if_pos there⟩
      rw [both.1, both.2, if_neg fun moves => moves.2 there]
      rfl
    · have elsewhere : offset.toNat ≠ (reader.withFaults faults).position := there
      rw [if_pos ⟨inside, there⟩, Stream.firstRefusal?_asks, moveTo_of_ne there,
        moveTo_of_ne elsewhere, Stream.refusal?_of_sound sound]
      change EndsRefused faults _ (match (reader.withFaults faults).stream.refusal?
        (.moveTo (reader.base + offset.toNat)) with | some fault => _ | none => _) _
      cases (reader.withFaults faults).stream.refusal? (.moveTo (reader.base + offset.toNat)) <;>
        rfl
  · rw [if_neg inside, if_neg inside, if_neg fun both => inside both.1]
    rfl

theorem take_endsRefused {reader : Reader} (sound : reader.stream.faults = .none) (faults : Faults)
    (count : Nat) :
    EndsRefused faults (take count reader) (take count (reader.withFaults faults))
      ((reader.withFaults faults).stream.firstRefusal? reader.phase
        [.asks (.read reader.stream.cursor count)]) := by
  rw [Stream.firstRefusal?_asks, take, take]
  cases refused : (reader.withFaults faults).stream.refusal? (.read reader.stream.cursor count) with
  | some fault =>
    have ended := Stream.read_of_refusal refused
    cases ran : Stream.read count (reader.withFaults faults).stream with
    | ok bytes stream =>
      rw [ran] at ended
      cases ended
    | error other stream =>
      rw [ran] at ended
      cases ended
      rfl
  | none =>
    have same : Stream.read count (reader.withFaults faults).stream = _ :=
      Stream.read_withFaults sound refused
    rw [same]
    cases Stream.read count reader.stream <;> rfl

theorem outcomeOf_bind_of_error {action : Load α} {next : α → Load β} {reader : Reader}
    {error : LoadError} (failed : outcomeOf (action reader) = .error error) :
    outcomeOf ((action >>= next) reader) = .error error := by
  cases ran : action reader with
  | ok value middle =>
    rw [ran] at failed
    cases failed
  | error other after =>
    rw [ran] at failed
    cases failed
    rw [run_bind_of_error ran]
    rfl

/-- The run over the stream with faults ends at the first refusal of its journal, and without one it
does what the run over the sound stream does. -/
theorem Notes.endsRefused {action : Load α} {reader : Reader} {journal : Journal}
    (notes : Notes action reader journal) (sound : reader.stream.faults = .none)
    (faults : Faults) :
    EndsRefused faults (action reader) (action (reader.withFaults faults))
      ((reader.withFaults faults).stream.firstRefusal? reader.phase journal) := by
  induction notes with
  | enter phase reader => rfl
  | seek offset reader => exact seek_endsRefused sound faults offset
  | take count reader => exact take_endsRefused sound faults count
  | @quiet α action quiet reader =>
    have moved := quiet.blind reader (reader.withFaults faults).stream
    have same := quiet.stream reader
    change action (reader.withFaults faults) = leaving _ (action reader)
    change action (reader.withFaults faults) = _ at moved
    rw [moved]
    cases ran : action reader with
    | ok value after =>
      rw [ran] at same
      have there : after.stream = reader.stream := same
      simp only [leaving, Reader.withFaults, there]
    | error error after =>
      rw [ran] at same
      have there : after.stream = reader.stream := same
      simp only [leaving, Reader.withFaults, there]
  | ofPhase _ ih => exact ih sound
  | @bind_ok α β action next reader middle value journal rest first began goesOn ih ih' =>
    have begins := ih sound
    have left := first.leavesBehind
    rw [began] at begins left
    rw [run_bind_of_ok began, Stream.firstRefusal?_append]
    cases refused : (reader.withFaults faults).stream.firstRefusal? reader.phase journal with
    | some refusal =>
      rw [refused] at begins
      exact outcomeOf_bind_of_error begins
    | none =>
      rw [refused] at begins
      have goes := ih' (left.faults.trans sound)
      have phase : middle.phase = journal.lastPhase reader.phase := left.phase
      have same := Stream.firstRefusal?_congr
        (show (middle.withFaults faults).stream.contents =
          (reader.withFaults faults).stream.contents from left.contents)
        rfl middle.phase rest
      rw [same, phase] at goes
      rw [run_bind_of_ok begins]
      exact goes
  | @bind_error α β action next reader after error journal first failed ih =>
    have ends := ih sound
    rw [failed] at ends
    rw [run_bind_of_error failed]
    cases refused : (reader.withFaults faults).stream.firstRefusal? reader.phase journal with
    | some refusal =>
      rw [refused] at ends
      exact outcomeOf_bind_of_error ends
    | none =>
      rw [refused] at ends
      exact run_bind_of_error ends

end Load

/-! ## Loads -/

/-- A reader over a sound stream is opened unless the base lies behind the end. -/
theorem Reader.open?_sound {stream : Stream} (sound : stream.faults = .none) (base : Nat) :
    Reader.open? stream base =
      if base ≤ stream.length then
        .ok ⟨{ stream with cursor := base }, base, stream.length - base, 0, .header⟩
      else .error (.truncated .header base 0 stream.length) := by
  unfold Reader.open? Stream.seekEnd
  rw [sound]
  change (if stream.length < base then _ else _ : Except LoadError Reader) = _
  by_cases inside : base ≤ stream.length
  · rw [if_pos inside, if_neg (Nat.not_lt.mpr inside), Stream.seek_eq,
      Stream.refusal?_of_sound rfl]
    rfl
  · rw [if_neg inside, if_pos (Nat.lt_of_not_le inside)]
    rfl

/-- The first refusal ends the opening of a reader, too. -/
theorem Reader.open?_withFaults {stream : Stream} (sound : stream.faults = .none) (faults : Faults)
    (base : Nat) :
    Reader.open? (stream.withFaults faults) base =
      match (stream.withFaults faults).firstRefusal? .header (openingJournal stream base) with
      | some (phase, fault) => .error (.io phase fault)
      | none => (Reader.open? stream base).map (withFaults faults) := by
  rw [open?_sound sound, openingJournal]
  cases stuck : faults.atEnd with
  | true =>
    have refused : (stream.withFaults faults).refusal? .toEnd = some .seekRefused := if_pos stuck
    have failed : Reader.open? (stream.withFaults faults) base =
        .error (.io .header .seekRefused) := by
      unfold Reader.open? Stream.seekEnd
      rw [if_pos (show (stream.withFaults faults).faults.atEnd = true from stuck)]
      rfl
    have first : (stream.withFaults faults).firstRefusal? .header
        (if base ≤ stream.length then [.asks .toEnd, .asks (.moveTo base)] else [.asks .toEnd]) =
          some (.header, .seekRefused) := by
      split <;> simp only [Stream.firstRefusal?, refused]
    rw [failed, first]
  | false =>
    have granted : (stream.withFaults faults).refusal? .toEnd = none := by
      rw [Stream.refusal?]
      exact if_neg (by simp [Stream.withFaults, stuck])
    have opens : Reader.open? (stream.withFaults faults) base =
        if stream.length < base then .error (.truncated .header base 0 stream.length)
        else ((stream.withFaults faults).seek base).mapError (LoadError.io .header) >>= fun atBase =>
          .ok ⟨atBase, base, stream.length - base, 0, .header⟩ := by
      unfold Reader.open? Stream.seekEnd
      rw [if_neg (by simp [Stream.withFaults, stuck])]
      rfl
    rw [opens]
    by_cases inside : base ≤ stream.length
    · rw [if_pos inside, if_pos inside, if_neg (Nat.not_lt.mpr inside), Stream.firstRefusal?,
        granted, Stream.firstRefusal?_asks, Stream.seek_eq]
      cases (stream.withFaults faults).refusal? (.moveTo base) <;> rfl
    · rw [if_neg inside, if_neg inside, if_pos (Nat.lt_of_not_le inside),
        Stream.firstRefusal?_asks, granted]
      rfl

namespace LoadedModule

theorem load_withFaults [Memory] {options : LoadOptions} {host : HostTable}
    {provider : SourceProvider} {stream : Stream} {base : Nat} {journal : Journal}
    (sound : stream.faults = .none) (notes : Notes options host provider stream base journal)
    (faults : Faults) :
    load options host provider (stream.withFaults faults) base =
      match (stream.withFaults faults).firstRefusal? .header journal with
      | some (phase, fault) => .error (.io phase fault)
      | none => load options host provider stream base := by
  have opens := Reader.open?_withFaults sound faults base
  cases notes with
  | unopened failed =>
    revert opens
    cases (stream.withFaults faults).firstRefusal? .header (Reader.openingJournal stream base) <;>
      intro opens
    · rw [failed] at opens
      rw [load_of_unopened opens, load_of_unopened failed]
    · exact load_of_unopened opens
  | @opened start journal opened notes =>
    rw [Stream.firstRefusal?_append]
    revert opens
    cases (stream.withFaults faults).firstRefusal? .header (Reader.openingJournal stream base) <;>
      intro opens
    · -- The reader is opened over both streams, and the journal of the rest decides.
      rw [opened] at opens
      have starts : start =
          ⟨{ stream with cursor := base }, base, stream.length - base, 0, .header⟩ := by
        rw [Reader.open?_sound sound] at opened
        split at opened <;> cases opened
        rfl
      have stays : (Reader.openingJournal stream base).lastPhase .header = .header := by
        unfold Reader.openingJournal
        split <;> rfl
      have ends := notes.endsRefused (by rw [starts]; exact sound) faults
      have same : (start.withFaults faults).stream.firstRefusal? start.phase journal =
          (stream.withFaults faults).firstRefusal? .header journal := by
        subst starts
        apply Stream.firstRefusal?_congr <;> rfl
      rw [same] at ends
      rw [load_of_opened opens, load_of_opened opened, stays, Option.none_or]
      revert ends
      cases (stream.withFaults faults).firstRefusal? .header journal <;> intro ends
      · have same : read options host provider (start.withFaults faults) = leaving _ _ := ends
        rw [same]
        cases read options host provider start <;> rfl
      · exact ends
    · exact load_of_unopened opens

/-- The phase of a refusal is the one whose sections are read where it happens.  The load ends with
the first request that is refused while the reader is opened, or else with the first one that is
refused in a part of the journal, in the phase that this part belongs to. -/
theorem load_refused_in_part [Memory] (options : LoadOptions) (host : HostTable)
    (provider : SourceProvider) (stream : Stream) {base : Nat} {start : Reader}
    (opened : Reader.open? stream.sound base = .ok start) :
    ∃ (header : Header) (parts : List JournalPart),
      (∀ found after, Header.read options.minimumVersion start = .ok found after →
        found = header) ∧
      Load.Staged header.ReadIn Phase.all start parts ∧
      load options host provider stream base =
        match (stream.firstRefusal? .header (Reader.openingJournal stream base)).or
          (parts.findSome? stream.refusalIn?) with
        | some (phase, fault) => .error (.io phase fault)
        | none => load options host provider stream.sound base := by
  rcases read_inParts options host provider start with ⟨header, known, parts, staged, notes⟩
  refine ⟨header, parts, known, staged, ?_⟩
  have whole : Notes options host provider stream.sound base _ := .opened opened notes
  have ends : load options host provider stream base =
      match stream.firstRefusal? .header
        (Reader.openingJournal stream base ++ Journal.ofParts parts) with
      | some (phase, fault) => .error (.io phase fault)
      | none => load options host provider stream.sound base :=
    load_withFaults rfl whole stream.faults
  rwa [Stream.firstRefusal?_append, Stream.firstRefusal?_ofParts] at ends

/-- A load from a stream that refuses requests either ends like the load from the same stream
without its faults, or fails with the first refusal: the first request that the sound load makes and
the stream refuses, in the phase in which it is made.  A journal of the sound load tells which. -/
theorem load_refused [Memory] (options : LoadOptions) (host : HostTable)
    (provider : SourceProvider) (stream : Stream) (base : Nat) :
    (∃ journal, Notes options host provider stream.sound base journal) ∧
      ∀ journal, Notes options host provider stream.sound base journal →
        load options host provider stream base =
          match stream.firstRefusal? .header journal with
          | some (phase, fault) => .error (.io phase fault)
          | none => load options host provider stream.sound base := by
  refine ⟨exists_notes options host provider stream.sound base, ?_⟩
  intro journal notes
  exact load_withFaults rfl notes stream.faults

/-- The module with a procedure that overruns its data, on a stream that does not move to the data
of the first procedure. -/
def unmovable : Stream :=
  { Stream.ofBytes overrunning.encode with
    faults := { Faults.none with seekTo := ⟨fun place => place = 124⟩ } }

/-- The load of it does not come to the second procedure. -/
theorem load_overrunning_refused :
    ∃ journal,
      Notes .standard [] (fun _ => none) (.ofBytes overrunning.encode) 0 journal ∧
        unmovable.firstRefusal? .header journal = some (.procedures, .seekRefused) := by
  have stopped : load .standard [] (fun _ => none) unmovable 0 =
      .error (.io .procedures .seekRefused) := by
    decide +kernel
  rcases load_refused .standard [] (fun _ => none) unmovable 0 with ⟨⟨journal, notes⟩, ends⟩
  have ended := ends journal notes
  refine ⟨journal, notes, ?_⟩
  rw [stopped] at ended
  revert ended
  split <;> intro ended
  · cases ended
    assumption
  · exact absurd (ended.trans load_overrunning) (by simp)

end LoadedModule

end CompiledModule
