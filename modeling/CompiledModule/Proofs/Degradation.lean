import CompiledModule.Proofs.HostOrder
import CompiledModule.Proofs.Lookup.Resolution
import CompiledModule.Proofs.RoundTrip.Image

namespace CompiledModule

/-!
# What may be missing

A host may lack a routine, nobody may have the text of a source file, and a module may have no
procedure of the name that execution is to begin with.  Nothing of this is an error of the load, and
none of it reaches further than it must.

So two loads of one module may have different hosts, different texts and different entry points, and
may ask for different versions as long as the module is recent enough for both.  They end alike:
with one error, or with modules that differ only in what was missing, which is the routines of
calls, the lines of listings and the entry point.
-/

/-! ## Versions -/

/-- The version is looked at when the header has been read, and nothing is done after that. -/
theorem Header.read_eq_bind (minimum : UInt32) :
    read minimum = read 0 >>= fun header => do
      if header.version < minimum then
        throw (.unsupportedVersion header.version minimum)
      return header := by
  simp only [read, bind_assoc]
  apply bind_congr
  intro _
  apply bind_congr
  intro _
  apply bind_congr
  intro decoded
  rcases decoded with ⟨first, header⟩
  have oldest : ¬ header.version < 0 := UInt32.not_lt_zero
  by_cases foreign : first ≠ magic
  · simp only [if_pos foreign]
    rfl
  · simp only [if_neg foreign, if_neg oldest]
    rfl

/-- In a module that is recent enough the minimum plays no part. -/
theorem Header.read_of_recent {minimum : UInt32} {reader : Reader}
    (recent : ∀ header, outcomeOf (read 0 reader) = .ok header → minimum ≤ header.version) :
    read minimum reader = read 0 reader := by
  rw [read_eq_bind]
  cases began : read 0 reader with
  | error error after => rw [run_bind_of_error began]
  | ok header after =>
    have accepted : ¬ header.version < minimum := by
      rw [began] at recent
      exact UInt32.not_lt.mpr (recent header rfl)
    rw [run_bind_of_ok began, if_neg accepted]
    rfl

/-! ## Two loads -/

namespace LoadedModule

/-- The header of the module that begins `base` bytes into a stream, whatever its version. -/
def headerOf (stream : Stream) (base : Nat) : Except LoadError Header := do
  let reader ← Reader.open? stream base
  outcomeOf (Header.read 0 reader)

/-- Equal modules up to the routines of their calls, the text of their listings and their entry
points. -/
structure AlikeInFile (left right : LoadedModule) : Prop where
  others :
    { left with
      systemCalls := right.systemCalls, listings := right.listings,
      entryIndex := right.entryIndex } = right
  calls : left.systemCalls.map SystemCall.unbound = right.systemCalls.map SystemCall.unbound
  paths : left.listings.map SourceListing.path = right.listings.map SourceListing.path

section Loads

variable [Memory] {options other : LoadOptions}

/-- Only the paths of the listings come from the module. -/
theorem readListings_coupled (options other : LoadOptions) (provider provider' : SourceProvider)
    (part : Section) :
    Coupled noExcuse Eq
      (fun left right => left.map SourceListing.path = right.map SourceListing.path)
      (readListings options provider part) (readListings other provider' part) := by
  apply Coupled.bind_same (Coupled.refl _)
  intro paths
  have fetched := SourceListing.paths_fetch provider paths
  have fetched' := SourceListing.paths_fetch provider' paths
  have missing := SourceListing.paths_missing paths
  split
  · split
    · exact Coupled.pure (fetched.trans fetched'.symm)
    · exact Coupled.pure (fetched.trans missing.symm)
  · split
    · exact Coupled.pure (missing.trans fetched'.symm)
    · exact Coupled.pure rfl

/-- The two loads part only at the listings, and again when everything has been read. -/
theorem read_coupled (pass : options.pass = other.pass) (host host' : HostTable)
    (provider provider' : SourceProvider) {reader : Reader}
    (header : Header.read options.minimumVersion reader = Header.read other.minimumVersion reader) :
    EndAlike noExcuse Eq AlikeInFile (read options host provider reader)
      (read other host' provider' reader) := by
  rw [read, read, pass]
  have began : EndAlike noExcuse Eq Eq (Header.read options.minimumVersion reader)
      (Header.read other.minimumVersion reader) := by
    rw [header]
    exact Coupled.refl _ reader reader rfl
  apply began.bind
  intro header _ same
  subst same
  -- The header is followed by the sections up to the blocks of globals and locals.
  iterate 22
    apply Coupled.bind_same (Coupled.refl _)
    intro _
  apply (readListings_coupled options other provider provider' header.sourceFiles).bind
  intro listings listings' paths
  iterate 3
    apply Coupled.bind_same (Coupled.refl _)
    intro _
  apply Coupled.bind_same (Coupled.refl _)
  intro calls
  apply Coupled.bind_same (Coupled.refl _)
  intro _
  apply Coupled.pure
  constructor
  · simp only [SystemCall.callCodes_relocate]
  · simp only [SystemCall.unbound_relocate]
  · exact paths

/-- What may be missing makes no other difference.  Two loads that differ in their hosts, their
texts, their entry points and the versions they ask for, of a module that is recent enough for both,
fail with the same error or give modules that are alike in everything that comes from the file. -/
theorem load_degrades (sameOrder : options.hostOrder = other.hostOrder)
    (sameChecks : options.checkData = other.checkData) (host host' : HostTable)
    (provider provider' : SourceProvider) (stream : Stream) (base : Nat)
    (recent : ∀ header, headerOf stream base = .ok header →
      options.minimumVersion ≤ header.version ∧ other.minimumVersion ≤ header.version) :
    (∃ error, load options host provider stream base = .error error ∧
      load other host' provider' stream base = .error error) ∨
    (∃ left right, load options host provider stream base = .ok left ∧
      load other host' provider' stream base = .ok right ∧ left.AlikeInFile right) := by
  have pass : options.pass = other.pass := by
    rw [LoadOptions.pass, LoadOptions.pass, sameOrder, sameChecks]
  have ends : ∀ reader, Reader.open? stream base = .ok reader →
      EndAlike noExcuse Eq AlikeInFile (LoadedModule.read options host provider reader)
        (LoadedModule.read other host' provider' reader) := by
    intro reader opened
    have named : ∀ header, outcomeOf (Header.read 0 reader) = .ok header →
        headerOf stream base = .ok header := by
      intro header began
      rw [headerOf, opened]
      exact began
    apply read_coupled pass
    rw [Header.read_of_recent fun header began => (recent header (named header began)).1,
      Header.read_of_recent fun header began => (recent header (named header began)).2]
  rcases load_ends ends with ⟨error, failed, same | excused⟩ | both
  · exact Or.inl ⟨error, failed, same⟩
  · exact excused.elim
  · exact Or.inr both

end Loads

/-- With and without a routine for its call, the text of its source file and its entry point. -/
theorem load_sample_degrades :
    let options := { LoadOptions.standard with checkData := false }
    let other := { options with minimumVersion := 0, entryPoint := "START", loadSources := false }
    let host : HostTable := [⟨"MAIN", 0, 2, "\x06\x06", 9⟩]
    let stream := Stream.ofBytes Image.sample.encode
    ∃ left right, load options host (fun _ => some "text") stream 0 = .ok left ∧
      load other [] (fun _ => none) stream 0 = .ok right ∧ left.AlikeInFile right := by
  intro options other host stream
  have version : (headerOf stream 0).toOption.map Header.version = some Header.currentVersion := by
    decide +kernel
  have recent : ∀ header, headerOf stream 0 = .ok header →
      options.minimumVersion ≤ header.version ∧ other.minimumVersion ≤ header.version := by
    intro header began
    rw [began] at version
    rw [Option.some.inj version]
    decide
  have accepted : options.minimumVersion ≤ Image.sample.version := by decide
  rcases Image.exists_load_sample rfl accepted host fun _ => some "text" with ⟨loaded, loads⟩
  have sameOrder : options.hostOrder = other.hostOrder := rfl
  have sameChecks : options.checkData = other.checkData := rfl
  have ends := load_degrades sameOrder sameChecks host [] (fun _ => some "text") (fun _ => none)
    stream 0 recent
  rcases ends with ⟨error, failed, _⟩ | both
  · rw [loads] at failed
    cases failed
  · exact both

end LoadedModule

end CompiledModule
