import CompiledModule.Proofs.Lookup.FirstPosition
import CompiledModule.Proofs.Reading.Results
import CompiledModule.Proofs.RoundTrip.Sections

namespace CompiledModule

/-!
# Tables of names and their lists

A table of names has a list of entries and two indexes, one by code and one by name.  Codes and
names repeat freely and independently of each other, so the two indexes may lead to different
entries.  Yet no one who asks a table can tell that it has indexes: it answers as if its list were
searched from the front, whether it was filled entry by entry or was read from a module.

A table that was written and is read again is the table of what was stored.  A stored name is
shorter than the name that was written if that was too long for its slot or had a zero byte, so two
names may have become one.  The list of what was stored decides then, and its first entry wins.
-/

namespace IdTable

/-- The table has these entries in this order, and answers as a search of them from the front. -/
structure Scans (table : IdTable) (entries : List IdEntry) : Prop where
  listed : table.entries.toList = entries
  named : ∀ code, table.nameFor code =
    (entries.find? fun entry => entry.code == code).elim unknownName IdEntry.name
  coded : ∀ name, table.codeFor? name =
    (entries.find? fun entry => entry.name == name).map IdEntry.code

theorem scans_ofList (entries : List IdEntry) : (ofList entries).Scans entries where
  listed := toList_ofList entries
  named := nameFor_ofList entries
  coded := codeFor?_ofList entries

section Reading

variable [Memory]

/-- What is read is the table of the records of its section, as many as the section claims. -/
theorem scans_read {part : Section} {reader after : Reader} {table : IdTable}
    (known : read part reader = .ok table after) :
    ∃ entries, part.records .idEntry format reader = .ok entries after ∧
      entries.length = part.count.toNat ∧ table.Scans entries := by
  rcases run_bind_eq_ok.mp known with ⟨entries, left, records, filled⟩
  cases filled
  have count : entries.length = part.count.toNat :=
    (Load.Gives.records part .idEntry format).holds records
  exact ⟨entries, records, count, scans_ofList entries⟩

variable [Memory.Ample]

/-- What was written comes back wherever it stands in a module, as far as it was stored. -/
theorem scans_read_stored {contents : List UInt8} {base : Nat} {phase : Phase} {part : Section}
    {entries : List IdEntry} {reader : Reader}
    (holds : part.Holds contents base entries.length (entries.flatMap encodeEntry))
    (inside : reader.Inside contents base phase) :
    ∃ table after, read part reader = .ok table after ∧
      table.Scans (entries.map IdEntry.stored) := by
  have comes := (holds.comes_names reader inside).1
  cases known : read part reader with
  | ok table after =>
    rw [known] at comes
    cases comes
    exact ⟨_, after, rfl, scans_ofList _⟩
  | error error after =>
    rw [known] at comes
    cases comes

/-- A table of names is its list, searched from the front: the table that pushes have filled, the
table that a read has given, and the table that was written before it was read.  The last one has
the codes that were written, each with as much of its name as the slot kept, and that is the whole
name unless it had a zero byte or more than 63 bytes. -/
theorem answers_as_scan :
    (∀ entries : List IdEntry, (ofList entries).Scans entries) ∧
    (∀ (part : Section) (reader after : Reader) (table : IdTable),
      read part reader = .ok table after →
        ∃ entries, part.records .idEntry format reader = .ok entries after ∧
          entries.length = part.count.toNat ∧ table.Scans entries) ∧
    (∀ (contents : List UInt8) (base : Nat) (phase : Phase) (part : Section)
      (entries : List IdEntry) (reader : Reader),
      part.Holds contents base entries.length (entries.flatMap encodeEntry) →
        reader.Inside contents base phase →
          ∃ table after, read part reader = .ok table after ∧
            table.Scans (entries.map IdEntry.stored)) ∧
    ∀ entry : IdEntry, Utf8.ZeroFree entry.name → (Utf8.encode entry.name).length ≤ 63 →
      entry.stored = entry := by
  refine ⟨scans_ofList, ?_, ?_, ?_⟩
  · intro part reader after table known
    exact scans_read known
  · intro contents base phase part entries reader holds inside
    exact scans_read_stored holds inside
  · intro entry zeroFree fits
    exact IdEntry.stored_eq zeroFree fits

end Reading

/-- Four entries of which only the last one is the same when it is read again.  The first two become
one name with two codes, and the third one is cut in the middle of its last character. -/
def shortened : List IdEntry :=
  [⟨1, "SAY\x00A"⟩, ⟨2, "SAY\x00B"⟩, ⟨1, "".pushn 'é' 32⟩, ⟨3, "MAIN"⟩]

theorem answers_as_scan_shortened :
    ∃ table after,
      read ⟨0, 4⟩ (.over (shortened.flatMap encodeEntry) 0 .idTable 0) = .ok table after ∧
        Section.records ⟨0, 4⟩ .idEntry format
            (.over (shortened.flatMap encodeEntry) 0 .idTable 0) =
          .ok [⟨1, "SAY"⟩, ⟨2, "SAY"⟩, ⟨1, ("".pushn 'é' 31).push Utf8.replacement⟩, ⟨3, "MAIN"⟩]
            after ∧
        table.codeFor? "SAY" = some 1 ∧ table.nameFor 1 = "SAY" ∧ table.nameFor 4 = "(?)" := by
  have holds : Section.Holds (shortened.flatMap encodeEntry) 0 ⟨0, 4⟩ shortened.length
      (shortened.flatMap encodeEntry) :=
    ⟨rfl, [], [], (List.append_nil _).symm, rfl⟩
  have start : Reader.Inside (shortened.flatMap encodeEntry) 0 .idTable
      (.over (shortened.flatMap encodeEntry) 0 .idTable 0) :=
    ⟨0, Nat.zero_le _, rfl⟩
  have front : (shortened.take 3).map IdEntry.stored =
      [⟨1, "SAY"⟩, ⟨2, "SAY"⟩, ⟨1, ("".pushn 'é' 31).push Utf8.replacement⟩] := by
    decide +kernel
  rcases answers_as_scan with ⟨_, kept, written, whole⟩
  have stored : shortened.map IdEntry.stored =
      [⟨1, "SAY"⟩, ⟨2, "SAY"⟩, ⟨1, ("".pushn 'é' 31).push Utf8.replacement⟩, ⟨3, "MAIN"⟩] := by
    have last : IdEntry.stored ⟨3, "MAIN"⟩ = ⟨3, "MAIN"⟩ :=
      whole ⟨3, "MAIN"⟩ (by decide +kernel) (by decide +kernel)
    change (shortened.take 3).map IdEntry.stored ++ [IdEntry.stored ⟨3, "MAIN"⟩] = _
    rw [front, last]
    rfl
  rcases written _ _ _ _ _ _ holds start with ⟨table, after, known, scans⟩
  rw [stored] at scans
  rcases kept _ _ _ _ known with ⟨entries, records, _, listed, _, _⟩
  rw [← listed, scans.listed] at records
  refine ⟨table, after, known, records, ?_, ?_, ?_⟩
  · rw [scans.coded]
    decide +kernel
  · rw [scans.named]
    decide +kernel
  · rw [scans.named]
    decide +kernel

end IdTable

end CompiledModule
