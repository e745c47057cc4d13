import CompiledModule.IdTable
import Std.Data.TreeMap.Lemmas

namespace CompiledModule

/-!
# Lookups and linear scans

An index is filled from the front of its list and never changes an answer that it has, so what it
answers for a key is the position of the key's first entry, or whatever else it keeps of that entry.
A lookup through an index is therefore the scan of the list for the first entry with the key.  This
holds of the three indexed lists of a module alike: its names, by code and by name, its procedures
by name, and its system calls by code.
-/

/-! ## First hits -/

/-- The scan of a list for a property stops at this entry, after these. -/
structure First (entries : List α) (has : α → Prop) (passed : List α) (entry : α) : Prop where
  split : ∃ rest, entries = passed ++ entry :: rest
  hit : has entry
  passed_none : ∀ other ∈ passed, ¬ has other

section First

variable {entries : List α} {has : α → Prop} [DecidablePred has]

theorem exists_first_iff {entry : α} :
    (∃ passed, First entries has passed entry) ↔
      entries.find? (fun other => decide (has other)) = some entry := by
  rw [List.find?_eq_some_iff_append]
  constructor
  · intro scan
    rcases scan with ⟨passed, scan⟩
    rcases scan.split with ⟨rest, split⟩
    refine ⟨decide_eq_true scan.hit, passed, rest, split, ?_⟩
    intro other member
    rw [decide_eq_false (scan.passed_none other member)]
    rfl
  · intro found
    rcases found with ⟨hit, passed, rest, split, none⟩
    refine ⟨passed, ⟨rest, split⟩, of_decide_eq_true hit, ?_⟩
    intro other member holds
    have missed := none other member
    rw [decide_eq_true holds] at missed
    cases missed

theorem no_first_iff :
    (∀ entry ∈ entries, ¬ has entry) ↔
      entries.find? (fun other => decide (has other)) = none := by
  simp only [List.find?_eq_none, decide_eq_true_eq]

end First

/-! ## Indexes -/

namespace FirstIndex

variable {κ β : Type} [Ord κ] [Std.TransOrd κ] [Std.LawfulEqOrd κ] [BEq κ] [LawfulBEq κ]

theorem getElem?_add (index : FirstIndex κ β) (key : κ) (value : β) (sought : κ) :
    (index.add key value)[sought]? =
      index[sought]?.or (if key == sought then some value else none) := by
  rw [FirstIndex.add, Std.TreeMap.getElem?_insertIfNew]
  by_cases same : key = sought
  · subst same
    rw [beq_self_eq_true, if_pos rfl]
    cases known : index[key]? with
    | none =>
      have new : key ∉ index := by
        rw [Std.TreeMap.mem_iff_isSome_getElem?, known]
        exact Bool.false_ne_true
      exact if_pos ⟨Std.compare_eq_iff_eq.mpr rfl, new⟩
    | some found =>
      have old : key ∈ index := by
        rw [Std.TreeMap.mem_iff_isSome_getElem?, known]
        rfl
      exact if_neg fun both => both.2 old
  · have differs : ¬ compare key sought = .eq := fun equal => same (Std.compare_eq_iff_eq.mp equal)
    rw [if_neg fun both => differs both.1, beq_eq_false_iff_ne.mpr same, if_neg Bool.false_ne_true,
      Option.or_none]

/-- The induction is on the entries that are still to come. -/
theorem getElem?_addAll (index : FirstIndex κ β) (entries : List (κ × β)) (sought : κ) :
    (index.addAll entries)[sought]? =
      index[sought]?.or ((entries.find? (·.1 == sought)).map (·.2)) := by
  induction entries generalizing index with
  | nil => rw [addAll, List.foldl_nil, List.find?_nil, Option.map_none, Option.or_none]
  | cons entry rest ih =>
    change ((index.add entry.1 entry.2).addAll rest)[sought]? = _
    rw [ih, getElem?_add, Option.or_assoc, List.find?_cons]
    cases entry.1 == sought with
    | true => rw [if_pos rfl, Option.some_or]; rfl
    | false => rw [if_neg Bool.false_ne_true, Option.none_or]

theorem getElem?_ofKeys (keys : List κ) (sought : κ) :
    (ofKeys keys)[sought]? = keys.findIdx? (· == sought) := by
  rw [ofKeys, getElem?_addAll, Std.TreeMap.getElem?_emptyc, Option.none_or,
    List.findIdx?_eq_fst_find?_zipIdx]

/-- The entry at the position that the index answers is the first one with the key. -/
theorem bind_ofKeys (keyOf : α → κ) (entries : List α) (sought : κ) :
    (ofKeys (entries.map keyOf))[sought]?.bind (entries[·]?) =
      entries.find? (keyOf · == sought) := by
  rw [getElem?_ofKeys, List.findIdx?_map, List.find?_eq_bind_findIdx?_getElem?]
  rfl

end FirstIndex

namespace IdTable

/-- Entries are added behind those that are there, in the list and in both indexes. -/
theorem foldl_push (table : IdTable) (entries : List IdEntry) :
    entries.foldl (fun table entry => table.push entry.code entry.name) table =
      { entries := table.entries ++ entries.toArray
        byCode := table.byCode.addAll ((entries.map IdEntry.code).zipIdx table.entries.size)
        byName := table.byName.addAll (entries.map fun entry => (entry.name, entry.code)) } := by
  induction entries generalizing table with
  | nil => rw [List.foldl_nil, Array.append_empty]; rfl
  | cons entry rest ih =>
    have size : (table.push entry.code entry.name).entries.size = table.entries.size + 1 :=
      Array.size_push _
    have grown : (table.push entry.code entry.name).entries ++ rest.toArray =
        table.entries ++ (entry :: rest).toArray := by
      simp [push]
    rw [List.foldl_cons, ih, size, grown]
    rfl

theorem ofList_eq (entries : List IdEntry) :
    ofList entries =
      { entries := entries.toArray
        byCode := .ofKeys (entries.map IdEntry.code)
        byName := .addAll ∅ (entries.map fun entry => (entry.name, entry.code)) } := by
  rw [ofList, foldl_push]
  simp [empty, FirstIndex.ofKeys]

theorem toList_ofList (entries : List IdEntry) : (ofList entries).entries.toList = entries := by
  rw [ofList_eq]

theorem nameFor_ofList (entries : List IdEntry) (code : UInt32) :
    (ofList entries).nameFor code =
      (entries.find? (·.code == code)).elim unknownName IdEntry.name := by
  rw [nameFor, entryOf?, ofList_eq]
  simp only [List.getElem?_toArray]
  rw [FirstIndex.bind_ofKeys]

theorem codeFor?_ofList (entries : List IdEntry) (name : String) :
    (ofList entries).codeFor? name = (entries.find? (·.name == name)).map IdEntry.code := by
  rw [codeFor?, ofList_eq, FirstIndex.getElem?_addAll, Std.TreeMap.getElem?_emptyc, Option.none_or,
    List.find?_map, Option.map_map]
  rfl

end IdTable

end CompiledModule
