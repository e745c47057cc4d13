import CompiledModule.Proofs.RoundTrip.Sections
import CompiledModule.StringPool

namespace CompiledModule

/-!
# The string pool of an image, read again

The strings of an image are stored one behind another, each with a zero byte behind it, and the table
of starts counts the bytes before each of them.  No start lies behind the text, so the pool is
accepted.  A string is cut from its start to the first zero byte there, which is its own if the string
has none inside, and so every string comes back with the index that it had.
-/

/-! ## Where strings start -/

theorem toNat_storedCount_le (count : Nat) : (storedCount count).toNat ≤ count := by
  by_cases small : count ≤ largestModule
  · exact Nat.le_of_eq (toNat_storedCount small)
  · have below := (storedCount count).toNat_lt
    unfold largestModule at small
    omega

theorem getElem?_stringStarts (start : Nat) (strings : List String) (index : Nat) :
    (stringStarts start strings)[index]? = strings[index]?.map fun _ =>
      storedCount (start + ((strings.take index).flatMap zeroEnded).length) := by
  induction strings generalizing start index with
  | nil => rfl
  | cons text rest ih =>
    cases index with
    | zero => rfl
    | succ index =>
      rw [stringStarts, List.getElem?_cons_succ, ih, List.getElem?_cons_succ, List.take_succ_cons,
        List.flatMap_cons, List.length_append, Nat.add_assoc]

theorem length_stringStarts (start : Nat) (strings : List String) :
    (stringStarts start strings).length = strings.length := by
  induction strings generalizing start with
  | nil => rfl
  | cons text rest ih => rw [stringStarts, List.length_cons, ih, List.length_cons]

/-- The bytes before a string are some of the bytes of the text. -/
theorem text_split (strings : List String) (index : Nat) :
    strings.flatMap zeroEnded =
      (strings.take index).flatMap zeroEnded ++ (strings.drop index).flatMap zeroEnded := by
  rw [← List.flatMap_append, List.take_append_drop]

theorem stringStarts_inside {strings : List String} {start : UInt32}
    (member : start ∈ stringStarts 0 strings) :
    start.toNat ≤ (strings.flatMap zeroEnded).length := by
  rcases List.getElem?_of_mem member with ⟨index, found⟩
  rw [getElem?_stringStarts, Option.map_eq_some_iff] at found
  rcases found with ⟨_, _, rfl⟩
  have least := toNat_storedCount_le (0 + ((strings.take index).flatMap zeroEnded).length)
  rw [text_split strings index, List.length_append]
  omega

/-! ## Pools -/

namespace StringPool

def ofStrings (strings : List String) : StringPool where
  offsets := (stringStarts 0 strings).toArray
  text := (strings.flatMap zeroEnded).toArray

theorem firstPast_eq_none {textLength : Nat} {starts : List UInt32}
    (inside : ∀ start ∈ starts, start.toNat ≤ textLength) (index : Nat) :
    firstPast textLength index starts = none := by
  induction starts generalizing index with
  | nil => rfl
  | cons start rest ih =>
    have here : ¬ (textLength < start.toNat) := Nat.not_lt.mpr (inside start List.mem_cons_self)
    rw [firstPast, if_neg here]
    exact ih (fun other member => inside other (List.mem_cons_of_mem start member)) _

theorem size_ofStrings (strings : List String) : (ofStrings strings).size = strings.length := by
  unfold size ofStrings
  rw [List.size_toArray, length_stringStarts]

theorem get?_ofStrings {strings : List String}
    (small : (strings.flatMap zeroEnded).length ≤ largestModule)
    (zeroFree : ∀ text ∈ strings, Utf8.ZeroFree text) (index : Nat) :
    (ofStrings strings).get? index = strings[index]?.map Utf8.encode := by
  unfold get? ofStrings
  simp only [List.getElem?_toArray, getElem?_stringStarts]
  cases found : strings[index]? with
  | none => rfl
  | some text =>
    have whole := text_split strings index
    have lengths := congrArg List.length whole
    rw [List.length_append] at lengths
    have exactly : (storedCount (0 + ((strings.take index).flatMap zeroEnded).length)).toNat =
        ((strings.take index).flatMap zeroEnded).length := by
      rw [Nat.zero_add]
      exact toNat_storedCount (by omega)
    have inside : ((strings.take index).flatMap zeroEnded).length ≤
        (strings.flatMap zeroEnded).toArray.size := by
      rw [List.size_toArray]
      omega
    have from' : (strings.drop index).flatMap zeroEnded =
        Utf8.encode text ++ 0 :: (strings.drop (index + 1)).flatMap zeroEnded := by
      rcases List.getElem?_eq_some_iff.mp found with ⟨bound, rfl⟩
      rw [List.drop_eq_getElem_cons bound, List.flatMap_cons, zeroEnded, List.append_assoc]
      rfl
    have cut : untilZero ((strings.flatMap zeroEnded).drop
        ((strings.take index).flatMap zeroEnded).length) = Utf8.encode text := by
      rw [whole, List.drop_left, from']
      exact untilZero_append (zeroFree text (List.mem_of_getElem? found)).encode _
    simp only [Option.map_some, exactly]
    rw [if_pos inside, cutString_eq _ _ _ (by omega)]
    exact congrArg some cut

end StringPool

theorem Section.Holds.comes_pool [Memory] [Memory.Ample] {contents : List UInt8} {base : Nat}
    {phase : Phase} {starts text : Section} {strings : List String}
    (startsHold : starts.Holds contents base (stringStarts 0 strings).length
      (storedWords (stringStarts 0 strings)))
    (textHolds : text.Holds contents base (strings.flatMap zeroEnded).length
      (strings.flatMap zeroEnded)) :
    Load.ComesTo contents base phase phase (StringPool.read starts text)
      (.ok (.ofStrings strings)) := by
  have accepted : StringPool.firstPast (strings.flatMap zeroEnded).length 0
      (stringStarts 0 strings) = none :=
    StringPool.firstPast_eq_none (fun _ member => stringStarts_inside member) 0
  unfold StringPool.read
  apply startsHold.comes_words.bind_ok
  apply textHolds.comes_bytes.bind_ok
  rw [accepted]
  exact Load.ComesTo.pure _

end CompiledModule
