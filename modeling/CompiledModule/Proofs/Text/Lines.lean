import CompiledModule.SourceListing
import Mathlib.Data.List.Forall2
import Mathlib.Data.List.TakeWhile

namespace CompiledModule

/-!
# Lines of a source text

A text is the segments that its newlines end, and the rest behind the last newline.  A listing has a
line for each segment, also for an empty one, and one more if there is a rest, so the number of a
line is the number of newlines before it and one.  No newline is lost by trimming, since segments
have none.

A line that has been trimmed has no blanks at its ends any more.  If all lines are written again,
each with an end of its own, cutting and trimming give the same lines.  It does not matter whether a
carriage return is written before the newline, because that is a blank at the end of its segment.
-/

/-! ## Cutting -/

/-- The text is cut at its newlines: each of the segments is ended by one, and the rest by none. -/
structure CutAtNewlines (text : List Char) (segments : List (List Char)) (rest : List Char) :
    Prop where
  whole : text = segments.flatMap (· ++ ['\n']) ++ rest
  segments_free : ∀ segment ∈ segments, '\n' ∉ segment
  rest_free : '\n' ∉ rest

/-- The rest behind the last newline counts as a segment unless it is empty. -/
def withRest (segments : List (List Char)) (rest : List Char) : List (List Char) :=
  segments ++ if rest = [] then [] else [rest]

theorem CutAtNewlines.free {text rest segment : List Char} {segments : List (List Char)}
    (cut : CutAtNewlines text segments rest) (member : segment ∈ withRest segments rest) :
    '\n' ∉ segment := by
  rcases List.mem_append.mp member with ended | last
  · exact cut.segments_free segment ended
  · split at last
    · cases last
    · rw [List.mem_singleton.mp last]
      exact cut.rest_free

/-- The induction is on the text; a character that is no newline belongs to the first segment, or to
the rest when there is none. -/
theorem exists_cutAtNewlines (text : List Char) :
    ∃ segments rest, CutAtNewlines text segments rest := by
  induction text with
  | nil => exact ⟨[], [], rfl, by simp, by simp⟩
  | cons c text ih =>
    rcases ih with ⟨segments, rest, whole, segmentsFree, restFree⟩
    by_cases newline : c = '\n'
    · refine ⟨[] :: segments, rest, ?_, ?_, restFree⟩
      · rw [newline, whole]
        rfl
      · exact List.forall_mem_cons.mpr ⟨List.not_mem_nil, segmentsFree⟩
    · cases segments with
      | nil =>
        refine ⟨[], c :: rest, ?_, by simp, ?_⟩
        · rw [whole]
          rfl
        · exact List.not_mem_cons_of_ne_of_not_mem (Ne.symm newline) restFree
      | cons segment segments =>
        rcases List.forall_mem_cons.mp segmentsFree with ⟨free, othersFree⟩
        have longer := List.not_mem_cons_of_ne_of_not_mem (Ne.symm newline) free
        refine ⟨(c :: segment) :: segments, rest, ?_, ?_, restFree⟩
        · rw [whole]
          rfl
        · exact List.forall_mem_cons.mpr ⟨longer, othersFree⟩

theorem splitLines_append {segment : List Char} (free : '\n' ∉ segment) (text : List Char) :
    splitLines (segment ++ '\n' :: text) = segment :: splitLines text := by
  induction segment with
  | nil => rfl
  | cons c segment ih =>
    rw [List.mem_cons, not_or] at free
    rw [List.cons_append, splitLines, if_neg (Ne.symm free.1), ih free.2]

theorem splitLines_of_free {rest : List Char} (free : '\n' ∉ rest) :
    splitLines rest = if rest = [] then [] else [rest] := by
  induction rest with
  | nil => rfl
  | cons c rest ih =>
    rw [List.mem_cons, not_or] at free
    rw [splitLines, if_neg (Ne.symm free.1), ih free.2]
    by_cases empty : rest = []
    · subst empty
      rfl
    · simp only [if_neg empty]
      rfl

theorem CutAtNewlines.splitLines_eq {text rest : List Char} {segments : List (List Char)}
    (cut : CutAtNewlines text segments rest) : splitLines text = withRest segments rest := by
  rcases cut with ⟨rfl, segmentsFree, restFree⟩
  induction segments with
  | nil => exact splitLines_of_free restFree
  | cons segment segments ih =>
    rcases List.forall_mem_cons.mp segmentsFree with ⟨free, othersFree⟩
    rw [List.flatMap_cons, List.append_assoc, List.append_assoc, List.singleton_append,
      splitLines_append free, ih othersFree]
    rfl

/-! ## Trimming -/

def blanks : List Char := [' ', '\t', '\r', '\n']

theorem isBlank_iff {c : Char} : isBlank c ↔ c ∈ blanks := by
  simp only [isBlank, blanks, Bool.or_eq_true, decide_eq_true_eq, List.mem_cons, List.not_mem_nil,
    or_false]
  tauto

/-- The line is the segment without the blanks at its ends. -/
structure Trimmed (segment line : List Char) : Prop where
  ends : ∃ front back, segment = front ++ line ++ back ∧
    (∀ c ∈ front, c ∈ blanks) ∧ ∀ c ∈ back, c ∈ blanks
  first : ∀ c, line.head? = some c → c ∉ blanks
  last : ∀ c, line.getLast? = some c → c ∉ blanks

theorem head?_dropWhile_ne {c : Char} {line : List Char}
    (head : (line.dropWhile isBlank).head? = some c) : c ∉ blanks := by
  have stopped := List.head?_dropWhile_not isBlank line
  rw [head] at stopped
  rw [← isBlank_iff, stopped]
  exact Bool.false_ne_true

theorem exists_front (line : List Char) :
    ∃ front, line = front ++ line.dropWhile isBlank ∧ ∀ c ∈ front, c ∈ blanks :=
  ⟨line.takeWhile isBlank, List.takeWhile_append_dropWhile.symm,
    fun _ member => isBlank_iff.mp (List.mem_takeWhile_imp member)⟩

/-- Blanks are dropped from the front, and from the front of what is left when it is read
backwards. -/
theorem trimmed_trimLine (segment : List Char) : Trimmed segment (trimLine segment) := by
  rcases exists_front segment with ⟨front, split, frontBlank⟩
  rcases exists_front (segment.dropWhile isBlank).reverse with ⟨back, splitBack, backBlank⟩
  have kept : segment.dropWhile isBlank = trimLine segment ++ back.reverse := by
    have reversed := congrArg List.reverse splitBack
    rwa [List.reverse_reverse, List.reverse_append] at reversed
  constructor
  · refine ⟨front, back.reverse, ?_, frontBlank, ?_⟩
    · rw [List.append_assoc, ← kept]
      exact split
    · intro c member
      exact backBlank c (List.mem_reverse.mp member)
  · intro c head
    have first : (segment.dropWhile isBlank).head? = some c := by
      rw [kept, List.head?_append, head]
      rfl
    exact head?_dropWhile_ne first
  · intro c last
    rw [trimLine, List.getLast?_reverse] at last
    exact head?_dropWhile_ne last

theorem dropWhile_of_head {line : List Char} (first : ∀ c, line.head? = some c → c ∉ blanks) :
    line.dropWhile isBlank = line := by
  cases line with
  | nil => rfl
  | cons c line =>
    have kept := first c rfl
    rw [← isBlank_iff] at kept
    exact List.dropWhile_cons_of_neg kept

theorem dropWhile_of_blank {front : List Char} (blank : ∀ c ∈ front, c ∈ blanks)
    (rest : List Char) : (front ++ rest).dropWhile isBlank = rest.dropWhile isBlank := by
  apply List.dropWhile_append_of_pos
  intro c member
  exact isBlank_iff.mpr (blank c member)

/-- There is only one way to trim a segment. -/
theorem Trimmed.trimLine_eq {segment line : List Char} (trimmed : Trimmed segment line) :
    trimLine segment = line := by
  rcases trimmed with ⟨⟨front, back, rfl, frontBlank, backBlank⟩, first, last⟩
  have backwards : ∀ c ∈ back.reverse, c ∈ blanks :=
    fun c member => backBlank c (List.mem_reverse.mp member)
  rw [trimLine, List.append_assoc, dropWhile_of_blank frontBlank]
  cases line with
  | nil =>
    have nothing := dropWhile_of_blank backBlank []
    rw [List.append_nil] at nothing
    rw [List.nil_append, nothing]
    rfl
  | cons c line =>
    have stays : (c :: line ++ back).dropWhile isBlank = c :: line ++ back :=
      dropWhile_of_head first
    have ended : (c :: line).reverse.dropWhile isBlank = (c :: line).reverse := by
      apply dropWhile_of_head
      rwa [List.head?_reverse]
    rw [stays, List.reverse_append, dropWhile_of_blank backwards, ended, List.reverse_reverse]

/-- A trimmed line may be written again with further blanks behind it. -/
theorem Trimmed.append_blank {segment line back : List Char} (trimmed : Trimmed segment line)
    (blank : ∀ c ∈ back, c ∈ blanks) : Trimmed (line ++ back) line where
  ends := ⟨[], back, rfl, by simp, blank⟩
  first := trimmed.first
  last := trimmed.last

theorem Trimmed.free {segment line : List Char} (trimmed : Trimmed segment line)
    (free : '\n' ∉ segment) : '\n' ∉ line := by
  rcases trimmed.ends with ⟨front, back, rfl, -, -⟩
  intro member
  exact free (List.mem_append_left back (List.mem_append_right front member))

/-! ## Listing -/

namespace SourceListing

theorem linesOf_eq {text : String} {segments : List (List Char)} {rest : List Char}
    (cut : CutAtNewlines text.toList segments rest) :
    (linesOf text).map String.toList = (withRest segments rest).map trimLine := by
  rw [linesOf, cut.splitLines_eq, List.map_map]
  apply List.map_congr_left
  intro segment _
  exact String.toList_ofList

theorem linesOf_trimmed {text : String} {segments : List (List Char)} {rest : List Char}
    (cut : CutAtNewlines text.toList segments rest) :
    List.Forall₂ Trimmed (withRest segments rest) ((linesOf text).map String.toList) := by
  rw [linesOf_eq cut, List.forall₂_map_right_iff, List.forall₂_same]
  exact fun segment _ => trimmed_trimLine segment

/-- Every line is a segment of the text, trimmed. -/
theorem exists_segment {text line : String} (listed : line ∈ linesOf text) :
    ∃ segment, '\n' ∉ segment ∧ Trimmed segment line.toList := by
  rcases exists_cutAtNewlines text.toList with ⟨segments, rest, cut⟩
  have among := List.mem_map_of_mem (f := String.toList) listed
  rw [linesOf_eq cut] at among
  rcases List.mem_map.mp among with ⟨segment, member, same⟩
  exact ⟨segment, cut.free member, same ▸ trimmed_trimLine segment⟩

/-- The text of some lines, each with an end behind it. -/
def write (ending : String) (lines : List String) : String :=
  String.join (lines.map (· ++ ending))

/-- Blanks before the newline are trimmed away when the lines are listed again. -/
theorem linesOf_write {ending : String} {back : List Char} {lines : List String}
    (ends : ending.toList = back ++ ['\n']) (blank : ∀ c ∈ back, c ∈ blanks)
    (backFree : '\n' ∉ back)
    (listed : ∀ line ∈ lines, ∃ segment, '\n' ∉ segment ∧ Trimmed segment line.toList) :
    linesOf (write ending lines) = lines := by
  have cut : CutAtNewlines (write ending lines).toList (lines.map (·.toList ++ back)) [] := by
    constructor
    · simp only [write, String.toList_join, List.flatMap_map, String.toList_append, ends,
        List.append_assoc, List.append_nil]
    · intro written member
      rcases List.mem_map.mp member with ⟨line, among, rfl⟩
      rcases listed line among with ⟨segment, free, trimmed⟩
      exact List.not_mem_append (trimmed.free free) backFree
    · exact List.not_mem_nil
  have again : (linesOf (write ending lines)).map String.toList = lines.map String.toList := by
    rw [linesOf_eq cut, withRest, if_pos rfl, List.append_nil, List.map_map]
    apply List.map_congr_left
    intro line among
    rcases listed line among with ⟨segment, _, trimmed⟩
    exact (trimmed.append_blank blank).trimLine_eq
  exact List.map_injective_iff.mpr (fun _ _ => String.toList_inj.mp) again

/-- A listing has a line for every segment of the text that a newline ends and one more if anything
is left behind the last newline.  The line is the segment without the blanks at its ends, and it has
no newline.  Lines are found by their numbers, from 1 to the number of lines.  The text that has
every line written out, with a newline behind it and with or without a carriage return before that,
has the same listing. -/
theorem listing_canonical (path text : String) :
    let listing := ofText path text
    (∃ segments rest, CutAtNewlines text.toList segments rest ∧
      List.Forall₂ Trimmed (withRest segments rest) (listing.lines.map String.toList)) ∧
    (∀ line ∈ listing.lines, '\n' ∉ line.toList) ∧
    (∀ number, (listing.line? number).isSome ↔ 1 ≤ number ∧ number ≤ listing.lines.length) ∧
    (∀ index, listing.line? (index + 1) = listing.lines[index]?) ∧
    ∀ ending ∈ ["\n", "\r\n"], ofText path (write ending listing.lines) = listing := by
  intro listing
  refine ⟨?_, ?_, ?_, fun _ => rfl, ?_⟩
  · rcases exists_cutAtNewlines text.toList with ⟨segments, rest, cut⟩
    exact ⟨segments, rest, cut, linesOf_trimmed cut⟩
  · intro line listed
    rcases exists_segment listed with ⟨segment, free, trimmed⟩
    exact trimmed.free free
  · intro number
    cases number with
    | zero => simp [line?]
    | succ index =>
      rw [line?, isSome_getElem?]
      omega
  · intro ending either
    have listed : ∀ line ∈ listing.lines,
        ∃ segment, '\n' ∉ segment ∧ Trimmed segment line.toList := fun _ => exists_segment
    have same : linesOf (write ending listing.lines) = listing.lines := by
      rcases List.mem_pair.mp either with rfl | rfl
      · have ends : "\n".toList = [] ++ ['\n'] := rfl
        exact linesOf_write ends (List.forall_mem_nil _) List.not_mem_nil listed
      · have ends : "\r\n".toList = ['\r'] ++ ['\n'] := rfl
        have blank : ∀ c ∈ ['\r'], c ∈ blanks := List.forall_mem_singleton.mpr (by decide)
        exact linesOf_write ends blank (by decide) listed
    rw [ofText, same]
    rfl

end SourceListing

end CompiledModule
