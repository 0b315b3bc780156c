import DocFilter.Text.Blank
import Mathlib.Data.List.TakeWhile

set_option autoImplicit false

namespace DocFilter.Text

theorem isBlank_of_visible {c : Char} (lower : 0x21 ≤ c.toNat) (upper : c.toNat ≤ 0x7e) :
    isBlank c = false := by
  simp only [isBlank, inRanges, blankRanges, List.any_cons, List.any_nil, Bool.or_false,
    Bool.or_eq_false_iff, Bool.and_eq_false_iff, decide_eq_false_iff_not]
  omega

/-- A text that neither starts nor ends with white space. -/
structure Trimmed (cs : List Char) : Prop where
  front : ∀ c ∈ cs.head?, isBlank c = false
  back : ∀ c ∈ cs.getLast?, isBlank c = false

theorem dropWhile_isBlank {cs : List Char} (front : ∀ c ∈ cs.head?, isBlank c = false) :
    cs.dropWhile isBlank = cs := by
  cases cs with
  | nil => rfl
  | cons c rest =>
      have solid : isBlank c = false := front c rfl
      simp [solid]

theorem Trimmed.trim_eq {cs : List Char} (trimmed : Trimmed cs) : trim cs = cs := by
  have solidBack : ∀ c ∈ cs.reverse.head?, isBlank c = false := by
    rw [List.head?_reverse]
    exact trimmed.back
  rw [trim, dropWhile_isBlank trimmed.front, dropWhile_isBlank solidBack, List.reverse_reverse]

theorem trimmed_of_solid {cs : List Char} (solid : ∀ c ∈ cs, isBlank c = false) : Trimmed cs where
  front c first := solid c (List.mem_of_mem_head? first)
  back c last := solid c (List.mem_of_getLast? last)

/-- What stands between two characters that are not white space does not matter. -/
theorem trimmed_enclosed {first last : Char} (solidFirst : isBlank first = false)
    (solidLast : isBlank last = false) (middle : List Char) :
    Trimmed (first :: middle ++ [last]) where
  front c found := by
    obtain rfl : first = c := by simpa using found
    exact solidFirst
  back c found := by
    rw [List.getLast?_concat, Option.mem_some_iff] at found
    obtain rfl : last = c := found
    exact solidLast

/-- A text inside a longer one that has only white space around it, possibly none. -/
def IsPadded (cs inner : List Char) : Prop :=
  ∃ front back, cs = front ++ inner ++ back ∧ (∀ c ∈ front, isBlank c = true) ∧
    ∀ c ∈ back, isBlank c = true

theorem isPadded_trim (cs : List Char) : IsPadded cs (trim cs) := by
  have front := List.takeWhile_append_dropWhile (p := isBlank) (l := cs)
  have back := List.takeWhile_append_dropWhile (p := isBlank) (l := (cs.dropWhile isBlank).reverse)
  refine ⟨cs.takeWhile isBlank, ((cs.dropWhile isBlank).reverse.takeWhile isBlank).reverse, ?_,
    fun c => List.mem_takeWhile_imp, ?_⟩
  · rw [trim, List.append_assoc, ← List.reverse_append, back, List.reverse_reverse, front]
  · intro c member
    exact List.mem_takeWhile_imp (List.mem_reverse.mp member)

/-- A text that has white space at neither end is what trimming leaves of it with any around it. -/
theorem IsPadded.trim_eq {cs inner : List Char} (padded : IsPadded cs inner)
    (trimmed : Trimmed inner) : trim cs = inner := by
  obtain ⟨front, back, rfl, blankFront, blankBack⟩ := padded
  have blankReverse : ∀ c ∈ back.reverse, isBlank c = true := by
    intro c member
    exact blankBack c (List.mem_reverse.mp member)
  have core : trim (inner ++ back) = inner := by
    cases inner with
    | nil => simp [trim, List.dropWhile_eq_nil_iff.mpr blankBack]
    | cons c rest =>
        have solid : ∀ d ∈ (c :: rest ++ back).head?, isBlank d = false := trimmed.front
        have solidBack : ∀ d ∈ (c :: rest).reverse.head?, isBlank d = false := by
          rw [List.head?_reverse]
          exact trimmed.back
        rw [trim, dropWhile_isBlank solid, List.reverse_append,
          List.dropWhile_append_of_pos blankReverse, dropWhile_isBlank solidBack,
          List.reverse_reverse]
  rw [List.append_assoc, trim, List.dropWhile_append_of_pos blankFront]
  exact core

theorem trim_eq_nil_iff (cs : List Char) : trim cs = [] ↔ ∀ c ∈ cs, isBlank c = true := by
  constructor
  · intro nothing
    obtain ⟨front, back, split, blankFront, blankBack⟩ := isPadded_trim cs
    rw [nothing, List.append_nil] at split
    rw [split, List.forall_mem_append]
    exact ⟨blankFront, blankBack⟩
  · intro blank
    simp [trim, List.dropWhile_eq_nil_iff.mpr blank]

end DocFilter.Text
