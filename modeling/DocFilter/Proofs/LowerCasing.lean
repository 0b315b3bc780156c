import DocFilter.Text.LowerCase

set_option autoImplicit false

namespace DocFilter.Text

namespace LowerRun

/-- The codes of the characters in the run. -/
def codes (run : LowerRun) : List Nat :=
  List.range' run.first ((run.last - run.first) / run.step + 1) run.step

def lowerCodes (run : LowerRun) : List Nat :=
  run.codes.map fun code : Nat => (code + run.shift).toNat

theorem mem_codes_of_covers {run : LowerRun} {c : Char} (covered : run.covers c = true) :
    c.toNat ∈ run.codes := by
  simp only [covers, Bool.and_eq_true, decide_eq_true_eq, beq_iff_eq, and_assoc] at covered
  obtain ⟨lower, upper, onStep⟩ := covered
  rw [codes, List.mem_range']
  refine ⟨(c.toNat - run.first) / run.step, ?_, ?_⟩
  · have within := Nat.div_le_div_right (c := run.step) (Nat.sub_le_sub_right upper run.first)
    omega
  · have whole := Nat.div_add_mod (c.toNat - run.first) run.step
    omega

end LowerRun

/-- The codes of all characters that have another lower case, row by row. -/
def capitals : List (List Nat) :=
  [0x130] :: lowerRuns.map LowerRun.codes

/-- The codes as the bits of one number. -/
def codeSet (codes : List Nat) : Nat :=
  codes.foldr (fun code set => set ||| 1 <<< code) 0

def rowSet (rows : List (List Nat)) : Nat :=
  rows.foldr (fun codes set => set ||| codeSet codes) 0

theorem testBit_codeSet {code : Nat} {codes : List Nat} (member : code ∈ codes) :
    (codeSet codes).testBit code = true := by
  induction codes with
  | nil => cases member
  | cons first rest ih =>
      change (codeSet rest ||| 1 <<< first).testBit code = true
      rw [Nat.testBit_or, Bool.or_eq_true]
      rcases List.mem_cons.mp member with rfl | later
      · exact Or.inr (by simp)
      · exact Or.inl (ih later)

theorem testBit_rowSet {code : Nat} {codes : List Nat} {rows : List (List Nat)}
    (row : codes ∈ rows) (member : code ∈ codes) : (rowSet rows).testBit code = true := by
  induction rows with
  | nil => cases row
  | cons first rest ih =>
      change (rowSet rest ||| codeSet first).testBit code = true
      rw [Nat.testBit_or, Bool.or_eq_true]
      rcases List.mem_cons.mp row with rfl | later
      · exact Or.inr (testBit_codeSet member)
      · exact Or.inl (ih later)

/-- No capital is the lower case of another one. -/
theorem capitals_apart : rowSet capitals &&& rowSet (lowerRuns.map LowerRun.lowerCodes) = 0 := by
  decide +kernel

theorem notMem_of_mem_capitals {run : LowerRun} (member : run ∈ lowerRuns) {code : Nat}
    (lower : code ∈ run.lowerCodes) {row : List Nat} (capital : row ∈ capitals) : code ∉ row := by
  intro inRow
  have inLower := testBit_rowSet (List.mem_map_of_mem member) lower
  have inBoth := congrArg (fun set => set.testBit code) capitals_apart
  simp only [Nat.testBit_and, testBit_rowSet capital inRow, inLower, Nat.zero_testBit] at inBoth
  cases inBoth

/-- The character is its own lower case. -/
def Lowered (c : Char) : Prop :=
  lowerChar c = [c]

instance (c : Char) : Decidable (Lowered c) :=
  inferInstanceAs (Decidable (_ = _))

theorem Lowered.ne_sigma {c : Char} (lowered : Lowered c) : c ≠ 'Σ' := by
  intro sigma
  rw [sigma] at lowered
  exact absurd lowered (by decide)

theorem lowered_of_noCapital {c : Char} (small : ∀ row ∈ capitals, c.toNat ∉ row) :
    Lowered c := by
  rw [capitals, List.forall_mem_cons, List.forall_mem_map] at small
  obtain ⟨notDotted, outside⟩ := small
  have plain : c ≠ '\u0130' := by
    intro dotted
    rw [dotted] at notDotted
    exact notDotted (List.mem_singleton_self _)
  have uncovered : lowerRuns.find? (·.covers c) = none := by
    rw [List.find?_eq_none]
    intro run member covered
    exact outside run member (LowerRun.mem_codes_of_covers covered)
  rw [Lowered, lowerChar, if_neg plain, uncovered]

theorem toNat_ofNat_or (code : Nat) :
    (Char.ofNat code).toNat = code ∨ Char.ofNat code = '\x00' := by
  by_cases valid : code.isValidChar
  · rw [Char.ofNat, dif_pos valid]
    exact Or.inl rfl
  · rw [Char.ofNat, dif_neg valid]
    exact Or.inr rfl

theorem lowered_of_covered {run : LowerRun} (member : run ∈ lowerRuns) {c : Char}
    (covered : run.covers c = true) : Lowered (Char.ofNat (c.toNat + run.shift).toNat) := by
  have lower : (c.toNat + run.shift).toNat ∈ run.lowerCodes :=
    List.mem_map_of_mem (LowerRun.mem_codes_of_covers covered)
  rcases toNat_ofNat_or (c.toNat + run.shift).toNat with image | zero
  · apply lowered_of_noCapital
    intro row capital
    rw [image]
    exact notMem_of_mem_capitals member lower capital
  · rw [zero]
    decide

theorem lowered_of_mem_lowerChar {c d : Char} (member : d ∈ lowerChar c) : Lowered d := by
  unfold lowerChar at member
  split at member
  · rw [List.mem_cons, List.mem_singleton] at member
    rcases member with rfl | rfl
    · decide
    · decide
  · rename_i plain
    split at member
    · rename_i run found
      rw [List.mem_singleton] at member
      have covered := List.find?_some found
      rw [member]
      exact lowered_of_covered (List.mem_of_find?_eq_some found) covered
    · rename_i outside
      rw [List.mem_singleton] at member
      rw [member, Lowered, lowerChar, if_neg plain, outside]

theorem lowered_of_mem_lowerAfter {d : Char} {before cs : List Char}
    (member : d ∈ lowerAfter before cs) : Lowered d := by
  induction cs generalizing before with
  | nil => cases member
  | cons c rest ih =>
      rw [lowerAfter, List.mem_append] at member
      rcases member with here | later
      · split at here
        · split at here
          · rw [List.mem_singleton.mp here]
            decide
          · rw [List.mem_singleton.mp here]
            decide
        · exact lowered_of_mem_lowerChar here
      · exact ih later

theorem lowerAfter_of_lowered {cs : List Char} (lowered : ∀ c ∈ cs, Lowered c)
    (before : List Char) : lowerAfter before cs = cs := by
  induction cs generalizing before with
  | nil => rfl
  | cons c rest ih =>
      rw [List.forall_mem_cons] at lowered
      obtain ⟨first, others⟩ := lowered
      rw [lowerAfter, if_neg first.ne_sigma, first, ih others, List.singleton_append]

/-- A text in lower case stays as it is. -/
theorem lowerCase_lowerCase (cs : List Char) : lowerCase (lowerCase cs) = lowerCase cs := by
  apply lowerAfter_of_lowered
  intro c member
  exact lowered_of_mem_lowerAfter member

end DocFilter.Text
