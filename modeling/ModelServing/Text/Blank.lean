/-!
# Blank text

The characters with the Unicode property `White_Space`, and texts made of nothing else.

* `Blank c` is the property, `blank_of_isWhitespace` says that the blanks of the core library are among them;
* `Text.isBlank` says that a text has only blanks (the empty text included), `Text.skipBlanks` drops the leading ones.
-/

namespace ModelServing.Text

/-- The character has the property `White_Space`. -/
def Blank (c : Char) : Prop :=
  (0x9 ≤ c.toNat ∧ c.toNat ≤ 0xD) ∨ c.toNat = 0x20 ∨ c.toNat = 0x85 ∨ c.toNat = 0xA0 ∨ c.toNat = 0x1680 ∨
    (0x2000 ≤ c.toNat ∧ c.toNat ≤ 0x200A) ∨ c.toNat = 0x2028 ∨ c.toNat = 0x2029 ∨ c.toNat = 0x202F ∨
    c.toNat = 0x205F ∨ c.toNat = 0x3000

instance (c : Char) : Decidable (Blank c) := by unfold Blank; infer_instance

/-- A text without any character that is not blank. -/
def isBlank (s : String) : Bool := s.toList.all fun c => decide (Blank c)

/-- The characters from the first one that is not blank. -/
def skipBlanks (cs : List Char) : List Char := cs.dropWhile fun c => decide (Blank c)

theorem blank_of_isWhitespace {c : Char} (h : c.isWhitespace = true) : Blank c := by
  simp only [Char.isWhitespace, Bool.or_eq_true, decide_eq_true_eq] at h
  rcases h with ((h | h) | h) | h <;> subst h <;> decide

theorem isBlank_iff {s : String} : isBlank s = true ↔ ∀ c ∈ s.toList, Blank c := by
  simp [isBlank, List.all_eq_true]

theorem isBlank_eq_false_iff {s : String} : isBlank s = false ↔ ∃ c ∈ s.toList, ¬ Blank c := by
  rw [← Bool.not_eq_true, isBlank_iff]
  simp

end ModelServing.Text
