import Mathlib.Data.List.TakeWhile
import VolumeReclaim.Text.Blank

/-!
Words in trimmed text. Taking the blanks off both ends of a text neither makes nor breaks an
occurrence of a word that has no blank at its own ends.
-/
set_option autoImplicit false

namespace VolumeReclaim.Text

/-- One text is what is left of another between the blanks at both ends. -/
structure Trimmed (text core : List Char) : Prop where
  around : ∃ front back, text = front ++ core ++ back ∧
    (∀ c ∈ front, isBlank c = true) ∧ ∀ c ∈ back, isBlank c = true
  first : ∀ c, core.head? = some c → isBlank c = false
  last : ∀ c, core.getLast? = some c → isBlank c = false

theorem occursIn_iff (word text : List Char) : occursIn word text = true ↔ word <:+: text := by
  induction text with
  | nil => simp [occursIn]
  | cons c rest ih =>
    rw [occursIn, Bool.or_eq_true, ih, List.isPrefixOf_iff_prefix, List.infix_cons_iff]

section Trim

variable {drop : Char → Bool} {text core : List Char}

theorem head?_dropWhile {c : Char} (first : (text.dropWhile drop).head? = some c) :
    drop c = false := by
  have kept := List.head?_dropWhile_not drop text
  rw [first] at kept
  exact kept

theorem trimEnds_append (drop : Char → Bool) (text : List Char) :
    trimEnds drop text ++ ((text.dropWhile drop).reverse.takeWhile drop).reverse =
      text.dropWhile drop := by
  rw [trimEnds, ← List.reverse_append, List.takeWhile_append_dropWhile, List.reverse_reverse]

theorem head?_trimEnds {c : Char} (first : (trimEnds drop text).head? = some c) :
    drop c = false := by
  have starts : (text.dropWhile drop).head? = some c := by
    rw [← trimEnds_append, List.head?_append, first]
    rfl
  exact head?_dropWhile starts

theorem getLast?_trimEnds {c : Char} (last : (trimEnds drop text).getLast? = some c) :
    drop c = false := by
  rw [trimEnds, List.getLast?_reverse] at last
  exact head?_dropWhile last

theorem trimmed_strip (text : String) : Trimmed text.toList (strip text).toList := by
  rw [strip, String.toList_ofList]
  refine ⟨⟨text.toList.takeWhile isBlank,
    ((text.toList.dropWhile isBlank).reverse.takeWhile isBlank).reverse, ?_, ?_, ?_⟩,
    fun _ => head?_trimEnds, fun _ => getLast?_trimEnds⟩
  · rw [List.append_assoc, trimEnds_append, List.takeWhile_append_dropWhile]
  · exact fun c member => List.mem_takeWhile_imp member
  · exact fun c member => List.mem_takeWhile_imp (List.mem_reverse.mp member)

theorem infix_of_infix_append {front word : List Char} {c : Char}
    (first : word.head? = some c) (outside : c ∉ front) (occurs : word <:+: front ++ text) :
    word <:+: text := by
  induction front with
  | nil => exact occurs
  | cons other front ih =>
    rw [List.mem_cons, not_or] at outside
    rw [List.cons_append, List.infix_cons_iff] at occurs
    rcases occurs with begins | occurs
    · cases word with
      | nil => cases first
      | cons head rest =>
        have same : head = other := (List.cons_prefix_cons.mp begins).1
        have named : head = c := Option.some.inj first
        exact absurd (named.symm.trans same) outside.1
    · exact ih outside.2 occurs

theorem Trimmed.infix_iff (trimmed : Trimmed text core) {word : List Char} {c d : Char}
    (first : word.head? = some c) (firstPlain : isBlank c = false)
    (last : word.getLast? = some d) (lastPlain : isBlank d = false) :
    word <:+: text ↔ word <:+: core := by
  obtain ⟨front, back, rfl, blankFront, blankBack⟩ := trimmed.around
  constructor
  · intro occurs
    have outside : c ∉ front := fun member => by simp [blankFront c member] at firstPlain
    have outside' : d ∉ back := fun member => by simp [blankBack d member] at lastPlain
    rw [List.append_assoc] at occurs
    have behind := infix_of_infix_append first outside occurs
    rw [← List.reverse_infix, List.reverse_append] at behind
    have between := infix_of_infix_append (List.head?_reverse.trans last)
      (fun member => outside' (List.mem_reverse.mp member)) behind
    exact List.reverse_infix.mp between
  · intro occurs
    exact occurs.trans ⟨front, back, rfl⟩

end Trim

end VolumeReclaim.Text
