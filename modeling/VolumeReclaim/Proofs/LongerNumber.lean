import VolumeReclaim.Proofs.LongerText

/-!
Numbers and words with more text after them. A word stays a word. A number stays the same number
unless it ends where the text does, or in front of a character that may go on with it.
-/
set_option autoImplicit false

namespace VolumeReclaim

namespace Decimal

variable {text rest : List Char} {c : Char}

theorem spanDigits_suffix (text : List Char) : (spanDigits text).2 <:+ text :=
  List.dropWhile_suffix _

/-- The digits at the start of a text are the same with more after it if they end before it does. -/
theorem spanDigits_append (ended : (spanDigits text).2 ≠ []) (more : List Char) :
    spanDigits (text ++ more) = ((spanDigits text).1, (spanDigits text).2 ++ more) := by
  unfold spanDigits at ended ⊢
  dsimp only at ended ⊢
  have stops : (text.takeWhile Char.isDigit).length ≠ text.length := by
    intro all
    have whole : (text.takeWhile Char.isDigit ++ text.dropWhile Char.isDigit).length =
        text.length := by
      rw [List.takeWhile_append_dropWhile]
    rw [List.length_append] at whole
    exact ended (List.eq_nil_of_length_eq_zero (by omega))
  rw [List.takeWhile_append, if_neg stops, List.dropWhile_append, if_neg (by simpa using ended)]

theorem fraction?_point (tail : List Char) : fraction? ('.' :: tail) =
    if (spanDigits tail).1.isEmpty then none else some (spanDigits tail) :=
  rfl

theorem fraction?_of_ne (other : c ≠ '.') (tail : List Char) : fraction? (c :: tail) = none := by
  unfold fraction?
  split
  · next same => exact absurd (List.cons.inj same).1 other
  · rfl

theorem fraction?_append {digits : List Char} (found : fraction? text = some (digits, rest)) :
    rest <:+ text ∧
      ∀ more, rest ≠ [] → fraction? (text ++ more) = some (digits, rest ++ more) := by
  cases text with
  | nil => cases found
  | cons c tail =>
    by_cases point : c = '.'
    case neg =>
      rw [fraction?_of_ne point] at found
      cases found
    subst point
    rw [fraction?_point] at found
    split at found
    · cases found
    · next some =>
      have spanned : spanDigits tail = (digits, rest) := Option.some.inj found
      have left : (spanDigits tail).2 <:+ tail := spanDigits_suffix tail
      rw [spanned] at left some
      refine ⟨left.trans (List.suffix_cons _ _), fun more ended => ?_⟩
      have behind : (spanDigits tail).2 ≠ [] := by
        rw [spanned]
        exact ended
      rw [List.cons_append, fraction?_point, spanDigits_append behind, spanned, if_neg some]

/-- Whether a power of ten has a sign, and the text after that. -/
def sign : List Char → Bool × List Char
  | '-' :: rest => (true, rest)
  | '+' :: rest => (false, rest)
  | rest => (false, rest)

theorem exponent?_cons (c : Char) (tail : List Char) : exponent? (c :: tail) =
    if c = 'e' ∨ c = 'E' then
      if (spanDigits (sign tail).2).1.isEmpty then none
      else
        let size : Int := ofDigits (spanDigits (sign tail).2).1
        some (if (sign tail).1 then -size else size, (spanDigits (sign tail).2).2)
    else none := by
  rfl

theorem sign_append (some : text ≠ []) (more : List Char) :
    (sign text).2 <:+ text ∧ sign (text ++ more) = ((sign text).1, (sign text).2 ++ more) := by
  cases text with
  | nil => exact absurd rfl some
  | cons d tail =>
    by_cases minus : d = '-'
    · subst minus
      exact ⟨List.suffix_cons _ _, rfl⟩
    by_cases plus : d = '+'
    · subst plus
      exact ⟨List.suffix_cons _ _, rfl⟩
    have plain : ∀ rest, sign (d :: rest) = (false, d :: rest) := by
      intro rest
      unfold sign
      split
      · next same => exact absurd (List.cons.inj same).1 minus
      · next same => exact absurd (List.cons.inj same).1 plus
      · rfl
    rw [List.cons_append, plain, plain]
    exact ⟨List.suffix_refl _, rfl⟩

theorem exponent?_of_ne (lower : c ≠ 'e') (upper : c ≠ 'E') (tail : List Char) :
    exponent? (c :: tail) = none := by
  rw [exponent?_cons, if_neg]
  rintro (same | same)
  · exact lower same
  · exact upper same

theorem exponent?_letter {found : Int × List Char} (some : exponent? text = some found) :
    ∃ c tail, text = c :: tail ∧ (c = 'e' ∨ c = 'E') := by
  cases text with
  | nil => cases some
  | cons c tail =>
    rw [exponent?_cons] at some
    split at some
    · next letter => exact ⟨c, tail, rfl, letter⟩
    · cases some

theorem exponent?_append {power : Int} (found : exponent? text = some (power, rest)) :
    rest <:+ text ∧
      ∀ more, rest ≠ [] → exponent? (text ++ more) = some (power, rest ++ more) := by
  cases text with
  | nil => cases found
  | cons c tail =>
    rw [exponent?_cons] at found
    split at found
    case isFalse => cases found
    next letter =>
    split at found
    · cases found
    · next some =>
      injection found with same
      obtain ⟨rfl, rfl⟩ := Prod.mk.inj same
      have nonempty : tail ≠ [] := by
        rintro rfl
        exact some rfl
      refine ⟨((spanDigits_suffix _).trans (sign_append nonempty []).1).trans
        (List.suffix_cons _ _), fun more ended => ?_⟩
      rw [List.cons_append, exponent?_cons, (sign_append nonempty more).2, if_pos letter,
        spanDigits_append ended, if_neg some]

end Decimal

namespace Json

def goesOn (c : Char) : Bool :=
  c.isDigit || c == '.' || c == 'e' || c == 'E'

/-- Whether a number in front of a text may go on in it or, at the end of the text, behind it. -/
def Open (text : List Char) : Prop :=
  text.head?.all goesOn = true

def numeral (negative : Bool) (digits rest : List Char) : Except Stop (Json × List Char) :=
  let (fraction, afterFraction) := (Decimal.fraction? rest).getD ([], rest)
  let (exponent, afterExponent) := (Decimal.exponent? afterFraction).getD (0, afterFraction)
  if (Decimal.fraction? rest).isNone ∧ (Decimal.exponent? afterFraction).isNone then
    if maxIntegerDigits < digits.length then .error .integerTooLong
    else
      let size : Int := Decimal.ofDigits digits
      .ok (.int (if negative then -size else size), rest)
  else
    let value := Decimal.nearest negative (Decimal.ofDigits (digits ++ fraction))
      (exponent - fraction.length)
    .ok (.float value, afterExponent)

/-- The digits of the whole part of a number, and the text after them. A zero stands alone. -/
def wholeDigits : List Char → List Char × List Char
  | '0' :: rest => (['0'], rest)
  | text => Decimal.spanDigits text

theorem unsignedNumber_eq (negative : Bool) (text : List Char) : unsignedNumber negative text =
    if (wholeDigits text).1.isEmpty then none
    else some (numeral negative (wholeDigits text).1 (wholeDigits text).2) := by
  unfold numeral
  dsimp only
  rw [apply_ite some, apply_ite some]
  rfl

theorem not_open {rest : List Char} (closed : ¬ Open rest) : ∃ c tail, rest = c :: tail ∧
    c.isDigit = false ∧ c ≠ '.' ∧ c ≠ 'e' ∧ c ≠ 'E' := by
  cases rest with
  | nil => exact absurd rfl closed
  | cons c tail =>
    have stops : goesOn c = false := Bool.eq_false_iff.mpr closed
    simp only [goesOn, Bool.or_eq_false_iff, beq_eq_false_iff_ne] at stops
    exact ⟨c, tail, rfl, stops.1.1.1, stops.1.1.2, stops.1.2, stops.2⟩

def afterFraction (rest : List Char) : List Char :=
  ((Decimal.fraction? rest).getD ([], rest)).2

def afterExponent (rest : List Char) : List Char :=
  ((Decimal.exponent? rest).getD (0, rest)).2

theorem afterFraction_suffix (rest : List Char) : afterFraction rest <:+ rest := by
  unfold afterFraction
  cases found : Decimal.fraction? rest with
  | none => exact List.suffix_refl rest
  | some part => exact (Decimal.fraction?_append found).1

theorem afterExponent_suffix (rest : List Char) : afterExponent rest <:+ rest := by
  unfold afterExponent
  cases found : Decimal.exponent? rest with
  | none => exact List.suffix_refl rest
  | some part => exact (Decimal.exponent?_append found).1

theorem exponent?_closed {rest : List Char} (closed : ¬ Open (afterExponent rest))
    (more : List Char) : Decimal.exponent? (rest ++ more) =
      (Decimal.exponent? rest).map fun (power, after) => (power, after ++ more) := by
  unfold afterExponent at closed
  cases found : Decimal.exponent? rest with
  | none =>
    rw [found] at closed
    obtain ⟨c, tail, rfl, -, -, lower, upper⟩ := not_open closed
    exact Decimal.exponent?_of_ne lower upper _
  | some part =>
    rw [found] at closed
    obtain ⟨c, tail, nonempty, -⟩ := not_open closed
    have behind : part.2 = c :: tail := nonempty
    exact (Decimal.exponent?_append found).2 more (behind ▸ List.cons_ne_nil c tail)

theorem pointless_of_closed {rest : List Char} (closed : ¬ Open (afterExponent rest)) :
    ∃ c tail, rest = c :: tail ∧ c ≠ '.' := by
  unfold afterExponent at closed
  cases found : Decimal.exponent? rest with
  | none =>
    rw [found] at closed
    obtain ⟨c, tail, same, -, point, -⟩ := not_open closed
    exact ⟨c, tail, same, point⟩
  | some part =>
    obtain ⟨c, tail, same, letter⟩ := Decimal.exponent?_letter found
    refine ⟨c, tail, same, ?_⟩
    rintro rfl
    simp at letter

theorem fraction?_closed {rest : List Char}
    (closed : ¬ Open (afterExponent (afterFraction rest))) (more : List Char) :
    Decimal.fraction? (rest ++ more) =
      (Decimal.fraction? rest).map fun (digits, after) => (digits, after ++ more) := by
  obtain ⟨c, tail, same, point⟩ := pointless_of_closed closed
  unfold afterFraction at same
  cases found : Decimal.fraction? rest with
  | none =>
    rw [found] at same
    dsimp only [Option.getD_none] at same
    rw [same]
    exact Decimal.fraction?_of_ne point _
  | some part =>
    rw [found] at same
    dsimp only [Option.getD_some] at same
    exact (Decimal.fraction?_append found).2 more (by simp [same])

theorem numeral_cases (negative : Bool) (digits rest : List Char) :
    (maxIntegerDigits < digits.length ∧ numeral negative digits rest = .error .integerTooLong) ∨
      ∃ content, numeral negative digits rest =
        .ok (content, afterExponent (afterFraction rest)) := by
  unfold numeral afterExponent afterFraction
  dsimp only
  split
  · next whole =>
    simp only [Option.isNone_iff_eq_none] at whole
    split
    · next long => exact .inl ⟨long, rfl⟩
    · rw [whole.2, whole.1]
      exact .inr ⟨_, rfl⟩
  · exact .inr ⟨_, rfl⟩

/-- Behind a numeral that ends in front of what cannot go on with it, more text changes nothing. -/
theorem numeral_closed {rest : List Char} (closed : ¬ Open (afterExponent (afterFraction rest)))
    (negative : Bool) (digits more : List Char) : numeral negative digits (rest ++ more) =
      (numeral negative digits rest).map fun (content, after) => (content, after ++ more) := by
  have fraction := fraction?_closed closed more
  have exponent := exponent?_closed closed more
  unfold afterFraction at exponent
  cases found : Decimal.fraction? rest with
  | none =>
    rw [found] at fraction exponent
    dsimp only [Option.getD_none] at exponent
    cases power : Decimal.exponent? rest with
    | none =>
      rw [power] at exponent
      simp only [numeral, fraction, exponent, found, power, Option.map_none, Option.getD_none,
        Option.isNone_none, and_self, if_true]
      split <;> rfl
    | some part =>
      rw [power] at exponent
      simp [numeral, fraction, exponent, found, power, Except.map]
  | some part =>
    rw [found] at fraction exponent
    dsimp only [Option.getD_some] at exponent
    cases power : Decimal.exponent? part.2 with
    | none =>
      rw [power] at exponent
      simp [numeral, fraction, exponent, found, power, Except.map]
    | some after =>
      rw [power] at exponent
      simp [numeral, fraction, exponent, found, power, Except.map]

theorem continued_numeral (negative : Bool) {digits rest : List Char} (more text : List Char)
    (numbers : digits.all Char.isDigit = true) (whole : text = digits ++ rest) :
    Continued Open more text (numeral negative digits rest)
      (numeral negative digits (rest ++ more)) := by
  obtain ⟨size, short⟩ | ⟨content, short⟩ := numeral_cases negative digits rest
  · rw [short]
    exact .tooLong ⟨digits, whole ▸ (List.prefix_append digits rest).isInfix, numbers, size⟩ _
  · by_cases closed : Open (afterExponent (afterFraction rest))
    · rw [short]
      exact .loose closed _
    · rw [numeral_closed closed, short]
      refine .read ?_
      exact ((afterExponent_suffix _).trans (afterFraction_suffix _)).trans
        (whole ▸ List.suffix_append digits rest)

theorem wholeDigits_of_ne {c : Char} (other : c ≠ '0') (tail : List Char) :
    wholeDigits (c :: tail) = Decimal.spanDigits (c :: tail) := by
  unfold wholeDigits
  split
  · next same => exact absurd (List.cons.inj same).1 other
  · rfl

theorem wholeDigits_split (text : List Char) :
    (wholeDigits text).1.all Char.isDigit = true ∧
      text = (wholeDigits text).1 ++ (wholeDigits text).2 := by
  have plain : (Decimal.spanDigits text).1.all Char.isDigit = true ∧
      text = (Decimal.spanDigits text).1 ++ (Decimal.spanDigits text).2 :=
    ⟨List.all_takeWhile, List.takeWhile_append_dropWhile.symm⟩
  unfold wholeDigits
  split
  · exact ⟨rfl, rfl⟩
  · exact plain

theorem wholeDigits_append {text : List Char} (ended : (wholeDigits text).2 ≠ [])
    (more : List Char) :
    wholeDigits (text ++ more) = ((wholeDigits text).1, (wholeDigits text).2 ++ more) := by
  cases text with
  | nil => exact absurd rfl ended
  | cons c tail =>
    by_cases zero : c = '0'
    · subst zero
      rfl
    · rw [List.cons_append, wholeDigits_of_ne zero, wholeDigits_of_ne zero, ← List.cons_append]
      rw [wholeDigits_of_ne zero] at ended
      exact Decimal.spanDigits_append ended more

theorem continued_unsignedNumber (negative : Bool) (more text : List Char) (violation : Violation)
    (rest : List Char) (other : Except Stop (Json × List Char)) :
    Continued Open more text
      ((unsignedNumber negative text).getD (.error (.violation violation rest)))
      ((unsignedNumber negative (text ++ more)).getD other) := by
  obtain ⟨numbers, whole⟩ := wholeDigits_split text
  rw [unsignedNumber_eq, unsignedNumber_eq]
  split
  · exact .refused _ _ _
  · next some =>
    by_cases ended : (wholeDigits text).2 = []
    · rw [ended, List.append_nil] at whole
      rw [ended, Option.getD_some]
      obtain ⟨size, short⟩ | ⟨content, short⟩ := numeral_cases negative (wholeDigits text).1 []
      · have all : (wholeDigits text).1 <:+: text := whole ▸ List.infix_refl _
        rw [short]
        exact .tooLong ⟨_, all, numbers, size⟩ _
      · have ending : Open (afterExponent (afterFraction [])) := rfl
        rw [short]
        exact .loose ending _
    · rw [wholeDigits_append ended, if_neg some]
      exact continued_numeral negative more text numbers whole

theorem number_minus (tail : List Char) : number ('-' :: tail) =
    (unsignedNumber true tail).getD (.error (.violation .value ('-' :: tail))) :=
  rfl

theorem number_of_ne {c : Char} (other : c ≠ '-') (tail : List Char) : number (c :: tail) =
    (unsignedNumber false (c :: tail)).getD (.error (.violation .value (c :: tail))) := by
  unfold number
  split
  · next same => exact absurd (List.cons.inj same).1 other
  · rfl

theorem continued_number (more text : List Char) :
    Continued Open more text (number text) (number (text ++ more)) := by
  cases text with
  | nil => exact .refused _ _ _
  | cons c tail =>
    by_cases minus : c = '-'
    · subst minus
      rw [List.cons_append, number_minus, number_minus]
      exact (continued_unsignedNumber true more tail _ _ _).widen (List.suffix_cons _ tail)
    · rw [List.cons_append, number_of_ne minus, number_of_ne minus, ← List.cons_append]
      exact continued_unsignedNumber false more (c :: tail) _ _ _

/-- The word at the start of a text, and the text after it. -/
def word? (text : List Char) : Option (Json × List Char) :=
  words.findSome? fun (word, meaning) => (after? word text).map (meaning, ·)

theorem after?_eq_some {word text rest : List Char} :
    after? word text = some rest ↔ text = word ++ rest := by
  induction word generalizing text with
  | nil => simp [after?]
  | cons c word ih =>
    cases text with
    | nil => simp [after?]
    | cons d text =>
      by_cases same : c = d
      · subst same
        simp [after?, ih]
      · simp [after?, same, Ne.symm same]

theorem word?_eq_some {text rest : List Char} {meaning : Json}
    (found : word? text = some (meaning, rest)) :
    ∃ before word after, words = before ++ (word, meaning) :: after ∧ text = word ++ rest ∧
      ∀ other ∈ before, after? other.1 text = none := by
  obtain ⟨before, ⟨word, value⟩, after, listed, read, missed⟩ :=
    List.findSome?_eq_some_iff.mp found
  obtain ⟨left, read, same⟩ := Option.map_eq_some_iff.mp read
  cases same
  refine ⟨before, word, after, listed, after?_eq_some.mp read, fun other member => ?_⟩
  exact Option.map_eq_none_iff.mp (missed other member)

theorem words_apart : ∀ word ∈ words.map Prod.fst, ∀ other ∈ words.map Prod.fst,
    word.head? = other.head? → word = other := by
  decide +kernel

theorem words_nonempty : ∀ word ∈ words.map Prod.fst, word ≠ [] := by
  decide +kernel

theorem word?_append {text rest : List Char} {meaning : Json}
    (found : word? text = some (meaning, rest)) (more : List Char) :
    rest <:+ text ∧ word? (text ++ more) = some (meaning, rest ++ more) := by
  obtain ⟨before, word, after, listed, rfl, missed⟩ := word?_eq_some found
  have here : word ∈ words.map Prod.fst := by simp [listed]
  refine ⟨List.suffix_append word rest, ?_⟩
  refine List.findSome?_eq_some_iff.mpr ⟨before, (word, meaning), after, listed, ?_, ?_⟩
  · dsimp only
    rw [after?_eq_some.mpr (List.append_assoc word rest more)]
    rfl
  · intro other member
    have there : other.1 ∈ words.map Prod.fst :=
      List.mem_map_of_mem (listed ▸ List.mem_append_left _ member)
    rw [Option.map_eq_none_iff, Option.eq_none_iff_forall_ne_some]
    intro left read
    have whole := after?_eq_some.mp read
    have heads : other.1.head? = word.head? := by
      obtain ⟨c, first, begins⟩ := List.exists_cons_of_ne_nil (words_nonempty _ there)
      obtain ⟨d, second, opens⟩ := List.exists_cons_of_ne_nil (words_nonempty _ here)
      rw [begins, opens, List.cons_append, List.cons_append, List.cons_append] at whole
      rw [begins, opens, (List.cons.inj whole).1]
      rfl
    have same : other.1 = word := words_apart _ there _ here heads
    have absent := missed other member
    rw [after?_eq_some.mpr (same ▸ rfl : word ++ rest = other.1 ++ rest)] at absent
    cases absent

/-- Whether a text begins with a digit or with a minus sign in front of one. -/
def startsNumber : List Char → Bool
  | '-' :: d :: _ => d.isDigit
  | c :: _ => c.isDigit
  | [] => false

theorem startsNumber_append {text : List Char} (two : 2 ≤ text.length) (more : List Char) :
    startsNumber (text ++ more) = startsNumber text := by
  rcases text with _ | ⟨c, _ | ⟨d, tail⟩⟩
  · simp at two
  · simp at two
  · by_cases minus : c = '-'
    · subst minus
      rfl
    · simp [startsNumber, minus]

theorem words_start : ∀ word ∈ words.map Prod.fst, 2 ≤ word.length ∧ startsNumber word = false := by
  decide +kernel

theorem word?_of_startsNumber {text : List Char} (starts : startsNumber text = true) :
    word? text = none := by
  rw [Option.eq_none_iff_forall_ne_some]
  rintro ⟨meaning, rest⟩ found
  obtain ⟨before, word, after, listed, rfl, -⟩ := word?_eq_some found
  obtain ⟨two, lettered⟩ := words_start word (by simp [listed])
  rw [startsNumber_append two, lettered] at starts
  cases starts

theorem unsignedNumber_starts (negative : Bool) (text : List Char) :
    unsignedNumber negative text = none ∨ ∃ c tail, text = c :: tail ∧ c.isDigit = true := by
  obtain ⟨numbers, whole⟩ := wholeDigits_split text
  rw [unsignedNumber_eq]
  cases begins : (wholeDigits text).1 with
  | nil => exact .inl rfl
  | cons c digits =>
    rw [begins] at numbers whole
    rw [List.all_cons, Bool.and_eq_true] at numbers
    exact .inr ⟨c, _, whole, numbers.1⟩

theorem startsNumber_of_number (text : List Char) :
    Refused (number text) ∨ ∀ more, startsNumber (text ++ more) = true := by
  cases text with
  | nil => exact .inl ⟨_, _, rfl⟩
  | cons c tail =>
    by_cases minus : c = '-'
    · subst minus
      rw [number_minus]
      obtain none | ⟨d, digits, rfl, digit⟩ := unsignedNumber_starts true tail
      · rw [none]
        exact .inl ⟨_, _, rfl⟩
      · exact .inr fun _ => digit
    · rw [number_of_ne minus]
      obtain none | ⟨d, digits, same, digit⟩ := unsignedNumber_starts false (c :: tail)
      · rw [none]
        exact .inl ⟨_, _, rfl⟩
      · cases same
        exact .inr fun _ => by simpa [startsNumber, minus] using digit

theorem scalar_of_word {text : List Char} {found : Json × List Char}
    (word : word? text = some found) : scalar text = .ok found := by
  unfold word? at word
  rw [scalar, word]

theorem scalar_of_none {text : List Char} (wordless : word? text = none) :
    scalar text = number text := by
  unfold word? at wordless
  rw [scalar, wordless]

theorem continued_scalar (more text : List Char) :
    Continued Open more text (scalar text) (scalar (text ++ more)) := by
  cases found : word? text with
  | some pair =>
    obtain ⟨left, kept⟩ := word?_append found more
    rw [scalar_of_word found, scalar_of_word kept]
    exact .read left
  | none =>
    rw [scalar_of_none found]
    obtain refused | starts := startsNumber_of_number text
    · exact refused.continued
    · rw [scalar_of_none (word?_of_startsNumber (starts more))]
      exact continued_number more text

end Json

end VolumeReclaim
