import VolumeReclaim.Json.Reader

/-!
What the readers make of a text with more after it. What they read stays read, except where the text
breaks off inside an escape or right behind a number: there the reader that comes next refuses. Each
reader is shown to go on in this way from the readers that it is made of.
-/
set_option autoImplicit false

namespace VolumeReclaim.Json

/-- Whether a text has more digits in a row than an integer may have. -/
def LongNumeral (text : List Char) : Prop :=
  ∃ run, run <:+: text ∧ run.all Char.isDigit = true ∧ maxIntegerDigits < run.length

theorem LongNumeral.mono {part text : List Char} (long : LongNumeral part)
    (inside : part <:+: text) : LongNumeral text := by
  obtain ⟨run, within, digits, size⟩ := long
  exact ⟨run, within.trans inside, digits, size⟩

def Refused {α : Type} (outcome : Except Stop α) : Prop :=
  ∃ violation rest, outcome = .error (.violation violation rest)

/-- What comes of a text, and what comes of it with more after it. What is read stays read unless
reading ends at a loose end. -/
inductive Continued {α : Type} (Loose : List Char → Prop) (more text : List Char) :
    (short long : Except Stop (α × List Char)) → Prop where
  | read {value : α} {rest : List Char} (left : rest <:+ text) :
      Continued Loose more text (.ok (value, rest)) (.ok (value, rest ++ more))
  | loose {value : α} {rest : List Char} (dangling : Loose rest)
      (long : Except Stop (α × List Char)) : Continued Loose more text (.ok (value, rest)) long
  | refused (violation : Violation) (rest : List Char) (long : Except Stop (α × List Char)) :
      Continued Loose more text (.error (.violation violation rest)) long
  | tooLong (numeral : LongNumeral text) (long : Except Stop (α × List Char)) :
      Continued Loose more text (.error .integerTooLong) long
  | tooDeep : Continued Loose more text (.error .nestedTooDeep) (.error .nestedTooDeep)

def Never : List Char → Prop := fun _ => False

section Relation

variable {α β : Type} {Loose Loose' : List Char → Prop} {more text : List Char}

theorem Refused.continued {short long : Except Stop (α × List Char)} (refused : Refused short) :
    Continued Loose more text short long := by
  obtain ⟨violation, rest, rfl⟩ := refused
  exact .refused violation rest long

theorem Continued.widen {part : List Char} {short long : Except Stop (α × List Char)}
    (continued : Continued Loose more part short long) (inside : part <:+ text) :
    Continued Loose more text short long := by
  cases continued with
  | read left => exact .read (left.trans inside)
  | loose dangling long => exact .loose dangling long
  | refused violation rest long => exact .refused violation rest long
  | tooLong numeral long => exact .tooLong (numeral.mono inside.isInfix) long
  | tooDeep => exact .tooDeep

theorem Continued.settled {short long : Except Stop (α × List Char)}
    (continued : Continued Never more text short long) : Continued Loose more text short long := by
  cases continued with
  | read left => exact .read left
  | loose dangling long => exact dangling.elim
  | refused violation rest long => exact .refused violation rest long
  | tooLong numeral long => exact .tooLong numeral long
  | tooDeep => exact .tooDeep

theorem Continued.bind {first first' : Except Stop (α × List Char)}
    {next next' : α × List Char → Except Stop (β × List Char)}
    (continued : Continued Loose more text first first')
    (stuck : ∀ value rest, Loose rest → Refused (next (value, rest)))
    (goes : ∀ value rest,
      Continued Loose' more rest (next (value, rest)) (next' (value, rest ++ more))) :
    Continued Loose' more text (first >>= next) (first' >>= next') := by
  cases continued with
  | read left => exact (goes _ _).widen left
  | loose dangling long => exact (stuck _ _ dangling).continued
  | refused violation rest long => exact .refused violation rest _
  | tooLong numeral long => exact .tooLong numeral _
  | tooDeep => exact .tooDeep

theorem Continued.map {read read' : Except Stop (α × List Char)}
    (continued : Continued Loose more text read read') (change : α → β) :
    Continued Loose more text
      (read >>= fun (value, rest) => .ok (change value, rest))
      (read' >>= fun (value, rest) => .ok (change value, rest)) := by
  cases continued with
  | read left => exact .read left
  | loose dangling long => exact .loose dangling _
  | refused violation rest long => exact .refused violation rest _
  | tooLong numeral long => exact .tooLong numeral _
  | tooDeep => exact .tooDeep

/-- A reader that refuses to read nothing, and goes on where there is more. -/
structure Steady (Loose : List Char → Prop) (read read' : Reading α) : Prop where
  nothing : Refused (read [])
  goes : ∀ more text, Continued Loose more text (read text) (read' (text ++ more))

theorem skipSpace_suffix (text : List Char) : skipSpace text <:+ text :=
  List.dropWhile_suffix _

theorem skipSpace_append {first : Char} {rest : List Char} (spaced : skipSpace text = first :: rest)
    (more : List Char) : skipSpace (text ++ more) = first :: (rest ++ more) := by
  unfold skipSpace at spaced ⊢
  rw [List.dropWhile_append, spaced]
  rfl

theorem Steady.afterSpace {read read' : Reading α} (steady : Steady Loose read read')
    (more text : List Char) :
    Continued Loose more text (read (skipSpace text)) (read' (skipSpace (text ++ more))) := by
  cases spaced : skipSpace text with
  | nil => exact steady.nothing.continued
  | cons first rest =>
    rw [skipSpace_append spaced]
    exact (steady.goes more (first :: rest)).widen (spaced ▸ skipSpace_suffix text)

end Relation

section Strings

def Torn (text : List Char) : Prop :=
  ∀ opening fuel, Refused (stringBody opening fuel text)

theorem stringBody_cons (opening : List Char) (fuel : Nat) {c : Char} (inside : c ≠ '"')
    (rest : List Char) :
    stringBody opening (fuel + 1) (c :: rest) = (do
      let (first, rest) ← character opening (c :: rest)
      let (more, rest) ← stringBody opening fuel rest
      return (first :: more, rest)) := by
  rw [stringBody]
  intro _ same
  cases same
  exact inside rfl

theorem torn_nil : Torn [] := by
  intro opening fuel
  cases fuel with
  | zero => exact ⟨_, _, rfl⟩
  | succ fuel => exact ⟨_, _, rfl⟩

theorem torn_backslash : Torn ['\\'] := by
  intro opening fuel
  cases fuel with
  | zero => exact ⟨_, _, rfl⟩
  | succ fuel => exact ⟨_, _, rfl⟩

theorem torn_unit {digits : List Char} (few : digits.length ≤ 4) :
    Torn ('\\' :: 'u' :: digits) := by
  intro opening fuel
  cases fuel with
  | zero => exact ⟨_, _, rfl⟩
  | succ fuel =>
    rcases digits with _ | ⟨a, _ | ⟨b, _ | ⟨c, _ | ⟨d, _ | ⟨next, rest⟩⟩⟩⟩⟩
    case cons.cons.cons.cons.cons =>
      simp only [List.length_cons] at few
      omega
    all_goals exact ⟨_, _, rfl⟩

theorem lowSurrogate?_append {text rest : List Char} {low : Nat}
    (found : lowSurrogate? text = some (low, rest)) (more : List Char) :
    rest <:+ text ∧ lowSurrogate? (text ++ more) = some (low, rest ++ more) := by
  unfold lowSurrogate? at found
  split at found
  · next a b c d next tail =>
    split at found
    · next unit hex =>
      split at found
      · next isLow =>
        cases found
        refine ⟨⟨['\\', 'u', a, b, c, d], rfl⟩, ?_⟩
        simp only [lowSurrogate?, List.cons_append, hex, isLow, if_true]
      · cases found
    · cases found
  · cases found

theorem lowSurrogate?_of_ne {text : List Char}
    (other : ∀ digits, text ≠ '\\' :: 'u' :: digits) : lowSurrogate? text = none := by
  unfold lowSurrogate?
  split
  · exact absurd rfl (other _)
  · rfl

theorem lowSurrogate?_none {text : List Char} (absent : lowSurrogate? text = none)
    (more : List Char) : Torn text ∨ lowSurrogate? (text ++ more) = none := by
  rcases text with _ | ⟨c, text⟩
  · exact .inl torn_nil
  by_cases backslash : c = '\\'
  case neg =>
    exact .inr (lowSurrogate?_of_ne fun _ same => backslash (List.cons.inj same).1)
  subst backslash
  rcases text with _ | ⟨d, digits⟩
  · exact .inl torn_backslash
  by_cases unit : d = 'u'
  case neg =>
    exact .inr (lowSurrogate?_of_ne fun _ same => unit (List.cons.inj (List.cons.inj same).2).1)
  subst unit
  rcases digits with _ | ⟨a, _ | ⟨b, _ | ⟨c, _ | ⟨d, _ | ⟨next, rest⟩⟩⟩⟩⟩
  case cons.cons.cons.cons.cons =>
    right
    simp only [lowSurrogate?, List.cons_append] at absent ⊢
    cases hex : Text.hexValue4? a b c d with
    | none => rfl
    | some unit =>
      cases low : isLowSurrogate unit with
      | false => simp [low]
      | true => simp [hex, low] at absent
  all_goals exact .inl (torn_unit (by simp))

theorem continued_ofUnit (unit : Nat) (more text : List Char) :
    Continued Torn more text (.ok (ofUnit unit text)) (.ok (ofUnit unit (text ++ more))) := by
  unfold ofUnit
  split
  · cases found : lowSurrogate? text with
    | some pair =>
      obtain ⟨low, rest⟩ := pair
      obtain ⟨left, kept⟩ := lowSurrogate?_append found more
      rw [kept]
      exact .read left
    | none =>
      obtain torn | absent := lowSurrogate?_none found more
      · exact .loose torn _
      · rw [absent]
        exact .read (List.suffix_refl text)
  · exact .read (List.suffix_refl text)

theorem continued_unicodeEscape (more text : List Char) :
    Continued Torn more text (unicodeEscape text) (unicodeEscape (text ++ more)) := by
  unfold unicodeEscape
  split
  · next a b c d next rest =>
    simp only [List.cons_append]
    cases Text.hexValue4? a b c d with
    | none => exact .refused _ _ _
    | some unit =>
      exact (continued_ofUnit unit more (next :: rest)).widen ⟨[a, b, c, d], rfl⟩
  · exact .refused _ _ _

theorem continued_escape (opening opening' more text : List Char) :
    Continued Torn more text (escape opening text) (escape opening' (text ++ more)) := by
  cases text with
  | nil => exact .refused _ _ _
  | cons c rest =>
    rw [List.cons_append, escape, escape]
    split
    · exact (continued_unicodeEscape more rest).widen (List.suffix_cons c rest)
    · cases unescape? c with
      | none => exact .refused _ _ _
      | some plain => exact .read (List.suffix_cons c rest)

theorem continued_character (opening opening' more text : List Char) :
    Continued Torn more text (character opening text) (character opening' (text ++ more)) := by
  cases text with
  | nil => exact .refused _ _ _
  | cons c rest =>
    rw [List.cons_append, character, character]
    split
    · exact (continued_escape opening opening' more rest).widen (List.suffix_cons c rest)
    · split
      · exact .refused _ _ _
      · exact .read (List.suffix_cons c rest)

theorem continued_stringBody (opening opening' more : List Char) {fuel fuel' : Nat}
    (enough : fuel ≤ fuel') (text : List Char) :
    Continued Never more text (stringBody opening fuel text)
      (stringBody opening' fuel' (text ++ more)) := by
  induction fuel generalizing text fuel' with
  | zero => exact .refused _ _ _
  | succ fuel ih =>
    obtain ⟨fuel', rfl⟩ := Nat.exists_eq_add_one_of_ne_zero (Nat.ne_zero_of_lt enough)
    cases text with
    | nil => exact .refused _ _ _
    | cons c rest =>
      by_cases quote : c = '"'
      · subst quote
        exact .read (List.suffix_cons _ rest)
      · rw [List.cons_append, stringBody_cons _ _ quote, stringBody_cons _ _ quote,
          ← List.cons_append]
        refine (continued_character opening opening' more (c :: rest)).bind ?_ ?_
        · intro value rest torn
          obtain ⟨violation, at', refused⟩ := torn opening fuel
          exact ⟨violation, at', by simp only [refused]; rfl⟩
        · intro value rest
          refine (ih (Nat.le_of_succ_le_succ enough) rest).bind nofun ?_
          intro body rest
          exact .read (List.suffix_refl rest)

theorem continued_string {size size' : Nat} (enough : size ≤ size') (more rest : List Char) :
    Continued Never more ('"' :: rest) (string size ('"' :: rest))
      (string size' ('"' :: rest ++ more)) := by
  refine ((continued_stringBody _ _ more enough rest).bind nofun ?_).widen (List.suffix_cons _ rest)
  intro body rest
  exact .read (List.suffix_refl rest)

end Strings

end VolumeReclaim.Json
