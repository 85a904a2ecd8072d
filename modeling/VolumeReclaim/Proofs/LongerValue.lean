import VolumeReclaim.Proofs.LongerNumber

/-!
Arrays, objects and values with more text after them. A container that has been closed stays what it
is, and one that is still open is refused where its text ends. The induction is on the levels of
nesting, and inside one level on the turns of the loop over elements or members.
-/
set_option autoImplicit false

namespace VolumeReclaim.Json

section Sequences

variable {α : Type}

def listed (item : Reading α) (others : Reading (List α)) : Reading (List α) := fun text => do
  let (first, rest) ← item text
  let (more, rest) ← others (skipSpace rest)
  return (first :: more, rest)

/-- The items of a container after the first, up to the character that closes it. -/
def sequel (close : Char) (item : Reading α) : (fuel : Nat) → Reading (List α)
  | 0, text => .error (.violation .comma text)
  | _ + 1, [] => .error (.violation .comma [])
  | fuel + 1, c :: rest =>
    if c = close then .ok ([], rest)
    else if c = ',' then listed item (sequel close item fuel) (skipSpace rest)
    else .error (.violation .comma (c :: rest))

/-- The items of a container, up to the character that closes it. -/
def enclosed (close : Char) (item : Reading α) (size : Nat) (text : List Char) :
    Except Stop (List α × List Char) :=
  match skipSpace text with
  | [] => listed item (sequel close item size) []
  | c :: rest =>
    if c = close then .ok ([], rest) else listed item (sequel close item size) (c :: rest)

theorem eq_sequel {close : Char} {item : Reading α} {loop : Nat → Reading (List α)}
    (spent : ∀ text, loop 0 text = .error (.violation .comma text))
    (closed : ∀ fuel rest, loop (fuel + 1) (close :: rest) = .ok ([], rest))
    (comma : ∀ fuel rest, loop (fuel + 1) (',' :: rest) = listed item (loop fuel) (skipSpace rest))
    (other : ∀ fuel text, (∀ rest, text ≠ close :: rest) → (∀ rest, text ≠ ',' :: rest) →
      loop (fuel + 1) text = .error (.violation .comma text)) (fuel : Nat) :
    loop fuel = sequel close item fuel := by
  induction fuel with
  | zero => exact funext spent
  | succ fuel ih =>
    funext text
    cases text with
    | nil => exact other fuel [] nofun nofun
    | cons c rest =>
      rw [sequel]
      split
      · next same => exact same ▸ closed fuel rest
      · next differs =>
        split
        · next same => rw [same, comma, ih]
        · next differs' =>
          exact other fuel _ (fun _ same => differs (List.cons.inj same).1)
            fun _ same => differs' (List.cons.inj same).1

theorem moreElements_eq (element : Reading Json) (fuel : Nat) :
    moreElements element fuel = sequel ']' element fuel := by
  refine eq_sequel (fun _ => rfl) (fun _ _ => rfl) (fun _ _ => rfl) ?_ fuel
  intro fuel text closed comma
  unfold moreElements
  split
  · exact absurd rfl (closed _)
  · exact absurd rfl (comma _)
  · rfl

theorem moreMembers_eq (member : Reading (String × Json)) (fuel : Nat) :
    moreMembers member fuel = sequel '\x7d' member fuel := by
  refine eq_sequel (fun _ => rfl) (fun _ _ => rfl) (fun _ _ => rfl) ?_ fuel
  intro fuel text closed comma
  unfold moreMembers
  split
  · exact absurd rfl (closed _)
  · exact absurd rfl (comma _)
  · rfl

theorem eq_enclosed {close : Char} {item : Reading α} {size : Nat} {read : Reading (List α)}
    (closed : ∀ text rest, skipSpace text = close :: rest → read text = .ok ([], rest))
    (other : ∀ text, (∀ rest, skipSpace text ≠ close :: rest) →
      read text = listed item (sequel close item size) (skipSpace text)) :
    read = enclosed close item size := by
  funext text
  unfold enclosed
  cases spaced : skipSpace text with
  | nil => rw [other text (by simp [spaced]), spaced]
  | cons c rest =>
    dsimp only
    split
    · next same => exact closed text rest (same ▸ spaced)
    · next differs =>
      rw [other text (fun _ same => differs (List.cons.inj (spaced.symm.trans same)).1), spaced]

theorem elements_eq (size : Nat) (element : Reading Json) :
    elements size element = enclosed ']' element size := by
  apply eq_enclosed
  · intro text rest spaced
    rw [elements, spaced]
    rfl
  · intro text other
    rw [← moreElements_eq]
    unfold elements
    split
    · next spaced => exact absurd spaced (other _)
    · rfl

theorem members_eq (size : Nat) (content : Reading Json) :
    members size content = enclosed '\x7d' (member size content) size := by
  apply eq_enclosed
  · intro text rest spaced
    rw [members, spaced]
    rfl
  · intro text other
    rw [← moreMembers_eq]
    unfold members
    split
    · next spaced => exact absurd spaced (other _)
    · rfl

end Sequences

section Containers

variable {α : Type} {Loose : List Char → Prop} {item item' : Reading α}

/-- The characters that stand between values and behind them. -/
def delimiters : List Char := [',', ':', ']', '\x7d']

theorem skipSpace_open {rest : List Char} (ending : Open rest) :
    skipSpace rest = rest ∧ ∀ c ∈ delimiters, rest.head? ≠ some c := by
  cases rest with
  | nil => exact ⟨rfl, by simp⟩
  | cons c tail =>
    have goes : goesOn c = true := ending
    constructor
    · refine List.dropWhile_cons_of_neg fun blank => ?_
      simp only [isSpace, Bool.or_eq_true, beq_iff_eq] at blank
      obtain ((rfl | rfl) | rfl) | rfl := blank <;> cases goes
    · intro d delimiter same
      cases same
      simp only [delimiters, List.mem_cons, List.not_mem_nil, or_false] at delimiter
      obtain rfl | rfl | rfl | rfl := delimiter <;> cases goes

theorem Refused.bind {β : Type} {outcome : Except Stop α} (refused : Refused outcome)
    (next : α → Except Stop β) : Refused (outcome >>= next) := by
  obtain ⟨violation, rest, rfl⟩ := refused
  exact ⟨violation, rest, rfl⟩

theorem refused_sequel {close : Char} (delimiter : close ∈ delimiters)
    (item : Reading α) (fuel : Nat) {rest : List Char} (ending : Open rest) :
    Refused (sequel close item fuel (skipSpace rest)) := by
  obtain ⟨same, other⟩ := skipSpace_open ending
  rw [same]
  cases fuel with
  | zero => exact ⟨_, _, rfl⟩
  | succ fuel =>
    cases rest with
    | nil => exact ⟨_, _, rfl⟩
    | cons c tail =>
      have open' : c ≠ close := fun same => other close delimiter (same ▸ rfl)
      have last : c ≠ ',' := fun same => other ',' (by decide) (same ▸ rfl)
      rw [sequel, if_neg open', if_neg last]
      exact ⟨_, _, rfl⟩

theorem steady_listed {others others' : Reading (List α)} (steady : Steady Open item item')
    (steadily : Steady Never others others')
    (stuck : ∀ rest, Open rest → Refused (others (skipSpace rest))) :
    Steady Never (listed item others) (listed item' others') where
  nothing := steady.nothing.bind _
  goes more text := by
    refine (steady.goes more text).bind (fun _ rest ending => (stuck rest ending).bind _) ?_
    intro first rest
    refine (steadily.afterSpace more rest).bind nofun ?_
    intro left rest
    exact .read (List.suffix_refl rest)

theorem steady_sequel {close : Char} (delimiter : close ∈ delimiters)
    (steady : Steady Open item item') {fuel fuel' : Nat} (enough : fuel ≤ fuel') :
    Steady Never (sequel close item fuel) (sequel close item' fuel') := by
  induction fuel generalizing fuel' with
  | zero => exact ⟨⟨_, _, rfl⟩, fun _ _ => .refused _ _ _⟩
  | succ fuel ih =>
    obtain ⟨fuel', rfl⟩ := Nat.exists_eq_add_one_of_ne_zero (Nat.ne_zero_of_lt enough)
    refine ⟨⟨_, _, rfl⟩, fun more text => ?_⟩
    cases text with
    | nil => exact .refused _ _ _
    | cons c rest =>
      rw [List.cons_append, sequel, sequel]
      split
      · exact .read (List.suffix_cons c rest)
      · split
        · have others := steady_listed steady (ih (Nat.le_of_succ_le_succ enough))
            fun _ => refused_sequel delimiter item fuel
          exact (others.afterSpace more rest).widen (List.suffix_cons c rest)
        · exact .refused _ _ _

theorem steady_enclosed {close : Char} (delimiter : close ∈ delimiters)
    (steady : Steady Open item item') {size size' : Nat} (enough : size ≤ size') :
    Steady Never (enclosed close item size) (enclosed close item' size') := by
  have all := steady_listed steady (steady_sequel delimiter steady enough)
    fun _ => refused_sequel delimiter item size
  refine ⟨all.nothing, fun more text => ?_⟩
  unfold enclosed
  cases spaced : skipSpace text with
  | nil => exact all.nothing.continued
  | cons c rest =>
    rw [skipSpace_append spaced]
    refine Continued.widen ?_ (spaced ▸ skipSpace_suffix text)
    dsimp only
    split
    · exact .read (List.suffix_cons c rest)
    · exact all.goes more (c :: rest)

end Containers

section Values

variable {content content' : Reading Json} {size size' : Nat}

theorem member_quote (size : Nat) (content : Reading Json) (rest : List Char) :
    member size content ('"' :: rest) = (do
      let (name, rest) ← string size ('"' :: rest)
      match skipSpace rest with
      | ':' :: rest => do
        let (content, rest) ← content (skipSpace rest)
        return ((name, content), rest)
      | rest => .error (.violation .colon rest)) :=
  rfl

theorem member_of_ne (size : Nat) (content : Reading Json) {text : List Char}
    (other : ∀ rest, text ≠ '"' :: rest) :
    member size content text = .error (.violation .propertyName text) := by
  unfold member
  split
  · exact absurd rfl (other _)
  · rfl

theorem steady_member (steady : Steady Open content content') (enough : size ≤ size') :
    Steady Open (member size content) (member size' content') where
  nothing := ⟨_, _, rfl⟩
  goes more text := by
    by_cases quoted : ∃ rest, text = '"' :: rest
    case neg =>
      rw [member_of_ne size content fun rest same => quoted ⟨rest, same⟩]
      exact .refused _ _ _
    obtain ⟨rest, rfl⟩ := quoted
    rw [List.cons_append, member_quote, member_quote]
    refine (continued_string enough more rest).bind nofun ?_
    intro name rest
    dsimp only
    cases spaced : skipSpace rest with
    | nil => exact .refused _ _ _
    | cons c tail =>
      rw [skipSpace_append spaced]
      refine Continued.widen ?_ (spaced ▸ skipSpace_suffix rest)
      split
      · next colon =>
        cases colon
        exact ((steady.afterSpace more _).map fun value => (name, value)).widen
          (List.suffix_cons _ _)
      · exact .refused _ _ _

theorem value_quote (size levels : Nat) (rest : List Char) : value size levels ('"' :: rest) =
    (do let (content, rest) ← string size ('"' :: rest); return (.str content, rest)) := by
  cases levels <;> rfl

theorem value_scalar (size levels : Nat) {c : Char} (quote : c ≠ '"') (bracket : c ≠ '[')
    (brace : c ≠ '\x7b') (rest : List Char) :
    value size levels (c :: rest) = scalar (c :: rest) := by
  unfold value
  split
  · next same => exact absurd (List.cons.inj same).1 quote
  · next same => exact absurd (List.cons.inj same).1 bracket
  · next same => exact absurd (List.cons.inj same).1 brace
  · next same => exact absurd (List.cons.inj same).1 bracket
  · next same => exact absurd (List.cons.inj same).1 brace
  · rfl

theorem value_array (size levels : Nat) (rest : List Char) :
    value size (levels + 1) ('[' :: rest) = (do
      let (items, rest) ← enclosed ']' (value size levels) size rest
      return (.arr items, rest)) := by
  rw [← elements_eq]
  rfl

theorem value_object (size levels : Nat) (rest : List Char) :
    value size (levels + 1) ('\x7b' :: rest) = (do
      let (written, rest) ← enclosed '\x7d' (member size (value size levels)) size rest
      return (.obj (ofMembers written), rest)) := by
  rw [← members_eq]
  rfl

theorem continued_text (levels : Nat) (enough : size ≤ size') (more rest : List Char) :
    Continued Open more ('"' :: rest) (value size levels ('"' :: rest))
      (value size' levels ('"' :: rest ++ more)) := by
  rw [List.cons_append, value_quote, value_quote]
  exact ((continued_string enough more rest).map Json.str).settled

theorem continued_array {levels : Nat}
    (steady : Steady Open (value size levels) (value size' levels)) (enough : size ≤ size')
    (more rest : List Char) :
    Continued Never more ('[' :: rest) (value size (levels + 1) ('[' :: rest))
      (value size' (levels + 1) ('[' :: rest ++ more)) := by
  have closes : ']' ∈ delimiters := by decide
  have items := (steady_enclosed closes steady enough).goes more rest
  rw [List.cons_append, value_array, value_array]
  exact (items.map Json.arr).widen (List.suffix_cons _ rest)

theorem continued_object {levels : Nat}
    (steady : Steady Open (value size levels) (value size' levels)) (enough : size ≤ size')
    (more rest : List Char) :
    Continued Never more ('\x7b' :: rest) (value size (levels + 1) ('\x7b' :: rest))
      (value size' (levels + 1) ('\x7b' :: rest ++ more)) := by
  have closes : '\x7d' ∈ delimiters := by decide
  have written := (steady_enclosed closes (steady_member steady enough) enough).goes more rest
  rw [List.cons_append, value_object, value_object]
  exact (written.map fun written => Json.obj (ofMembers written)).widen (List.suffix_cons _ rest)

theorem continued_plain (levels : Nat) {c : Char} (quote : c ≠ '"') (bracket : c ≠ '[')
    (brace : c ≠ '\x7b') (more rest : List Char) :
    Continued Open more (c :: rest) (value size levels (c :: rest))
      (value size' levels (c :: rest ++ more)) := by
  rw [List.cons_append, value_scalar size levels quote bracket brace,
    value_scalar size' levels quote bracket brace]
  exact continued_scalar more (c :: rest)

theorem refused_value (size levels : Nat) : Refused (value size levels []) := by
  cases levels <;> exact ⟨_, _, rfl⟩

theorem steady_of_containers (levels : Nat) (enough : size ≤ size')
    (array : ∀ more rest, Continued Open more ('[' :: rest) (value size levels ('[' :: rest))
      (value size' levels ('[' :: rest ++ more)))
    (object : ∀ more rest, Continued Open more ('\x7b' :: rest) (value size levels ('\x7b' :: rest))
      (value size' levels ('\x7b' :: rest ++ more))) :
    Steady Open (value size levels) (value size' levels) := by
  refine ⟨refused_value size levels, fun more text => ?_⟩
  rcases text with _ | ⟨c, rest⟩
  · exact (refused_value size levels).continued
  by_cases quote : c = '"'
  · exact quote ▸ continued_text levels enough more rest
  by_cases bracket : c = '['
  · exact bracket ▸ array more rest
  by_cases brace : c = '\x7b'
  · exact brace ▸ object more rest
  exact continued_plain levels quote bracket brace more rest

theorem steady_value (levels : Nat) (enough : size ≤ size') :
    Steady Open (value size levels) (value size' levels) := by
  induction levels with
  | zero =>
    exact steady_of_containers 0 enough (fun _ _ => .tooDeep) fun _ _ => .tooDeep
  | succ levels ih =>
    exact steady_of_containers (levels + 1) enough
      (fun more rest => (continued_array ih enough more rest).settled)
      fun more rest => (continued_object ih enough more rest).settled

theorem document_eq (levels : Nat) {text : List Char}
    (plain : ∀ rest, text ≠ '\ufeff' :: rest) :
    document levels text = (do
      let (content, rest) ← value (text.length + 1) levels (skipSpace text)
      match skipSpace rest with
      | [] => return content
      | rest => .error (.violation .trailingData rest)) := by
  unfold document
  split
  · exact absurd rfl (plain _)
  · rfl

end Values

end VolumeReclaim.Json
