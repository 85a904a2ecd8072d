import Mathlib.Data.List.Induction
import VolumeReclaim.Proofs.Escapes
import VolumeReclaim.Proofs.LongerValue
import VolumeReclaim.Proofs.Tokens

/-!
Reading what was written. A text that consists of the tokens of a value, whatever white space is put
between them, is read as that value. The induction is on the value; a number needs to know that
something other than a digit follows it, which every token after a value sees to.
-/
set_option autoImplicit false

namespace VolumeReclaim.Json

/-- Values without doubles that can be read back: with so many levels of arrays and objects at most,
each name in an object once, and integers of no more digits than are ever read. -/
inductive Plain : (levels : Nat) → Json → Prop where
  | null (levels : Nat) : Plain levels .null
  | bool (levels : Nat) (value : Bool) : Plain levels (.bool value)
  | int (levels : Nat) {value : Int}
    (short : (Nat.toDigits 10 value.natAbs).length ≤ maxIntegerDigits) : Plain levels (.int value)
  | str (levels : Nat) (value : String) : Plain levels (.str value)
  | arr {levels : Nat} {elements : List Json} (each : ∀ element ∈ elements, Plain levels element) :
    Plain (levels + 1) (.arr elements)
  | obj {levels : Nat} {members : List (String × Json)} (distinct : (members.map Prod.fst).Nodup)
    (each : ∀ member ∈ members, Plain levels member.2) : Plain (levels + 1) (.obj members)

def Settled (text : List Char) : Prop :=
  ∀ c ∈ text.head?, goesOn c = false

/-- Whether tokens may follow a value: there are none, or the first is a delimiter. -/
def Delimited (tokens : List Token) : Prop :=
  ∀ token ∈ tokens.head?, ∃ c ∈ delimiters, token = [c]

/-- A reader makes this of a text that begins with these tokens, and leaves those after them. -/
def ReadsAs {α : Type} (read : Reading α) (spelling : List Token) (meaning : α) : Prop :=
  ∀ ⦃later : List Token⦄ ⦃text : List Char⦄, Delimited later → Spaced (spelling ++ later) text →
    ∃ rest, read (skipSpace text) = .ok (meaning, rest) ∧ Spaced later rest

theorem delimiter_solid : ∀ c ∈ delimiters, isSpace c = false := by
  simp [delimiters, isSpace]

theorem delimiter_ends : ∀ c ∈ delimiters, goesOn c = false := by
  simp [delimiters, goesOn]

theorem Spaced.settled {tokens : List Token} {text : List Char} (spaced : Spaced tokens text)
    (delimited : Delimited tokens) : Settled text := by
  cases spaced with
  | nil => simp [Settled]
  | space c blank _ =>
    rintro d same
    cases same
    simp only [isSpace, Bool.or_eq_true, beq_iff_eq] at blank
    obtain ((rfl | rfl) | rfl) | rfl := blank <;> rfl
  | token token _ =>
    obtain ⟨c, delimiter, rfl⟩ := delimited token rfl
    rintro d same
    cases same
    exact delimiter_ends c delimiter

section Numbers

variable {rest : List Char}

theorem Settled.fraction? (settled : Settled rest) : Decimal.fraction? rest = none := by
  cases rest with
  | nil => rfl
  | cons c tail =>
    refine Decimal.fraction?_of_ne ?_ tail
    rintro rfl
    cases settled '.' rfl

theorem Settled.exponent? (settled : Settled rest) : Decimal.exponent? rest = none := by
  cases rest with
  | nil => rfl
  | cons c tail =>
    refine Decimal.exponent?_of_ne ?_ ?_ tail
    · rintro rfl
      cases settled 'e' rfl
    · rintro rfl
      cases settled 'E' rfl

theorem Settled.spanDigits (settled : Settled rest) {digits : List Char}
    (all : ∀ c ∈ digits, c.isDigit = true) :
    Decimal.spanDigits (digits ++ rest) = (digits, rest) := by
  have stops : rest.takeWhile Char.isDigit = [] ∧ rest.dropWhile Char.isDigit = rest := by
    cases rest with
    | nil => exact ⟨rfl, rfl⟩
    | cons c tail =>
      have plain : c.isDigit = false := by
        have ends := settled c rfl
        simp only [goesOn, Bool.or_eq_false_iff] at ends
        exact ends.1.1.1
      exact ⟨List.takeWhile_cons_of_neg (by simp [plain]),
        List.dropWhile_cons_of_neg (by simp [plain])⟩
  rw [Decimal.spanDigits, List.takeWhile_append_of_pos all, List.dropWhile_append_of_pos all,
    stops.1, stops.2, List.append_nil]

theorem toDigits_leading {n : Nat} (positive : 0 < n) :
    ∃ c tail, Nat.toDigits 10 n = c :: tail ∧ c ≠ '0' := by
  induction n using Nat.strongRecOn with
  | ind n ih =>
    rw [Nat.toDigits_eq_if (by decide)]
    split
    · next small =>
      have nonzero : ∀ digit < 10, 0 < digit → Nat.digitChar digit ≠ '0' := by decide
      exact ⟨_, [], rfl, nonzero n small positive⟩
    · next large =>
      obtain ⟨c, tail, leads, nonzero⟩ := ih (n / 10) (by omega) (by omega)
      exact ⟨c, _, by rw [leads]; rfl, nonzero⟩

theorem Settled.wholeDigits (settled : Settled rest) (n : Nat) :
    wholeDigits (Nat.toDigits 10 n ++ rest) = (Nat.toDigits 10 n, rest) := by
  by_cases zero : n = 0
  · subst zero
    rfl
  · obtain ⟨c, tail, leads, nonzero⟩ := toDigits_leading (Nat.pos_of_ne_zero zero)
    have all : ∀ c ∈ Nat.toDigits 10 n, c.isDigit = true :=
      fun c => Nat.isDigit_of_mem_toDigits (by decide) (by decide)
    rw [← settled.spanDigits all, leads]
    exact wholeDigits_of_ne nonzero (tail ++ rest)

theorem Settled.unsignedNumber (settled : Settled rest) (negative : Bool) {n : Nat}
    (short : (Nat.toDigits 10 n).length ≤ maxIntegerDigits) :
    unsignedNumber negative (Nat.toDigits 10 n ++ rest) =
      some (.ok (.int (if negative then -(n : Int) else n), rest)) := by
  have some : (Nat.toDigits 10 n).isEmpty = false := by simp
  have value : Decimal.ofDigits (Nat.toDigits 10 n) = n := Nat.ofDigitChars_ten_toDigits
  rw [unsignedNumber_eq, settled.wholeDigits, some]
  simp only [numeral, settled.fraction?, settled.exponent?, Option.getD_none, Option.isNone_none,
    and_self, if_true, if_neg (Nat.not_lt.mpr short), value, Bool.false_eq_true, if_false]

theorem toDigits_opens (n : Nat) :
    ∃ c tail, Nat.toDigits 10 n = c :: tail ∧ c.isDigit = true := by
  obtain ⟨c, tail, leads⟩ := List.exists_cons_of_ne_nil (Nat.toDigits_ne_nil (n := n) (b := 10))
  refine ⟨c, tail, leads, ?_⟩
  exact Nat.isDigit_of_mem_toDigits (by decide) (by decide) (leads ▸ List.mem_cons_self)

theorem ne_minus_of_isDigit {c : Char} (digit : c.isDigit = true) : c ≠ '-' := by
  rintro rfl
  cases digit

theorem solid_of_startsNumber {c : Char} (starts : startsNumber (c :: rest) = true) :
    isSpace c = false := by
  refine Bool.eq_false_iff.mpr fun blank => ?_
  simp only [isSpace, Bool.or_eq_true, beq_iff_eq] at blank
  obtain ((rfl | rfl) | rfl) | rfl := blank <;> cases starts

theorem Settled.number (settled : Settled rest) {value : Int}
    (short : (Nat.toDigits 10 value.natAbs).length ≤ maxIntegerDigits) :
    number (Decimal.writtenInt value ++ rest) = .ok (.int value, rest) := by
  cases value with
  | ofNat n =>
    obtain ⟨c, tail, leads, digit⟩ := toDigits_opens n
    have read := settled.unsignedNumber false short
    rw [Decimal.writtenInt]
    simp only [Int.natAbs_ofNat', leads, List.cons_append] at read ⊢
    rw [number_of_ne (ne_minus_of_isDigit digit), read]
    rfl
  | negSucc n =>
    have read := settled.unsignedNumber true short
    rw [Decimal.writtenInt, List.cons_append, number_minus]
    simp only [Int.natAbs_negSucc] at read
    rw [read]
    rfl

theorem startsNumber_writtenInt (value : Int) :
    startsNumber (Decimal.writtenInt value ++ rest) = true := by
  cases value with
  | ofNat n =>
    obtain ⟨c, tail, leads, digit⟩ := toDigits_opens n
    rw [Decimal.writtenInt, leads]
    simpa [startsNumber, ne_minus_of_isDigit digit] using digit
  | negSucc n =>
    obtain ⟨c, tail, leads, digit⟩ := toDigits_opens (n + 1)
    rw [Decimal.writtenInt, leads]
    exact digit

end Numbers

section Items

variable {α : Type} {read : Reading α} {meaning : α}

theorem readsAs_token {c : Char} {token : Token} (solid : isSpace c = false)
    (reads : ∀ rest, Settled rest → read (c :: (token ++ rest)) = .ok (meaning, rest)) :
    ReadsAs read [c :: token] meaning := by
  intro later text delimited spaced
  obtain ⟨rest, same, after⟩ := spaced.skipSpace_eq solid
  exact ⟨rest, by rw [same, reads rest (after.settled delimited)], after⟩

variable {close : Char} {item : Reading α} {spell : α → List Token}

/-- The tokens of the items of a container after the first, up to the one that closes it. -/
def sequelTokens (close : Char) (spell : α → List Token) : List α → List Token
  | [] => [[close]]
  | next :: rest => [','] :: spell next ++ sequelTokens close spell rest

/-- The tokens of the items of a container, up to the one that closes it. -/
def enclosedTokens (close : Char) (spell : α → List Token) : List α → List Token
  | [] => [[close]]
  | first :: rest => spell first ++ sequelTokens close spell rest

theorem delimited_sequelTokens (delimiter : close ∈ delimiters) (items : List α)
    (later : List Token) : Delimited (sequelTokens close spell items ++ later) := by
  cases items with
  | nil =>
    rintro token same
    cases same
    exact ⟨close, delimiter, rfl⟩
  | cons next rest =>
    rintro token same
    cases same
    exact ⟨',', by decide, rfl⟩

theorem readsAs_listed {others : Reading (List α)} {spelling sequel : List Token} {first : α}
    {rest : List α} (one : ReadsAs item spelling first) (more : ReadsAs others sequel rest)
    (follows : ∀ later, Delimited (sequel ++ later)) :
    ReadsAs (listed item others) (spelling ++ sequel) (first :: rest) := by
  intro later text delimited spaced
  rw [List.append_assoc] at spaced
  obtain ⟨behind, taken, spaced⟩ := one (follows later) spaced
  obtain ⟨left, others, spaced⟩ := more delimited spaced
  refine ⟨left, ?_, spaced⟩
  simp only [listed, taken, others, bind, Except.bind, pure, Except.pure]

theorem readsAs_sequel (delimiter : close ∈ delimiters) (comma : ',' ≠ close) {items : List α}
    (each : ∀ one ∈ items, ReadsAs item (spell one) one) {fuel : Nat}
    (enough : items.length < fuel) :
    ReadsAs (sequel close item fuel) (sequelTokens close spell items) items := by
  induction items generalizing fuel with
  | nil =>
    obtain ⟨fuel, rfl⟩ := Nat.exists_eq_add_one_of_ne_zero (Nat.ne_zero_of_lt enough)
    exact readsAs_token (delimiter_solid close delimiter) fun rest _ => if_pos rfl
  | cons next rest ih =>
    obtain ⟨fuel, rfl⟩ := Nat.exists_eq_add_one_of_ne_zero (Nat.ne_zero_of_lt enough)
    obtain ⟨one, others⟩ := List.forall_mem_cons.mp each
    have both := readsAs_listed one (ih others (Nat.lt_of_succ_lt_succ enough))
      (delimited_sequelTokens delimiter rest)
    intro later text delimited spaced
    obtain ⟨behind, same, spaced⟩ := spaced.skipSpace_eq (by decide)
    obtain ⟨left, taken, spaced⟩ := both delimited spaced
    refine ⟨left, ?_, spaced⟩
    rw [same, List.nil_append, sequel, if_neg comma, if_pos rfl, taken]

theorem enclosed_of_spaced (delimiter : close ∈ delimiters) (comma : ',' ≠ close)
    (refuses : ∀ rest, Refused (item (close :: rest))) {items : List α}
    (each : ∀ one ∈ items, ReadsAs item (spell one) one) {size : Nat}
    (enough : items.length < size) {later : List Token} {text : List Char}
    (delimited : Delimited later)
    (spaced : Spaced (enclosedTokens close spell items ++ later) text) :
    ∃ rest, enclosed close item size text = .ok (items, rest) ∧ Spaced later rest := by
  cases items with
  | nil =>
    obtain ⟨rest, same, spaced⟩ := spaced.skipSpace_eq (delimiter_solid close delimiter)
    exact ⟨rest, by rw [enclosed, same]; exact if_pos rfl, spaced⟩
  | cons first rest =>
    obtain ⟨one, others⟩ := List.forall_mem_cons.mp each
    have all := readsAs_listed one
      (readsAs_sequel delimiter comma others (Nat.lt_of_succ_lt enough))
      (delimited_sequelTokens delimiter rest)
    obtain ⟨left, taken, spaced⟩ := all delimited spaced
    refine ⟨left, ?_, spaced⟩
    unfold enclosed
    cases spaced' : skipSpace text with
    | nil =>
      rw [spaced'] at taken
      exact taken
    | cons c tail =>
      rw [spaced'] at taken
      have opens : c ≠ close := by
        rintro rfl
        obtain ⟨violation, place, refused⟩ := (refuses tail).bind _
        exact absurd (refused.symm.trans taken) (by simp)
      exact (if_neg opens).trans taken

theorem readsAs_enclosed {β : Type} {whole : Reading β} (build : List α → β) {opening : Char}
    (solid : isSpace opening = false) (delimiter : close ∈ delimiters) (comma : ',' ≠ close)
    (refuses : ∀ rest, Refused (item (close :: rest))) {items : List α} {size : Nat}
    (opens : ∀ rest items left, enclosed close item size rest = .ok (items, left) →
      whole (opening :: rest) = .ok (build items, left))
    (each : ∀ one ∈ items, ReadsAs item (spell one) one) (few : items.length < size) :
    ReadsAs whole ([opening] :: enclosedTokens close spell items) (build items) := by
  intro later text delimited spaced
  obtain ⟨behind, same, spaced⟩ := spaced.skipSpace_eq solid
  obtain ⟨rest, taken, spaced⟩ :=
    enclosed_of_spaced delimiter comma refuses each few delimited spaced
  exact ⟨rest, by rw [same, List.nil_append, opens behind items rest taken], spaced⟩

end Items

section Values

variable {size levels : Nat}

theorem readsAs_word {word : Token} {meaning : Json} {c : Char} {letters : List Char}
    (spelled : word = c :: letters) (solid : isSpace c = false) (quote : c ≠ '"')
    (bracket : c ≠ '[') (brace : c ≠ '\x7b') (known : word? word = some (meaning, [])) :
    ReadsAs (value size levels) [word] meaning := by
  subst spelled
  refine readsAs_token solid fun rest _ => ?_
  rw [value_scalar size levels quote bracket brace]
  exact scalar_of_word (word?_append known rest).2

theorem value_of_startsNumber {text : List Char} (starts : startsNumber text = true) :
    value size levels text = number text := by
  cases text with
  | nil => cases starts
  | cons c tail =>
    have other : ∀ d, startsNumber (d :: tail) = false → c ≠ d := by
      rintro d ends rfl
      rw [starts] at ends
      cases ends
    rw [value_scalar size levels (other '"' rfl) (other '[' rfl) (other '\x7b' rfl),
      scalar_of_none (word?_of_startsNumber starts)]

theorem readsAs_int {number : Int}
    (short : (Nat.toDigits 10 number.natAbs).length ≤ maxIntegerDigits) :
    ReadsAs (value size levels) [Decimal.writtenInt number] (.int number) := by
  have starts : startsNumber (Decimal.writtenInt number ++ []) = true :=
    startsNumber_writtenInt number
  rw [List.append_nil] at starts
  cases opens : Decimal.writtenInt number with
  | nil => simp [opens, startsNumber] at starts
  | cons c token =>
    have solid : isSpace c = false := by
      rw [opens] at starts
      exact solid_of_startsNumber starts
    refine readsAs_token solid fun rest settled => ?_
    rw [← List.cons_append, ← opens, value_of_startsNumber (startsNumber_writtenInt number),
      settled.number short]

theorem writeString_cons (text : String) : ∃ body, writeString text = '"' :: body :=
  ⟨_, rfl⟩

theorem readsAs_str {text : String} (enough : text.toList.length < size) :
    ReadsAs (value size levels) [writeString text] (.str text) := by
  obtain ⟨body, same⟩ := writeString_cons text
  rw [same]
  refine readsAs_token (by decide) fun rest _ => ?_
  rw [value_quote, ← List.cons_append, ← same, string_writeString text rest enough]
  rfl

def spellMember (member : String × Json) : List Token :=
  writeString member.1 :: [':'] :: member.2.tokens

theorem readsAs_member {read : Reading Json} {name : String} {content : Json}
    (enough : name.toList.length < size) (reads : ReadsAs read content.tokens content) :
    ReadsAs (member size read) (spellMember (name, content)) (name, content) := by
  intro later text delimited spaced
  obtain ⟨body, same⟩ := writeString_cons name
  simp only [spellMember, same, List.cons_append] at spaced
  obtain ⟨behind, opens, spaced⟩ := spaced.skipSpace_eq (by decide)
  obtain ⟨after, colon, spaced⟩ := spaced.skipSpace_eq (by decide)
  obtain ⟨rest, taken, spaced⟩ := reads delimited spaced
  refine ⟨rest, ?_, spaced⟩
  rw [opens, member_quote, ← List.cons_append, ← same, string_writeString name behind enough]
  simp only [bind, Except.bind, colon, List.nil_append, taken, pure, Except.pure]

theorem elementTokens_eq (elements : List Json) :
    elementTokens elements = sequelTokens ']' tokens elements := by
  induction elements with
  | nil => rfl
  | cons next rest ih => rw [elementTokens, sequelTokens, ih]

theorem memberTokens_eq (members : List (String × Json)) :
    memberTokens members = sequelTokens '\x7d' spellMember members := by
  induction members with
  | nil => rfl
  | cons next rest ih =>
    obtain ⟨name, content⟩ := next
    rw [memberTokens, sequelTokens, ih]
    rfl

theorem tokens_arr (elements : List Json) :
    (Json.arr elements).tokens = ['['] :: enclosedTokens ']' tokens elements := by
  cases elements with
  | nil => rfl
  | cons first rest =>
    rw [tokens, enclosedTokens, elementTokens_eq]
    rfl

theorem tokens_obj (members : List (String × Json)) :
    (Json.obj members).tokens = ['\x7b'] :: enclosedTokens '\x7d' spellMember members := by
  cases members with
  | nil => rfl
  | cons first rest =>
    obtain ⟨name, content⟩ := first
    rw [tokens, enclosedTokens, memberTokens_eq]
    rfl

theorem insert_of_not_mem {name : String} {content : Json} {members : List (String × Json)}
    (fresh : name ∉ members.map Prod.fst) :
    insert name content members = members ++ [(name, content)] := by
  induction members with
  | nil => rfl
  | cons first rest ih =>
    obtain ⟨key, old⟩ := first
    simp only [List.map_cons, List.mem_cons, not_or] at fresh
    rw [insert, if_neg (Ne.symm fresh.1), ih fresh.2]
    rfl

theorem ofMembers_of_nodup {members : List (String × Json)}
    (distinct : (members.map Prod.fst).Nodup) : ofMembers members = members := by
  induction members using List.reverseRecOn with
  | nil => rfl
  | append_singleton members last ih =>
    rw [List.map_append, List.nodup_append] at distinct
    obtain ⟨earlier, -, apart⟩ := distinct
    have fresh : last.1 ∉ members.map Prod.fst :=
      fun known => apart _ known _ (by simp) rfl
    have snoc : ofMembers (members ++ [last]) = insert last.1 last.2 (ofMembers members) := by
      simp [ofMembers]
    rw [snoc, ih earlier, insert_of_not_mem fresh]

section Sizes

variable {α : Type} (close : Char) (spell : α → List Token)

theorem length_lt_sequelTokens (items : List α) :
    items.length < (sequelTokens close spell items).flatten.length := by
  induction items with
  | nil => exact Nat.zero_lt_one
  | cons next rest ih =>
    simp only [sequelTokens, List.flatten_cons, List.flatten_append, List.length_append,
      List.length_cons, List.length_nil, List.cons_append]
    omega

theorem length_spell_lt_sequelTokens {items : List α} {one : α} (member : one ∈ items) :
    (spell one).flatten.length < (sequelTokens close spell items).flatten.length := by
  induction items with
  | nil => cases member
  | cons next rest ih =>
    simp only [sequelTokens, List.flatten_cons, List.flatten_append, List.length_append,
      List.length_cons, List.length_nil, List.cons_append]
    rcases List.mem_cons.mp member with rfl | later
    · omega
    · have shorter := ih later
      omega

theorem length_le_enclosedTokens (items : List α) :
    items.length ≤ (enclosedTokens close spell items).flatten.length := by
  cases items with
  | nil => exact Nat.zero_le _
  | cons first rest =>
    have others := length_lt_sequelTokens close spell rest
    simp only [enclosedTokens, List.flatten_append, List.length_append, List.length_cons]
    omega

theorem length_spell_le_enclosedTokens {items : List α} {one : α} (member : one ∈ items) :
    (spell one).flatten.length ≤ (enclosedTokens close spell items).flatten.length := by
  cases items with
  | nil => cases member
  | cons first rest =>
    simp only [enclosedTokens, List.flatten_append, List.length_append]
    rcases List.mem_cons.mp member with rfl | later
    · omega
    · have shorter := length_spell_lt_sequelTokens close spell later
      omega

end Sizes

theorem refused_bracket (rest : List Char) : Refused (value size levels (']' :: rest)) := by
  rw [value_scalar size levels (by decide) (by decide) (by decide), scalar_of_none rfl]
  exact ⟨_, _, rfl⟩

theorem refused_member {read : Reading Json} (rest : List Char) :
    Refused (member size read ('\x7d' :: rest)) := by
  rw [member_of_ne size read (by simp)]
  exact ⟨_, _, rfl⟩

theorem readsAs_plain {content : Json} (plain : Plain levels content)
    (enough : content.tokens.flatten.length < size) :
    ReadsAs (value size levels) content.tokens content := by
  induction plain with
  | null levels =>
    exact readsAs_word rfl (by decide) (by decide) (by decide) (by decide) rfl
  | bool levels truth =>
    cases truth with
    | true => exact readsAs_word rfl (by decide) (by decide) (by decide) (by decide) rfl
    | false => exact readsAs_word rfl (by decide) (by decide) (by decide) (by decide) rfl
  | int levels short => exact readsAs_int short
  | str levels text =>
    have longer := length_writeString text
    simp only [tokens, write, List.flatten_singleton] at enough ⊢
    exact readsAs_str (by omega)
  | @arr levels elements _ ih =>
    rw [tokens_arr] at enough ⊢
    simp only [List.flatten_cons, List.length_append, List.length_singleton] at enough
    have few : elements.length < size := by
      have listed := length_le_enclosedTokens ']' tokens elements
      omega
    have each : ∀ one ∈ elements, ReadsAs (value size levels) one.tokens one := by
      intro one member
      have shorter := length_spell_le_enclosedTokens ']' tokens member
      exact ih one member (by omega)
    refine readsAs_enclosed Json.arr (by decide) (by decide) (by decide) refused_bracket ?_ each few
    intro rest items left taken
    rw [value_array, taken]
    rfl
  | @obj levels members distinct _ ih =>
    rw [tokens_obj] at enough ⊢
    simp only [List.flatten_cons, List.length_append, List.length_singleton] at enough
    have few : members.length < size := by
      have listed := length_le_enclosedTokens '\x7d' spellMember members
      omega
    have each : ∀ one ∈ members,
        ReadsAs (member size (value size levels)) (spellMember one) one := by
      intro one known
      have shorter := length_spell_le_enclosedTokens '\x7d' spellMember known
      have name := length_writeString one.1
      simp only [spellMember, List.flatten_cons, List.length_append] at shorter
      exact readsAs_member (by omega) (ih one known (by omega))
    have whole : ReadsAs (value size (levels + 1))
        (['\x7b'] :: enclosedTokens '\x7d' spellMember members) (.obj (ofMembers members)) := by
      refine readsAs_enclosed (fun written => Json.obj (ofMembers written)) (by decide) (by decide)
        (by decide) refused_member ?_ each few
      intro rest items left taken
      rw [value_object, taken]
      rfl
    rwa [ofMembers_of_nodup distinct] at whole

end Values

section Documents

variable {levels : Nat} {content : Json}

theorem document_of_spaced (plain : Plain levels content) {text : List Char}
    (spaced : Spaced content.tokens text) : document levels text = .ok content := by
  have enough : content.tokens.flatten.length < text.length + 1 :=
    Nat.lt_succ_of_le spaced.length_le
  rw [← List.append_nil content.tokens] at spaced
  obtain ⟨rest, taken, blank⟩ := readsAs_plain plain enough (by simp [Delimited]) spaced
  have unmarked : ∀ rest, text ≠ '\ufeff' :: rest := by
    rintro rest rfl
    have stops : skipSpace ('\ufeff' :: rest) = '\ufeff' :: rest := rfl
    rw [stops, value_scalar _ _ (by decide) (by decide) (by decide), scalar_of_none rfl] at taken
    cases taken
  rw [document_eq levels unmarked, taken]
  simp only [bind, Except.bind, blank.skipSpace_eq_nil, pure, Except.pure]

theorem parse_of_spaced (plain : Plain levels content) {text : String}
    (spaced : Spaced content.tokens text.toList) : parse levels text = .ok content := by
  rw [parse, document_of_spaced plain spaced]

theorem spaced_render (content : Json) : Spaced content.tokens content.render.toList := by
  rw [render, String.toList_ofList]
  exact spaced_write content

theorem parse_render (plain : Plain levels content) :
    parse levels content.render = .ok content :=
  parse_of_spaced plain (spaced_render content)

end Documents

end VolumeReclaim.Json
