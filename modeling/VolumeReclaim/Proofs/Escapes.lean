import Mathlib.Tactic.SplitIfs
import VolumeReclaim.Json.Writer
import VolumeReclaim.Proofs.LongerText

/-!
Strings as they are written. A character is written as itself or escaped, always in printable ASCII,
and read back as the same character; what follows it never changes how it is read. So a string is
read back up to its closing quote, whatever comes after that.
-/
set_option autoImplicit false

namespace VolumeReclaim

namespace Text

def Visible (c : Char) : Prop :=
  ' ' ≤ c ∧ c ≤ '~'

instance (c : Char) : Decidable (Visible c) :=
  inferInstanceAs (Decidable (_ ∧ _))

theorem hexValue?_digitChar : ∀ digit < 16, hexValue? (Nat.digitChar digit) = some digit := by
  decide

theorem visible_digitChar : ∀ digit < 16, Visible (Nat.digitChar digit) := by
  decide

theorem hex_four {n : Nat} (small : n < 0x10000) :
    ∃ a b c d, hex 4 n = [a, b, c, d] ∧ hexValue4? a b c d = some n := by
  refine ⟨_, _, _, _, rfl, ?_⟩
  have digit : ∀ m : Nat, hexValue? (Nat.digitChar (m % 16)) = some (m % 16) :=
    fun m => hexValue?_digitChar _ (Nat.mod_lt m (by decide))
  simp only [hexValue4?, digit, Option.bind_eq_bind, Option.bind_some, Option.pure_def,
    Option.some.injEq]
  omega

theorem visible_hex (width n : Nat) : ∀ c ∈ hex width n, Visible c := by
  induction width generalizing n with
  | zero => exact List.forall_mem_nil _
  | succ width ih =>
    rw [hex, List.forall_mem_append]
    exact ⟨ih (n / 16), List.forall_mem_singleton.mpr
      (visible_digitChar _ (Nat.mod_lt n (by decide)))⟩

end Text

namespace Json

section Units

theorem toNat_lt (c : Char) : c.toNat < 0x110000 := by
  rcases c.valid with small | ⟨-, bounded⟩
  · exact Nat.lt_trans small (by decide)
  · exact bounded

variable {unit : Nat} (next : Char) (rest : List Char)

theorem unicodeEscape_hex (small : unit < 0x10000) :
    unicodeEscape (Text.hex 4 unit ++ next :: rest) = .ok (ofUnit unit (next :: rest)) := by
  obtain ⟨a, b, c, d, digits, value⟩ := Text.hex_four small
  rw [digits]
  simp only [List.cons_append, List.nil_append, unicodeEscape, value]

theorem character_escapeUnit (opening : List Char) (small : unit < 0x10000) :
    character opening (escapeUnit unit ++ next :: rest) = .ok (ofUnit unit (next :: rest)) :=
  unicodeEscape_hex next rest small

theorem escapeUnit_cons (unit : Nat) : ∃ first others, escapeUnit unit = first :: others :=
  ⟨_, _, rfl⟩

theorem lowSurrogate?_escapeUnit (small : unit < 0x10000) (low : isLowSurrogate unit = true) :
    lowSurrogate? (escapeUnit unit ++ next :: rest) = some (unit, next :: rest) := by
  obtain ⟨a, b, c, d, digits, value⟩ := Text.hex_four small
  rw [escapeUnit, digits]
  simp only [List.cons_append, List.nil_append, lowSurrogate?, value, low, if_true]

theorem ofUnit_toNat {c : Char} (small : c.toNat < 0x10000) (text : List Char) :
    ofUnit c.toNat text = (c, text) := by
  have scalar : c.toNat < 0xd800 ∨ 0xdfff < c.toNat := c.valid.imp id And.left
  have notHigh : isHighSurrogate c.toNat = false := by
    simp only [isHighSurrogate, Bool.and_eq_false_iff, decide_eq_false_iff_not]
    omega
  have notLow : isLowSurrogate c.toNat = false := by
    simp only [isLowSurrogate, Bool.and_eq_false_iff, decide_eq_false_iff_not]
    omega
  simp [ofUnit, loneUnit, notHigh, notLow]

theorem ofUnit_pair {c : Char} (large : 0x10000 ≤ c.toNat) :
    ofUnit (0xd800 + (c.toNat - 0x10000) / 0x400)
      (escapeUnit (0xdc00 + (c.toNat - 0x10000) % 0x400) ++ next :: rest) = (c, next :: rest) := by
  have bound := toNat_lt c
  have high : isHighSurrogate (0xd800 + (c.toNat - 0x10000) / 0x400) = true := by
    simp only [isHighSurrogate, Bool.and_eq_true, decide_eq_true_eq]
    omega
  have low : isLowSurrogate (0xdc00 + (c.toNat - 0x10000) % 0x400) = true := by
    simp only [isLowSurrogate, Bool.and_eq_true, decide_eq_true_eq]
    omega
  have joined : 0x10000 + (0xd800 + (c.toNat - 0x10000) / 0x400 - 0xd800) * 0x400 +
      (0xdc00 + (c.toNat - 0x10000) % 0x400 - 0xdc00) = c.toNat := by
    omega
  rw [ofUnit, if_pos high, lowSurrogate?_escapeUnit next rest (by omega) low]
  simp only [joinSurrogates, joined, Char.ofNat_toNat]

end Units

section Characters

inductive Escaped (c : Char) : List Char → Prop where
  | short {letter : Char} (means : unescape? letter = some c) (one : Text.Visible letter) :
      Escaped c ['\\', letter]
  | plain (visible : Text.Visible c) (quote : c ≠ '"') (backslash : c ≠ '\\') : Escaped c [c]
  | unit (small : c.toNat < 0x10000) : Escaped c (escapeUnit c.toNat)
  | pair (large : 0x10000 ≤ c.toNat) :
      Escaped c (escapeUnit (0xd800 + (c.toNat - 0x10000) / 0x400) ++
        escapeUnit (0xdc00 + (c.toNat - 0x10000) % 0x400))

theorem escaped_escapeChar (c : Char) : Escaped c (escapeChar c) := by
  unfold escapeChar
  split_ifs with quote backslash newline return' tab feed back plain small
  · exact .short (by simp [quote, unescape?]) (by decide)
  · exact .short (by simp [backslash, unescape?]) (by decide)
  · exact .short (by simp [newline, unescape?]) (by decide)
  · exact .short (by simp [return', unescape?]) (by decide)
  · exact .short (by simp [tab, unescape?]) (by decide)
  · exact .short (by simp [feed, unescape?]) (by decide)
  · exact .short (by simp [back, unescape?]) (by decide)
  · exact .plain plain quote backslash
  · exact .unit small
  · exact .pair (Nat.not_lt.mp small)

variable {c : Char} {spelling : List Char}

theorem Escaped.visible (escaped : Escaped c spelling) : ∀ d ∈ spelling, Text.Visible d := by
  have unit : ∀ n, ∀ d ∈ escapeUnit n, Text.Visible d := by
    intro n
    rw [escapeUnit, List.forall_mem_cons, List.forall_mem_cons]
    exact ⟨by decide, by decide, Text.visible_hex 4 n⟩
  cases escaped with
  | short means one => simpa using ⟨by decide, one⟩
  | plain visible quote backslash => simpa using visible
  | unit small => exact unit c.toNat
  | pair large => exact List.forall_mem_append.mpr ⟨unit _, unit _⟩

theorem Escaped.opens (escaped : Escaped c spelling) :
    ∃ first others, spelling = first :: others ∧ first ≠ '"' := by
  cases escaped with
  | short means one => exact ⟨_, _, rfl, by decide⟩
  | plain visible quote backslash => exact ⟨_, _, rfl, quote⟩
  | unit small => exact ⟨_, _, rfl, by decide⟩
  | pair large => exact ⟨_, _, rfl, by decide⟩

theorem Escaped.read (escaped : Escaped c spelling) (opening : List Char) (next : Char)
    (rest : List Char) :
    character opening (spelling ++ next :: rest) = .ok (c, next :: rest) := by
  cases escaped with
  | @short letter means one =>
    have short : letter ≠ 'u' := by
      rintro rfl
      cases means
    have after : character opening ('\\' :: letter :: next :: rest) =
        escape opening (letter :: next :: rest) := rfl
    rw [List.cons_append, List.singleton_append, after, escape, if_neg short, means]
  | plain visible quote backslash =>
    have shown : ¬ c < ' ' := Char.not_lt.mpr visible.1
    rw [List.singleton_append, character, if_neg backslash, if_neg shown]
  | unit small =>
    rw [character_escapeUnit next rest opening small, ofUnit_toNat small]
  | pair large =>
    have bound := toNat_lt c
    have joined := ofUnit_pair next rest large
    obtain ⟨first, others, low⟩ := escapeUnit_cons (0xdc00 + (c.toNat - 0x10000) % 0x400)
    rw [List.append_assoc]
    rw [low, List.cons_append] at joined ⊢
    rw [character_escapeUnit first _ opening (by omega), joined]

end Characters

section Strings

theorem stringBody_escaped (opening : List Char) (cs rest : List Char) {fuel : Nat}
    (enough : cs.length < fuel) :
    stringBody opening fuel (cs.flatMap escapeChar ++ '"' :: rest) = .ok (cs, rest) := by
  induction cs generalizing fuel with
  | nil =>
    obtain ⟨fuel, rfl⟩ := Nat.exists_eq_add_one_of_ne_zero (Nat.ne_zero_of_lt enough)
    rfl
  | cons c cs ih =>
    obtain ⟨fuel, rfl⟩ := Nat.exists_eq_add_one_of_ne_zero (Nat.ne_zero_of_lt enough)
    have body := ih (Nat.lt_of_succ_lt_succ enough)
    have escaped := escaped_escapeChar c
    obtain ⟨first, others, opens, inside⟩ := escaped.opens
    rw [List.flatMap_cons, List.append_assoc]
    generalize cs.flatMap escapeChar ++ '"' :: rest = after at body ⊢
    cases after with
    | nil =>
      obtain ⟨violation, place, refused⟩ := torn_nil opening fuel
      rw [refused] at body
      cases body
    | cons next tail =>
      have read := escaped.read opening next tail
      rw [opens, List.cons_append] at read ⊢
      rw [stringBody_cons opening fuel inside, read]
      change (stringBody opening fuel (next :: tail) >>= _) = _
      rw [body]
      rfl

theorem string_writeString (text : String) (rest : List Char) {size : Nat}
    (enough : text.toList.length < size) :
    string size (writeString text ++ rest) = .ok (text, rest) := by
  have inside : (writeString text ++ rest).tail =
      text.toList.flatMap escapeChar ++ '"' :: rest := by
    simp [writeString]
  rw [string, inside, stringBody_escaped _ text.toList rest enough]
  exact congrArg (fun read => Except.ok (read, rest)) String.ofList_toList

theorem length_writeString (text : String) : text.toList.length < (writeString text).length := by
  have each : ∀ cs : List Char, cs.length ≤ (cs.flatMap escapeChar).length := by
    intro cs
    induction cs with
    | nil => exact Nat.le_refl 0
    | cons c cs ih =>
      obtain ⟨first, others, opens, -⟩ := (escaped_escapeChar c).opens
      rw [List.flatMap_cons, opens]
      simp only [List.length_append, List.length_cons]
      omega
  have body := each text.toList
  simp only [writeString, List.length_append, List.length_cons, List.length_nil]
  omega

theorem visible_writeString (text : String) : ∀ c ∈ writeString text, Text.Visible c := by
  intro c member
  simp only [writeString, List.cons_append, List.mem_cons, List.mem_append, List.mem_flatMap,
    List.not_mem_nil, or_false] at member
  rcases member with rfl | ⟨d, -, member⟩ | rfl
  · decide
  · exact (escaped_escapeChar d).visible c member
  · decide

end Strings

end Json

end VolumeReclaim
