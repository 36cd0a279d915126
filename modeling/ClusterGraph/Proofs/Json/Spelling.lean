import ClusterGraph.Json.Reader
import Mathlib.Algebra.Group.Nat.Defs

/-!
# Reading back what is written: strings and integers

Every character of a string is read back from its written form, be it an escape of two characters,
the code unit of a control character or the character itself. An integer of the 64-bit ranges is
read back from its digits, whatever follows, as long as that cannot be taken for more of the number.
-/
namespace ClusterGraph.Json

open Text (Glyph)

def spelled (cs : List Char) : List Glyph := cs.map Glyph.char

@[simp] theorem spelled_nil : spelled [] = [] := rfl

@[simp] theorem spelled_cons (c : Char) (cs : List Char) :
    spelled (c :: cs) = .char c :: spelled cs := rfl

@[simp] theorem spelled_append (cs ds : List Char) :
    spelled (cs ++ ds) = spelled cs ++ spelled ds :=
  List.map_append

@[simp] theorem length_spelled (cs : List Char) : (spelled cs).length = cs.length :=
  List.length_map _

@[simp] theorem isChar_char (c d : Char) : (Glyph.char d).isChar c = (d == c) := rfl

namespace Lexeme

/-! ## Strings -/

theorem hexValue?_hexDigit : ∀ n < 16, hexValue? (.char (hexDigit n)) = some n := by decide

theorem length_le_widths (gs : List Glyph) : gs.length ≤ Glyph.widths gs := by
  induction gs with
  | nil => exact Nat.le_refl 0
  | cons g rest ih =>
    have positive : 1 ≤ g.width := by
      cases g with
      | char c => exact c.utf8Size_pos
      | stray octet => exact Nat.le_refl 1
    calc
      (g :: rest).length = 1 + rest.length := Nat.add_comm _ 1
      _ ≤ Glyph.widths (g :: rest) := Nat.add_le_add positive ih

/-- The code unit of a control character is read back from its two digits. -/
theorem codeUnit_control {n : Nat} (control : n < 32) (rest : List Glyph) :
    codeUnit (spelled ['0', '0', hexDigit (n / 16), hexDigit (n % 16)] ++ rest) = .ok n := by
  have long : ¬ Glyph.widths
      (spelled ['0', '0', hexDigit (n / 16), hexDigit (n % 16)] ++ rest) < 4 := by
    refine Nat.not_lt.mpr (Nat.le_trans ?_ (length_le_widths _))
    rw [List.length_append]
    exact Nat.le_add_right 4 _
  have high := hexValue?_hexDigit (n / 16) (by omega)
  have low := hexValue?_hexDigit (n % 16) (by omega)
  have zero : hexValue? (.char '0') = some 0 := rfl
  have value : n / 16 * 16 + n % 16 = n := by omega
  unfold codeUnit
  rw [if_neg long]
  simp [List.mapM_cons, zero, high, low]
  exact value

/-- An escape is read as the character that it stands for, and what it takes up is passed over. -/
theorem stringBody_escaped {gs : List Glyph} {c : Char} {taken : Nat}
    (stands : escaped gs = .ok (c, taken)) :
    stringBody 0 (.char '\\' :: gs)
      = (stringBody taken gs).map fun (text, after) => (.char c :: text, after) := by
  have noQuote : ¬ (Glyph.char '\\').isChar '"' = true := by decide
  have backslash : (Glyph.char '\\').isChar '\\' = true := by decide
  rw [stringBody, if_neg noQuote, if_pos backslash, stands]
  simp only [bind, Except.bind]
  cases stringBody taken gs <;> rfl

/-- An escape of one letter. -/
theorem stringBody_letter {letter c : Char} {rest : List Glyph}
    (stands : escaped (.char letter :: rest) = .ok (c, 1)) :
    stringBody 0 (spelled ['\\', letter] ++ rest)
      = (stringBody 0 rest).map fun (text, after) => (.char c :: text, after) :=
  stringBody_escaped stands

/-- A control character is read from the code unit that it is written as. -/
theorem escaped_control {c : Char} (control : c.toNat < 32) (rest : List Glyph) :
    escaped (spelled ['u', '0', '0', hexDigit (c.toNat / 16), hexDigit (c.toNat % 16)] ++ rest)
      = .ok (c, 5) := by
  have unit := codeUnit_control control rest
  have noSurrogate : c.toNat < 0xD800 := Nat.lt_trans control (by decide)
  have noLowHalf : ¬ 0xDC00 ≤ c.toNat := Nat.not_le.mpr (Nat.lt_trans noSurrogate (by decide))
  rw [spelled_cons, List.cons_append]
  unfold escaped
  simp only [isChar_char, unit, bind, Except.bind]
  simp [noSurrogate, noLowHalf, Char.ofNat_toNat]

/-- One written character of a string is read back. -/
theorem stringBody_escape (c : Char) (rest : List Glyph) :
    stringBody 0 (spelled (escape c) ++ rest)
      = (stringBody 0 rest).map fun (text, after) => (.char c :: text, after) := by
  unfold escape
  split
  · next same => subst same; exact stringBody_letter rfl
  split
  · next same => subst same; exact stringBody_letter rfl
  split
  · next same => subst same; exact stringBody_letter rfl
  split
  · next same => subst same; exact stringBody_letter rfl
  split
  · next same => subst same; exact stringBody_letter rfl
  split
  · next code =>
    obtain rfl : c = '\x08' := Char.toNat_inj.mp code
    exact stringBody_letter rfl
  split
  · next code =>
    obtain rfl : c = '\x0c' := Char.toNat_inj.mp code
    exact stringBody_letter rfl
  split
  · next control => exact stringBody_escaped (escaped_control control rest)
  · next noQuote noBackslash _ _ _ _ _ printable =>
    simp only [spelled_cons, spelled_nil, List.cons_append, List.nil_append]
    rw [stringBody]
    simp only [isChar_char, isControl, beq_iff_eq, noQuote, noBackslash, printable, if_false,
      decide_false, Bool.false_eq_true]
    cases stringBody 0 rest <;> rfl

/-- The inside of a written string is read back up to its closing quotation mark. -/
theorem stringBody_flatMap_escape (cs : List Char) (rest : List Glyph) :
    stringBody 0 (spelled (cs.flatMap escape) ++ .char '"' :: rest) = .ok (spelled cs, rest) := by
  induction cs with
  | nil => rfl
  | cons c cs ih =>
    rw [List.flatMap_cons, spelled_append, List.append_assoc, stringBody_escape, ih]
    rfl

theorem mapM_spelled {f : Glyph → Option Char} (char : ∀ c, f (.char c) = some c) (cs : List Char) :
    (spelled cs).mapM f = some cs := by
  induction cs with
  | nil => rfl
  | cons c cs ih => simp [List.mapM_cons, char, ih]

theorem text?_spelled (cs : List Char) : Glyph.text? (spelled cs) = some (String.ofList cs) :=
  congrArg (Option.map String.ofList) (mapM_spelled (fun _ => rfl) cs)

/-- A written string is read back, whatever follows it. -/
theorem string_spelled (s : String) (rest : List Glyph) :
    string (spelled (s.toList.flatMap escape ++ ['"']) ++ rest) = .ok (s, rest) := by
  have body := stringBody_flatMap_escape s.toList rest
  unfold string
  rw [spelled_append, List.append_assoc]
  simp only [spelled_cons, spelled_nil, List.cons_append, List.nil_append, body, bind, Except.bind,
    text?_spelled, String.ofList_toList]

/-! ## Integers -/

/-- What follows cannot be taken for more of a number. -/
def endsNumber : List Glyph → Bool
  | g :: _ => g.digit?.isNone && !(g.isChar '.' || g.isChar 'e' || g.isChar 'E')
  | [] => true

theorem startsWithDigit_of_endsNumber {rest : List Glyph} (ends : endsNumber rest = true) :
    startsWithDigit rest = false := by
  cases rest with
  | nil => rfl
  | cons g rest =>
    simp only [endsNumber, Bool.and_eq_true, Option.isNone_iff_eq_none] at ends
    rw [startsWithDigit, ends.1]
    rfl

theorem afterWhole_of_endsNumber {rest : List Glyph} (ends : endsNumber rest = true)
    (negative : Bool) (n : Nat) :
    afterWhole negative n 0 rest = afterWhole.whole negative n rest := by
  cases rest with
  | nil => rfl
  | cons g rest =>
    simp only [endsNumber, Bool.and_eq_true, Bool.not_eq_true', Bool.or_eq_false_iff] at ends
    simp [afterWhole, startsWithExponent, ends]

theorem digit?_of_isDigit {c : Char} (digit : c.isDigit = true) :
    (Glyph.char c).digit? = some (c.toNat - '0'.toNat) := by
  have range : '0' ≤ c ∧ c ≤ '9' := by
    simp only [Char.isDigit, Bool.and_eq_true, decide_eq_true_eq] at digit
    exact digit
  simp [Glyph.digit?, range]

/-- Digits are read up to what is no digit, if the number that they make stays within the limit. -/
theorem digits_spelled {limit : Nat} {rest : List Glyph} (ends : startsWithDigit rest = false)
    (cs : List Char) (start : Nat) (all : ∀ c ∈ cs, c.isDigit = true)
    (bound : Nat.ofDigitChars 10 cs start ≤ limit) :
    digits limit start (spelled cs ++ rest) = (Nat.ofDigitChars 10 cs start, cs.length, rest) := by
  induction cs generalizing start with
  | nil =>
    cases rest with
    | nil => rfl
    | cons g rest =>
      have none : g.digit? = none := by simpa [startsWithDigit] using ends
      simp [digits, none, Nat.ofDigitChars]
  | cons c cs ih =>
    have next : Nat.ofDigitChars 10 (c :: cs) start
        = Nat.ofDigitChars 10 cs (start * 10 + (c.toNat - '0'.toNat)) := by
      rw [Nat.ofDigitChars_cons, Nat.mul_comm]
    rw [next] at bound ⊢
    have within : start * 10 + (c.toNat - '0'.toNat) ≤ limit :=
      Nat.le_trans (le_ofDigitChars cs _) bound
    simp only [spelled_cons, List.cons_append, digits,
      digit?_of_isDigit (all c List.mem_cons_self)]
    rw [if_pos within, ih _ (fun d member => all d (List.mem_cons_of_mem c member)) bound]
    rfl
where
  /-- Appending digits makes no number smaller. -/
  le_ofDigitChars (cs : List Char) (start : Nat) : start ≤ Nat.ofDigitChars 10 cs start := by
    induction cs generalizing start with
    | nil => exact Nat.le_refl start
    | cons c cs ih =>
      rw [Nat.ofDigitChars_cons]
      exact Nat.le_trans (by omega) (ih _)

/-- Only zero is written with a leading zero. -/
theorem eq_zero_of_toDigits {n : Nat} {c : Char} {cs : List Char}
    (written : Nat.toDigits 10 n = c :: cs) (zero : c.toNat - '0'.toNat = 0) : n = 0 := by
  induction n using Nat.strongRecOn generalizing cs with
  | ind n ih =>
    by_cases small : n < 10
    · rw [Nat.toDigits_of_lt_base small, List.cons.injEq] at written
      obtain ⟨rfl, -⟩ := written
      rw [Nat.toNat_digitChar_of_lt_ten small] at zero
      exact (Nat.add_sub_cancel_left (n := 48) (m := n)).symm.trans zero
    · rw [Nat.toDigits_of_base_le (by decide) (Nat.not_lt.mp small)] at written
      obtain ⟨ds, leading⟩ : ∃ ds, Nat.toDigits 10 (n / 10) = c :: ds := by
        cases front : Nat.toDigits 10 (n / 10) with
        | nil => exact absurd front Nat.toDigits_ne_nil
        | cons d ds =>
          rw [front, List.cons_append, List.cons.injEq] at written
          exact ⟨ds, written.1 ▸ rfl⟩
      have fewer := ih (n / 10) (by omega) leading
      omega

/-- The digits of a number within the significand are read back as that number. -/
theorem number_natChars {n : Nat} (bound : n ≤ significandMax) {rest : List Glyph}
    (ends : endsNumber rest = true) (negative : Bool) :
    number negative (spelled (Number.natChars n) ++ rest)
      = afterWhole.whole negative n rest := by
  have noDigit := startsWithDigit_of_endsNumber ends
  unfold Number.natChars
  cases written : Nat.toDigits 10 n with
  | nil => exact absurd written Nat.toDigits_ne_nil
  | cons c cs =>
    have all : ∀ d ∈ c :: cs, d.isDigit = true := fun d member =>
      Nat.isDigit_of_mem_toDigits (by decide) (by decide) (written ▸ member)
    have value : Nat.ofDigitChars 10 cs (c.toNat - '0'.toNat) = n := by
      have whole := Nat.ofDigitChars_ten_toDigits (n := n)
      rwa [written, Nat.ofDigitChars_cons, Nat.mul_zero, Nat.zero_add] at whole
    have within : Nat.ofDigitChars 10 cs (c.toNat - '0'.toNat) ≤ significandMax := value ▸ bound
    have more := digits_spelled noDigit cs (c.toNat - '0'.toNat)
      (fun d member => all d (List.mem_cons_of_mem c member)) within
    rw [value] at more
    unfold number
    simp only [spelled_cons, List.cons_append, digit?_of_isDigit (all c List.mem_cons_self)]
    cases first : c.toNat - '0'.toNat with
    | zero =>
      -- The only digit is the zero.
      obtain rfl := eq_zero_of_toDigits written first
      obtain rfl : cs = [] := by
        rw [Nat.toDigits_of_lt_base (by decide)] at written
        exact (List.cons.inj written).2.symm
      simp only [spelled_nil, List.nil_append, noDigit, Bool.false_eq_true, if_false]
      exact afterWhole_of_endsNumber ends negative 0
    | succ d =>
      rw [first] at more
      simp only [more, noDigit, Bool.false_eq_true, if_false]
      exact afterWhole_of_endsNumber ends negative n

/-- A natural number of the unsigned range is read back. -/
theorem number_false {n : Nat} (bound : n < 2 ^ 64) {rest : List Glyph}
    (ends : endsNumber rest = true) :
    number false (spelled (Number.natChars n) ++ rest) = .ok (.integer n, rest) :=
  number_natChars (Nat.le_pred_of_lt bound) ends false

/-- The magnitude of a negative number of the signed range is read back after its sign. -/
theorem number_true {n : Nat} (bound : n + 1 ≤ 2 ^ 63) {rest : List Glyph}
    (ends : endsNumber rest = true) :
    number true (spelled (Number.natChars (n + 1)) ++ rest) =
      .ok (.integer (.negSucc n), rest) := by
  have wide : n + 1 ≤ significandMax := Nat.le_trans bound (by decide)
  have inside : ¬ (n + 1 = 0 ∨ Nat.pow 2 63 < n + 1) :=
    not_or.mpr ⟨Nat.succ_ne_zero n, Nat.not_lt.mpr bound⟩
  rw [number_natChars wide ends, afterWhole.whole, if_pos rfl, if_neg inside]
  rfl

end Lexeme
end ClusterGraph.Json
