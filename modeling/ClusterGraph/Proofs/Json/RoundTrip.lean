import ClusterGraph.Proofs.Json.Shape
import ClusterGraph.Proofs.Json.Spelling

/-!
# Reading back what is written: values

The compact form of a value is read back as the same value, entries in the same order, provided that
the value could have been read in the first place: no object repeats a key, the brackets nest no
deeper than the reader follows them, and numbers are integers of the 64-bit ranges. The first two
hold of every value that was read. The proof of reading back goes along the value, the proof that
what was read has this shape along the fuel.
-/
namespace ClusterGraph.Json

open Text (Glyph)
open Lexeme (Stop isSpace skipSpace nextItem nextEntry colon endsNumber)

/-- A value as a reader with this much room leaves it: no object repeats a key, and the brackets
nest at most one level less than the room. -/
structure Legible (room : Nat) (v : Json) : Prop where
  keys : v.everywhere keysDiffer = true
  fits : v.nesting ≤ room - 1

/-- The value can be read back from its compact form by a reader with this much room. -/
structure Readable (room : Nat) (v : Json) : Prop extends Legible room v where
  whole : v.everywhere isWhole = true

namespace Readable
variable {room : Nat} {vs : List Json} {es : List (String × Json)}

theorem roomy_of_array (readable : Readable room (array vs)) : ¬ room ≤ 1 := by
  have fits := readable.fits
  rw [nesting] at fits
  omega

theorem roomy_of_object (readable : Readable room (object es)) : ¬ room ≤ 1 := by
  have fits := readable.fits
  rw [nesting] at fits
  omega

/-- The items of a list take one level less. -/
theorem items (readable : Readable room (array vs)) : ∀ v ∈ vs, Readable (room - 1) v := by
  intro v member
  have fits := readable.fits
  have inside := nesting_le_of_mem_items member
  rw [nesting] at fits
  exact
    { keys := ((everywhere_array_iff vs).mp readable.keys).2 v member
      whole := ((everywhere_array_iff vs).mp readable.whole).2 v member
      fits := by omega }

/-- The entries of an object take one level less. -/
theorem entries (readable : Readable room (object es)) : ∀ e ∈ es, Readable (room - 1) e.2 := by
  intro e member
  have fits := readable.fits
  have inside := nesting_le_of_mem_entries member
  rw [nesting] at fits
  exact
    { keys := ((everywhere_object_iff es).mp readable.keys).2 e member
      whole := ((everywhere_object_iff es).mp readable.whole).2 e member
      fits := by omega }

theorem keys_nodup (readable : Readable room (object es)) : (Entries.keys es).Nodup :=
  of_decide_eq_true ((everywhere_object_iff es).mp readable.keys).1

end Readable

/-! ## The front of a written value -/

theorem ne_of_isDigit {c d : Char} (digit : c.isDigit = true) (other : d.isDigit = false) :
    (c == d) = false := by
  rw [beq_eq_false_iff_ne]
  rintro rfl
  exact absurd digit (ne_true_of_eq_false other)

theorem isSpace_of_isDigit {c : Char} (digit : c.isDigit = true) : isSpace (.char c) = false := by
  simp only [isSpace, isChar_char, ne_of_isDigit digit (d := ' ') rfl,
    ne_of_isDigit digit (d := '\n') rfl, ne_of_isDigit digit (d := '\t') rfl,
    ne_of_isDigit digit (d := '\r') rfl, Bool.or_false]

theorem natChars_front (n : Nat) :
    ∃ c cs, Number.natChars n = c :: cs ∧ c.isDigit = true := by
  unfold Number.natChars
  cases written : Nat.toDigits 10 n with
  | nil => exact absurd written Nat.toDigits_ne_nil
  | cons c cs =>
    exact ⟨c, cs, rfl, Nat.isDigit_of_mem_toDigits (by decide) (by decide)
      (written ▸ List.mem_cons_self)⟩

/-- A written value starts with a character that is neither white space nor a closing bracket. -/
theorem chars_front {v : Json} (whole : v.everywhere isWhole = true) :
    ∃ c cs, v.chars = c :: cs ∧ isSpace (.char c) = false ∧ (c == ']') = false := by
  cases v with
  | null => exact ⟨'n', _, rfl, rfl, rfl⟩
  | bool b => cases b <;> exact ⟨_, _, rfl, rfl, rfl⟩
  | string s => exact ⟨'"', _, rfl, rfl, rfl⟩
  | array vs => cases vs <;> exact ⟨'[', _, rfl, rfl, rfl⟩
  | object es => cases es <;> exact ⟨'\x7b', _, rfl, rfl, rfl⟩
  | number n =>
    cases n with
    | double negative magnitude => cases whole
    | integer n =>
      cases n with
      | negSucc n => exact ⟨'-', _, rfl, rfl, rfl⟩
      | ofNat n =>
        obtain ⟨c, cs, written, digit⟩ := natChars_front n
        exact ⟨c, cs, written, isSpace_of_isDigit digit, ne_of_isDigit digit rfl⟩

theorem skipSpace_char {c : Char} (visible : isSpace (.char c) = false) (gs : List Glyph) :
    skipSpace (.char c :: gs) = .char c :: gs :=
  List.dropWhile_cons_of_neg (ne_true_of_eq_false visible)

theorem nextItem_chars {v : Json} (whole : v.everywhere isWhole = true) (rest : List Glyph) :
    nextItem true (spelled v.chars ++ rest) = .ok (.more, spelled v.chars ++ rest) := by
  obtain ⟨c, cs, written, visible, noEnd⟩ := chars_front whole
  rw [written, spelled_cons, List.cons_append, nextItem, skipSpace_char visible]
  simp only [isChar_char, noEnd, Bool.false_eq_true, if_false, if_true]

theorem nextItem_comma {v : Json} (whole : v.everywhere isWhole = true) (rest : List Glyph) :
    nextItem false (.char ',' :: (spelled v.chars ++ rest)) =
      .ok (.more, spelled v.chars ++ rest) := by
  obtain ⟨c, cs, written, visible, noEnd⟩ := chars_front whole
  rw [written, spelled_cons, List.cons_append, nextItem, skipSpace_char rfl]
  simp only [isChar_char, skipSpace_char visible, noEnd, Bool.false_eq_true, if_false]
  rfl

/-! ## One step of the reader -/

theorem readValue_bracket {room : Nat} (roomy : ¬ room ≤ 1) (fuel : Nat) (gs : List Glyph) :
    readValue (fuel + 1) room (.char '[' :: gs) = (do
      let (vs, rest) ← readItems fuel (room - 1) true gs
      .ok (.array vs, rest)) := by
  rw [readValue, skipSpace_char rfl]
  exact if_neg roomy

theorem readValue_brace {room : Nat} (roomy : ¬ room ≤ 1) (fuel : Nat) (gs : List Glyph) :
    readValue (fuel + 1) room (.char '\x7b' :: gs) = (do
      let (es, rest) ← readEntries fuel (room - 1) true gs
      .ok (.object (Entries.collect es), rest)) := by
  rw [readValue, skipSpace_char rfl]
  exact if_neg roomy

theorem readValue_quote (fuel room : Nat) (gs : List Glyph) :
    readValue (fuel + 1) room (.char '"' :: gs) = (do
      let (s, rest) ← Lexeme.string gs
      .ok (.string s, rest)) := by
  rw [readValue, skipSpace_char rfl]
  rfl

theorem readValue_minus (fuel room : Nat) (gs : List Glyph) :
    readValue (fuel + 1) room (.char '-' :: gs) = (do
      let (n, rest) ← Lexeme.number true gs
      .ok (.number n, rest)) := by
  rw [readValue, skipSpace_char rfl]
  rfl

theorem readValue_digit (fuel room : Nat) {c : Char} (digit : c.isDigit = true) (gs : List Glyph) :
    readValue (fuel + 1) room (.char c :: gs) = (do
      let (n, rest) ← Lexeme.number false (.char c :: gs)
      .ok (.number n, rest)) := by
  rw [readValue, skipSpace_char (isSpace_of_isDigit digit)]
  simp only [isChar_char, ne_of_isDigit digit (d := 'n') rfl, ne_of_isDigit digit (d := 't') rfl,
    ne_of_isDigit digit (d := 'f') rfl, ne_of_isDigit digit (d := '-') rfl, Bool.false_eq_true,
    if_false, Lexeme.digit?_of_isDigit digit, Option.isSome_some, if_true]

/-- A written string is read back as a value. -/
theorem readValue_stringChars (fuel room : Nat) (s : String) (rest : List Glyph) :
    readValue (fuel + 1) room (spelled (stringChars s) ++ rest) = .ok (.string s, rest) := by
  rw [stringChars, spelled_cons, List.cons_append, readValue_quote, Lexeme.string_spelled]
  rfl

/-- A written integer is read back as a value. -/
theorem readValue_intChars (fuel room : Nat) {n : Int}
    (whole : (number (.integer n)).everywhere isWhole = true) {rest : List Glyph}
    (ends : endsNumber rest = true) :
    readValue (fuel + 1) room (spelled (Number.intChars n) ++ rest)
      = .ok (.number (.integer n), rest) := by
  have range : -2 ^ 63 ≤ n ∧ n < 2 ^ 64 := of_decide_eq_true whole
  cases n with
  | negSucc n =>
    have read := Lexeme.number_true (n := n) (by omega) ends
    rw [Number.intChars, spelled_cons, List.cons_append, readValue_minus, read]
    rfl
  | ofNat n =>
    have bound : n < 2 ^ 64 := Int.ofNat_lt.mp range.2
    have read := Lexeme.number_false bound ends
    obtain ⟨c, cs, written, digit⟩ := natChars_front n
    rw [Number.intChars, written, spelled_cons, List.cons_append, readValue_digit fuel room digit,
      ← List.cons_append, ← spelled_cons, ← written, read]
    rfl

/-- The start of an object with at least one entry. -/
theorem nextEntry_stringChars (k : String) (rest : List Glyph) :
    nextEntry true (spelled (stringChars k) ++ rest)
      = .ok (.more, spelled (k.toList.flatMap escape ++ ['"']) ++ rest) := by
  rw [stringChars, spelled_cons, List.cons_append, nextEntry, skipSpace_char rfl]
  rfl

theorem nextEntry_comma (k : String) (rest : List Glyph) :
    nextEntry false (.char ',' :: (spelled (stringChars k) ++ rest))
      = .ok (.more, spelled (k.toList.flatMap escape ++ ['"']) ++ rest) := by
  rw [stringChars, spelled_cons, List.cons_append, nextEntry, skipSpace_char rfl]
  rfl

theorem endsNumber_itemsChars (vs : List Json) (rest : List Glyph) :
    endsNumber (spelled (itemsChars vs) ++ rest) = true := by
  cases vs <;> rfl

theorem endsNumber_entriesChars (es : List (String × Json)) (rest : List Glyph) :
    endsNumber (spelled (entriesChars es) ++ rest) = true := by
  rcases es with _ | ⟨⟨k, v⟩, es⟩ <;> rfl

/-- An item is read with those after it. -/
theorem readItems_cons {fuel room : Nat} {first : Bool} {gs rest after : List Glyph} {v : Json}
    {vs : List Json} {front : List Glyph}
    (next : nextItem first gs = .ok (.more, front))
    (item : readValue fuel room front = .ok (v, rest))
    (more : readItems fuel room false rest = .ok (vs, after)) :
    readItems (fuel + 1) room first gs = .ok (v :: vs, after) := by
  rw [readItems, next]
  simp only [bind, Except.bind, item, more]

/-- An entry is read with those after it. -/
theorem readEntries_cons {fuel room : Nat} {first : Bool} {gs rest after : List Glyph} {k : String}
    {v : Json} {es : List (String × Json)}
    (next : nextEntry first gs
      = .ok (.more, spelled (k.toList.flatMap escape ++ ['"']) ++ .char ':' :: front))
    (value : readValue fuel room front = .ok (v, rest))
    (more : readEntries fuel room false rest = .ok (es, after)) :
    readEntries (fuel + 1) room first gs = .ok ((k, v) :: es, after) := by
  have colon : colon (.char ':' :: front) = .ok front := rfl
  rw [readEntries, next]
  simp only [bind, Except.bind, Lexeme.string_spelled, colon, value, more]

theorem length_chars_pos {v : Json} (whole : v.everywhere isWhole = true) : 0 < v.chars.length := by
  obtain ⟨c, cs, written, -⟩ := chars_front whole
  rw [written]
  exact Nat.zero_lt_succ _

theorem length_itemsChars_pos (vs : List Json) : 0 < (itemsChars vs).length := by
  cases vs <;> exact Nat.zero_lt_succ _

theorem length_entriesChars_pos (es : List (String × Json)) : 0 < (entriesChars es).length := by
  rcases es with _ | ⟨⟨k, v⟩, es⟩ <;> exact Nat.zero_lt_succ _

mutual

/-- A written value is read back, whatever follows it. -/
theorem readValue_chars : ∀ (v : Json) (fuel room : Nat) (rest : List Glyph), Readable room v →
    v.chars.length ≤ fuel → endsNumber rest = true →
    readValue fuel room (spelled v.chars ++ rest) = .ok (v, rest)
  | v, 0, _, _, readable, long, _ => by
    exact absurd long (Nat.not_le.mpr (length_chars_pos readable.whole))
  | null, fuel + 1, room, rest, _, _, _ => rfl
  | bool true, fuel + 1, room, rest, _, _, _ => rfl
  | bool false, fuel + 1, room, rest, _, _, _ => rfl
  | string s, fuel + 1, room, rest, _, _, _ => readValue_stringChars fuel room s rest
  | number (.double _ _), _ + 1, _, _, readable, _, _ => nomatch readable.whole
  | number (.integer n), fuel + 1, room, rest, readable, _, ends =>
    readValue_intChars fuel room readable.whole ends
  | array [], 1, _, _, _, long, _ => nomatch long
  | array [], fuel + 2, room, rest, readable, _, _ =>
    readValue_bracket readable.roomy_of_array (fuel + 1) (.char ']' :: rest)
  | array (v :: vs), 1, _, _, readable, long, _ => by
    have item := length_chars_pos (readable.items v List.mem_cons_self).whole
    rw [chars, List.length_cons, List.length_append] at long
    omega
  | array (v :: vs), fuel + 2, room, rest, readable, long, _ => by
    have readableItem := readable.items v List.mem_cons_self
    have itemLength := length_chars_pos readableItem.whole
    have moreLength := length_itemsChars_pos vs
    rw [chars, List.length_cons, List.length_append] at long
    have item := readValue_chars v fuel (room - 1) (spelled (itemsChars vs) ++ rest)
      readableItem (by omega) (endsNumber_itemsChars vs rest)
    have more := readItems_itemsChars vs fuel (room - 1) rest
      (fun w member => readable.items w (List.mem_cons_of_mem v member)) (by omega)
    rw [chars, spelled_cons, List.cons_append, readValue_bracket readable.roomy_of_array,
      spelled_append, List.append_assoc,
      readItems_cons (nextItem_chars readableItem.whole _) item more]
    rfl
  | object [], 1, _, _, _, long, _ => nomatch long
  | object [], fuel + 2, room, rest, readable, _, _ =>
    readValue_brace readable.roomy_of_object (fuel + 1) (.char '\x7d' :: rest)
  | object ((k, v) :: es), 1, _, _, readable, long, _ => by
    rw [chars, List.length_cons, List.length_append, List.length_cons] at long
    omega
  | object ((k, v) :: es), fuel + 2, room, rest, readable, long, _ => by
    have readableValue := readable.entries (k, v) List.mem_cons_self
    have moreLength := length_entriesChars_pos es
    rw [chars, List.length_cons, List.length_append, List.length_cons, List.length_append] at long
    have value := readValue_chars v fuel (room - 1) (spelled (entriesChars es) ++ rest)
      readableValue (by omega) (endsNumber_entriesChars es rest)
    have more := readEntries_entriesChars es fuel (room - 1) rest
      (fun e member => readable.entries e (List.mem_cons_of_mem (k, v) member)) (by omega)
    rw [chars, spelled_cons, List.cons_append, readValue_brace readable.roomy_of_object,
      spelled_append, List.append_assoc, spelled_cons, List.cons_append, spelled_append,
      List.append_assoc, readEntries_cons (nextEntry_stringChars k _) value more]
    exact congrArg (fun es => Except.ok (object es, rest))
      (Entries.collect_of_distinct readable.keys_nodup)

/-- Written items are read back. -/
theorem readItems_itemsChars : ∀ (vs : List Json) (fuel room : Nat) (rest : List Glyph),
    (∀ v ∈ vs, Readable room v) → (itemsChars vs).length ≤ fuel →
    readItems fuel room false (spelled (itemsChars vs) ++ rest) = .ok (vs, rest)
  | vs, 0, _, _, _, long => absurd long (Nat.not_le.mpr (length_itemsChars_pos vs))
  | [], fuel + 1, room, rest, _, _ => rfl
  | v :: vs, fuel + 1, room, rest, readable, long => by
    have readableItem := readable v List.mem_cons_self
    rw [itemsChars, List.length_cons, List.length_append] at long
    have item := readValue_chars v fuel room (spelled (itemsChars vs) ++ rest)
      readableItem (by omega) (endsNumber_itemsChars vs rest)
    have more := readItems_itemsChars vs fuel room rest
      (fun w member => readable w (List.mem_cons_of_mem v member)) (by omega)
    rw [itemsChars, spelled_cons, List.cons_append, spelled_append, List.append_assoc]
    exact readItems_cons (nextItem_comma readableItem.whole _) item more

/-- Written entries are read back. -/
theorem readEntries_entriesChars : ∀ (es : List (String × Json)) (fuel room : Nat)
    (rest : List Glyph), (∀ e ∈ es, Readable room e.2) → (entriesChars es).length ≤ fuel →
    readEntries fuel room false (spelled (entriesChars es) ++ rest) = .ok (es, rest)
  | es, 0, _, _, _, long => absurd long (Nat.not_le.mpr (length_entriesChars_pos es))
  | [], fuel + 1, room, rest, _, _ => rfl
  | (k, v) :: es, fuel + 1, room, rest, readable, long => by
    rw [entriesChars, List.length_cons, List.length_append, List.length_cons,
      List.length_append] at long
    have value := readValue_chars v fuel room (spelled (entriesChars es) ++ rest)
      (readable (k, v) List.mem_cons_self) (by omega) (endsNumber_entriesChars es rest)
    have more := readEntries_entriesChars es fuel room rest
      (fun e member => readable e (List.mem_cons_of_mem (k, v) member)) (by omega)
    rw [entriesChars, spelled_cons, List.cons_append, spelled_append, List.append_assoc,
      spelled_cons, List.cons_append, spelled_append, List.append_assoc]
    exact readEntries_cons (nextEntry_comma k _) value more

end

/-! ## What was read -/

/-- Two steps succeed one after the other. -/
theorem ok_of_bind {ε α β : Type} {x : Except ε α} {f : α → Except ε β} {b : β}
    (success : x >>= f = .ok b) : ∃ a, x = .ok a ∧ f a = .ok b := by
  cases x with
  | error e => cases success
  | ok a => exact ⟨a, rfl, success⟩

theorem word_eq {α : Type} {value v : α} {cs : List Char} {gs rest : List Glyph}
    (success : Lexeme.word value cs gs = .ok (v, rest)) : v = value := by
  induction cs generalizing gs with
  | nil =>
    cases success
    rfl
  | cons c cs ih =>
    cases gs with
    | nil => cases success
    | cons g gs =>
      unfold Lexeme.word at success
      split at success
      · exact ih success
      · cases success

/-- A value that was read has no brackets, or was read as the items of a list or as the entries of
an object with less room. -/
theorem readValue_cases {fuel room : Nat} {gs rest : List Glyph} {v : Json}
    (success : readValue (fuel + 1) room gs = .ok (v, rest)) :
    (v.everywhere keysDiffer = true ∧ v.nesting = 0) ∨
    (∃ vs inside, v = array vs ∧ 1 < room ∧
      readItems fuel (room - 1) true inside = .ok (vs, rest)) ∨
    (∃ es inside, v = object (Entries.collect es) ∧ 1 < room ∧
      readEntries fuel (room - 1) true inside = .ok (es, rest)) := by
  unfold readValue at success
  split at success
  · cases success
  split at success
  · exact .inl (word_eq success ▸ ⟨rfl, rfl⟩)
  split at success
  · exact .inl (word_eq success ▸ ⟨rfl, rfl⟩)
  split at success
  · exact .inl (word_eq success ▸ ⟨rfl, rfl⟩)
  split at success
  · obtain ⟨⟨n, _⟩, -, done⟩ := ok_of_bind success
    cases done
    exact .inl ⟨rfl, rfl⟩
  split at success
  · obtain ⟨⟨n, _⟩, -, done⟩ := ok_of_bind success
    cases done
    exact .inl ⟨rfl, rfl⟩
  split at success
  · obtain ⟨⟨s, _⟩, -, done⟩ := ok_of_bind success
    cases done
    exact .inl ⟨rfl, rfl⟩
  split at success
  · split at success
    · cases success
    · next roomy =>
      obtain ⟨⟨vs, _⟩, items, done⟩ := ok_of_bind success
      cases done
      exact .inr (.inl ⟨vs, _, rfl, Nat.lt_of_not_le roomy, items⟩)
  split at success
  · split at success
    · cases success
    · next roomy =>
      obtain ⟨⟨es, _⟩, entries, done⟩ := ok_of_bind success
      cases done
      exact .inr (.inr ⟨es, _, rfl, Nat.lt_of_not_le roomy, entries⟩)
  · cases success

/-- Items that were read are none, or one value and further items. -/
theorem readItems_cases {fuel room : Nat} {first : Bool} {gs rest : List Glyph} {vs : List Json}
    (success : readItems (fuel + 1) room first gs = .ok (vs, rest)) :
    vs = [] ∨ ∃ v ws front between, vs = v :: ws ∧ readValue fuel room front = .ok (v, between) ∧
      readItems fuel room false between = .ok (ws, rest) := by
  unfold readItems at success
  obtain ⟨⟨next, front⟩, -, success⟩ := ok_of_bind success
  cases next with
  | done =>
    cases success
    exact .inl rfl
  | more =>
    obtain ⟨⟨v, between⟩, value, success⟩ := ok_of_bind success
    obtain ⟨⟨ws, after⟩, more, done⟩ := ok_of_bind success
    cases done
    exact .inr ⟨v, ws, front, between, rfl, value, more⟩

/-- Entries that were read are none, or one key with its value and further entries. -/
theorem readEntries_cases {fuel room : Nat} {first : Bool} {gs rest : List Glyph}
    {es : List (String × Json)} (success : readEntries (fuel + 1) room first gs = .ok (es, rest)) :
    es = [] ∨ ∃ k v fs front between, es = (k, v) :: fs ∧
      readValue fuel room front = .ok (v, between) ∧
      readEntries fuel room false between = .ok (fs, rest) := by
  unfold readEntries at success
  obtain ⟨⟨next, front⟩, -, success⟩ := ok_of_bind success
  cases next with
  | done =>
    cases success
    exact .inl rfl
  | more =>
    obtain ⟨⟨k, _⟩, -, success⟩ := ok_of_bind success
    obtain ⟨_, -, success⟩ := ok_of_bind success
    obtain ⟨⟨v, between⟩, value, success⟩ := ok_of_bind success
    obtain ⟨⟨fs, after⟩, more, done⟩ := ok_of_bind success
    cases done
    exact .inr ⟨k, v, fs, _, between, rfl, value, more⟩

/-- What is read is legible. The induction is on the fuel, for values, items and entries at once,
since each of them is read by calls of the others. -/
theorem legible_of_read (fuel : Nat) :
    (∀ room gs v rest, readValue fuel room gs = .ok (v, rest) → Legible room v) ∧
    (∀ room first gs vs rest, readItems fuel room first gs = .ok (vs, rest) →
      ∀ v ∈ vs, Legible room v) ∧
    (∀ room first gs es rest, readEntries fuel room first gs = .ok (es, rest) →
      ∀ e ∈ es, Legible room e.2) := by
  induction fuel with
  | zero =>
    refine ⟨?_, ?_, ?_⟩
    · intro room gs v rest success
      cases success
    · intro room first gs vs rest success
      cases success
    · intro room first gs es rest success
      cases success
  | succ fuel ih =>
    obtain ⟨values, items, entries⟩ := ih
    refine ⟨?_, ?_, ?_⟩
    · intro room gs v rest success
      rcases readValue_cases success with flat | ⟨vs, inside, rfl, roomy, read⟩ |
        ⟨es, inside, rfl, roomy, read⟩
      · exact ⟨flat.1, flat.2 ▸ Nat.zero_le _⟩
      · have each := items _ _ _ _ _ read
        have shallow : nestingOfItems vs ≤ room - 1 - 1 :=
          (nestingOfItems_le_iff vs _).mpr fun v member => (each v member).fits
        refine ⟨(everywhere_array_iff vs).mpr ⟨rfl, fun v member => (each v member).keys⟩, ?_⟩
        rw [nesting]
        omega
      · have each := fun e member =>
          entries _ _ _ _ _ read e (Entries.mem_of_mem_collect (e := e) member)
        have shallow : nestingOfEntries (Entries.collect es) ≤ room - 1 - 1 :=
          (nestingOfEntries_le_iff _ _).mpr fun e member => (each e member).fits
        refine ⟨(everywhere_object_iff _).mpr ⟨decide_eq_true (Entries.nodup_keys_collect es),
          fun e member => (each e member).keys⟩, ?_⟩
        rw [nesting]
        omega
    · intro room first gs vs rest success v member
      rcases readItems_cases success with rfl | ⟨w, ws, front, between, rfl, value, more⟩
      · cases member
      · rcases List.mem_cons.mp member with rfl | later
        · exact values _ _ _ _ value
        · exact items _ _ _ _ _ more v later
    · intro room first gs es rest success e member
      rcases readEntries_cases success with rfl | ⟨k, w, fs, front, between, rfl, value, more⟩
      · cases member
      · rcases List.mem_cons.mp member with rfl | later
        · exact values _ _ _ _ value
        · exact entries _ _ _ _ _ more e later

/-- A value that a whole text spells is what the reader finds at its start. -/
theorem readValue_of_parse {s : String} {v : Json} (success : parse s = .ok v) :
    ∃ rest, readValue (fuelFor (Glyph.ofString s)) depthLimit (Glyph.ofString s)
      = .ok (v, rest) := by
  unfold parse ofGlyphs at success
  cases read : readValue (fuelFor (Glyph.ofString s)) depthLimit (Glyph.ofString s) with
  | error e =>
    rw [read] at success
    cases success
  | ok result =>
    obtain ⟨w, rest⟩ := result
    refine ⟨rest, ?_⟩
    rw [read] at success
    simp only [bind, Except.bind] at success
    cases ending : Lexeme.atEnd rest with
    | error e =>
      rw [ending] at success
      cases success
    | ok done =>
      rw [ending] at success
      cases success
      rfl

/-- A whole text spells a value whose brackets nest at most 127 levels. -/
theorem legible_of_parse {s : String} {v : Json} (success : parse s = .ok v) :
    Legible depthLimit v := by
  obtain ⟨rest, read⟩ := readValue_of_parse success
  exact (legible_of_read _).1 _ _ _ _ read

/-! ## More room -/

/-- A reader with more room reads the same. The induction is again for values, items and entries at
once. -/
theorem read_of_more_room (fuel : Nat) :
    (∀ room more gs r, room ≤ more → readValue fuel room gs = .ok r →
      readValue fuel more gs = .ok r) ∧
    (∀ room more first gs r, room ≤ more → readItems fuel room first gs = .ok r →
      readItems fuel more first gs = .ok r) ∧
    (∀ room more first gs r, room ≤ more → readEntries fuel room first gs = .ok r →
      readEntries fuel more first gs = .ok r) := by
  induction fuel with
  | zero =>
    refine ⟨?_, ?_, ?_⟩
    · intro room more gs r le success
      cases success
    · intro room more first gs r le success
      cases success
    · intro room more first gs r le success
      cases success
  | succ fuel ih =>
    obtain ⟨values, items, entries⟩ := ih
    refine ⟨?_, ?_, ?_⟩
    · intro room more gs r le success
      unfold readValue at success ⊢
      split at success
      · cases success
      next g rest front =>
      dsimp only
      -- The letters, the numbers and the quotation mark are read without room.
      iterate 6
        split at success
        · next here =>
          rw [if_pos here]
          exact success
        rename_i other
        rw [if_neg other]
      split at success
      · next here =>
        rw [if_pos here]
        split at success
        · cases success
        next roomy =>
        obtain ⟨⟨vs, after⟩, read, done⟩ := ok_of_bind success
        rw [if_neg (by omega), items _ _ _ _ _ (Nat.sub_le_sub_right le 1) read]
        exact done
      next other =>
      rw [if_neg other]
      split at success
      · next here =>
        rw [if_pos here]
        split at success
        · cases success
        next roomy =>
        obtain ⟨⟨es, after⟩, read, done⟩ := ok_of_bind success
        rw [if_neg (by omega), entries _ _ _ _ _ (Nat.sub_le_sub_right le 1) read]
        exact done
      · cases success
    · intro room more first gs r le success
      unfold readItems at success ⊢
      obtain ⟨⟨next, front⟩, found, success⟩ := ok_of_bind success
      rw [found]
      cases next with
      | done => exact success
      | more =>
        obtain ⟨⟨v, between⟩, value, success⟩ := ok_of_bind success
        obtain ⟨⟨ws, after⟩, further, done⟩ := ok_of_bind success
        simp only [bind, Except.bind, values _ _ _ _ le value, items _ _ _ _ _ le further]
        exact done
    · intro room more first gs r le success
      unfold readEntries at success ⊢
      obtain ⟨⟨next, front⟩, found, success⟩ := ok_of_bind success
      rw [found]
      cases next with
      | done => exact success
      | more =>
        obtain ⟨⟨k, afterKey⟩, key, success⟩ := ok_of_bind success
        obtain ⟨afterColon, colon, success⟩ := ok_of_bind success
        obtain ⟨⟨v, between⟩, value, success⟩ := ok_of_bind success
        obtain ⟨⟨fs, after⟩, further, done⟩ := ok_of_bind success
        simp only [bind, Except.bind, key, colon, values _ _ _ _ le value,
          entries _ _ _ _ _ le further]
        exact done

/-! ## Compact texts -/

/-- The glyphs of a compact text are read back as the value, with the room that it needs. -/
theorem readValue_compact {room : Nat} {v : Json} (readable : Readable room v) :
    readValue (fuelFor (Glyph.ofString v.compact)) room (Glyph.ofString v.compact)
      = .ok (v, []) := by
  have glyphs : Glyph.ofString v.compact = spelled v.chars := by
    unfold Glyph.ofString compact
    rw [String.toList_ofList]
    rfl
  have long : v.chars.length ≤ fuelFor (spelled v.chars) := by
    rw [fuelFor, length_spelled]
    omega
  have read := readValue_chars v _ room [] readable long rfl
  rw [List.append_nil] at read
  rw [glyphs, read]

/-- A compact text can be read if and only if its brackets nest at most 127 levels, and then it is
read as the value that it was written for. -/
theorem parse_compact_iff {v : Json} (keys : v.everywhere keysDiffer = true)
    (whole : v.everywhere isWhole = true) (w : Json) :
    parse v.compact = .ok w ↔ w = v ∧ v.nesting ≤ 127 := by
  constructor
  · intro success
    -- A reader with enough room for the value reads it, and reads what this one does.
    obtain ⟨rest, read⟩ := readValue_of_parse success
    have enough : v.nesting ≤ depthLimit + v.nesting - 1 := by
      unfold depthLimit
      omega
    have roomy := readValue_compact ⟨⟨keys, enough⟩, whole⟩
    have again := (read_of_more_room _).1 _ _ _ _ (Nat.le_add_right depthLimit v.nesting) read
    obtain ⟨rfl, -⟩ := Prod.mk.inj (Except.ok.inj (again.symm.trans roomy))
    exact ⟨rfl, (legible_of_parse success).fits⟩
  · rintro ⟨rfl, shallow⟩
    have readable : Readable depthLimit w := ⟨⟨keys, shallow⟩, whole⟩
    have read := readValue_compact readable
    unfold parse ofGlyphs
    rw [read]
    rfl

end ClusterGraph.Json
