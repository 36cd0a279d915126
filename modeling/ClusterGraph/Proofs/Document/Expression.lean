import ClusterGraph.Document.FieldPath
import Mathlib.Algebra.Group.Nat.Defs
import Mathlib.Data.List.Forall2

/-!
# The grammar of field path expressions

A field path expression, less one leading point, is a sequence of segments with points between them;
a segment is a key and then indices in brackets, and an index is a decimal below 2^64 that may carry
a plus sign. An expression is accepted exactly when it has that form, and gives its keys and indices
in order; else the first segment that has not that form is reported (`FieldPath.parse_iff_grammar`).
What is printed of a path is accepted and gives the path back.
-/
namespace ClusterGraph

/-! ## Numbers and pieces of a text -/

namespace Text

theorem digit?_eq_some_iff {c : Char} {n : Nat} :
    digit? 10 c = some n ↔ c.isDigit = true ∧ n = c.toNat - '0'.toNat := by
  have range : c.isDigit = true ↔ '0' ≤ c ∧ c ≤ '9' := by simp [Char.isDigit, Char.le_def]
  unfold digit?
  by_cases digit : '0' ≤ c ∧ c ≤ '9'
  · have upper : c.toNat ≤ 57 := digit.2
    have small : c.toNat - '0'.toNat < 10 := by
      have zero : '0'.toNat = 48 := rfl
      omega
    simp only [if_pos digit, if_pos small, range.mpr digit, true_and, Option.some.injEq]
    exact eq_comm
  · have other : c.isDigit = false := by
      rw [← Bool.not_eq_true, range]
      exact digit
    have big (m : Nat) : ¬ m + 10 < 10 := by omega
    simp only [if_neg digit, other, Bool.false_eq_true, false_and, iff_false]
    split
    · simp [big]
    · split
      · simp [big]
      · simp

/-- Digits have the values that make up the number. -/
theorem mapM_digit?_eq_some_iff {cs : List Char} {ds : List Nat} :
    cs.mapM (digit? 10) = some ds ↔
      (∀ c ∈ cs, c.isDigit = true) ∧ ds = cs.map fun c => c.toNat - '0'.toNat := by
  induction cs generalizing ds with
  | nil => exact ⟨fun none_ => ⟨nofun, (Option.some.inj none_).symm⟩, fun none_ => none_.2 ▸ rfl⟩
  | cons c rest ih =>
    simp only [List.mapM_cons, Option.bind_eq_bind, Option.bind_eq_some_iff, digit?_eq_some_iff, ih,
      Option.pure_def, Option.some.injEq, List.forall_mem_cons, List.map_cons]
    constructor
    · rintro ⟨d, ⟨digit, rfl⟩, more, ⟨digits, rfl⟩, rfl⟩
      exact ⟨⟨digit, digits⟩, rfl⟩
    · rintro ⟨⟨digit, digits⟩, rfl⟩
      exact ⟨_, ⟨digit, rfl⟩, _, ⟨digits, rfl⟩, rfl⟩

theorem numeral?_eq_some_iff {cs : List Char} {n : Nat} :
    numeral? 10 cs = some n ↔
      cs ≠ [] ∧ (∀ c ∈ cs, c.isDigit = true) ∧ Nat.ofDigitChars 10 cs 0 = n := by
  have value (start : Nat) :
      (cs.map fun c => c.toNat - '0'.toNat).foldl (fun n d => n * 10 + d) start =
        Nat.ofDigitChars 10 cs start := by
    rw [List.foldl_map, Nat.ofDigitChars]
    simp only [Nat.mul_comm]
  unfold numeral?
  split
  · next empty => simp [List.isEmpty_iff.mp empty]
  · next some_ =>
    have some_ : cs ≠ [] := fun empty => some_ (List.isEmpty_iff.mpr empty)
    simp only [Option.map_eq_some_iff, mapM_digit?_eq_some_iff]
    constructor
    · rintro ⟨ds, ⟨digits, rfl⟩, rfl⟩
      exact ⟨some_, digits, (value 0).symm⟩
    · rintro ⟨-, digits, rfl⟩
      exact ⟨_, ⟨digits, rfl⟩, value 0⟩

theorem decimal?_eq_some_iff {bits : Nat} {cs : List Char} {n : Nat} :
    decimal? bits cs = some n ↔ numeral? 10 cs = some n ∧ n < 2 ^ bits := by
  simp [decimal?, Option.filter_eq_some_iff]

/-- Splitting at a separator is what the library's lists do. -/
theorem pieces_eq_splitOn (separator : Char) (cs : List Char) :
    pieces separator cs = cs.splitOn separator := by
  induction cs with
  | nil => rfl
  | cons c rest ih =>
    unfold List.splitOn at ih ⊢
    rw [List.splitOnP_cons_eq_if_modifyHead, ← ih]
    simp only [pieces, beq_iff_eq]
    split
    · rfl
    · cases split : pieces separator rest with
      | nil => exact absurd split (pieces_ne_nil separator rest)
      | cons piece more => rfl

end Text

namespace FieldPath

/-! ## The grammar -/

/-- The written forms of an index: digits of a number below 2^64, with a plus sign or without. -/
def Numbers (cs : List Char) (i : Nat) : Prop :=
  ∃ digits : List Char, (cs = digits ∨ cs = '+' :: digits) ∧ digits ≠ [] ∧
    (∀ c ∈ digits, c.isDigit = true) ∧ Nat.ofDigitChars 10 digits 0 = i ∧ i < 2 ^ 64

/-- Indices in brackets, and the steps that they are. -/
inductive Brackets : List Char → Path → Prop where
  | none : Brackets [] []
  | index {cs rest : List Char} {i : Nat} {steps : Path} (number : Numbers cs i)
      (more : Brackets rest steps) : Brackets ('[' :: (cs ++ ']' :: rest)) (.index i :: steps)

/-- What may stand as a key: it is not empty and holds neither points nor brackets. -/
def IsKey (k : List Char) : Prop := k ≠ [] ∧ ∀ c ∈ k, c ≠ '.' ∧ c ≠ '[' ∧ c ≠ ']'

/-- A key with its indices, and the steps that they are. -/
def Segment (cs : List Char) (steps : Path) : Prop :=
  ∃ k rest indices, IsKey k ∧ Brackets rest indices ∧ cs = k ++ rest ∧
    steps = .key (String.ofList k) :: indices

/-- A text with points between its segments, none of which holds a point. -/
structure Pointed (cs : List Char) (segs : List (List Char)) : Prop where
  joined : ['.'].intercalate segs = cs
  some_ : segs ≠ []
  free : ∀ seg ∈ segs, '.' ∉ seg

/-- The error for a segment that is none: it has no key, or what is in it is malformed. -/
def fault (position : Nat) (seg : List Char) : PathError :=
  if seg = [] ∨ seg.head? = some '[' then .emptySegment position
  else .malformedIndex (String.ofList seg)

/-- An expression less one leading point, if it has one. -/
def body (expr : String) : List Char :=
  match expr.toList with
  | '.' :: rest => rest
  | cs => cs

/-- Steps that an expression can name: keys that may stand there, and indices below 2^64. -/
def Nameable : Step → Prop
  | .key k => IsKey k.toList
  | .index i => i < 2 ^ 64

/-- Paths that an expression can name. -/
structure Printable (path : Path) : Prop where
  starts : ∃ k rest, path = .key k :: rest
  each : ∀ s ∈ path, Nameable s

/-! ## Segments -/

theorem unsigned?_eq_some_iff {cs : List Char} {i : Nat} :
    Text.unsigned? 64 cs = some i ↔ Numbers cs i := by
  have digits_iff (digits : List Char) : Text.decimal? 64 digits = some i ↔ digits ≠ [] ∧
      (∀ c ∈ digits, c.isDigit = true) ∧ Nat.ofDigitChars 10 digits 0 = i ∧ i < 2 ^ 64 := by
    rw [Text.decimal?_eq_some_iff, Text.numeral?_eq_some_iff, and_assoc, and_assoc]
  unfold Text.unsigned? Numbers
  split
  · next digits =>
    rw [digits_iff]
    constructor
    · exact fun known => ⟨digits, .inr rfl, known⟩
    · rintro ⟨_, rfl | same, known⟩
      · have plus := known.2.1 '+' List.mem_cons_self
        cases plus
      · cases same
        exact known
  · next unsigned =>
    rw [digits_iff]
    constructor
    · exact fun known => ⟨cs, .inl rfl, known⟩
    · rintro ⟨digits, rfl | rfl, known⟩
      · exact known
      · exact absurd rfl (unsigned digits)

/-- A number holds neither points nor brackets. -/
theorem Numbers.plain {cs : List Char} {i : Nat} (number : Numbers cs i) :
    ∀ c ∈ cs, c ≠ '.' ∧ c ≠ ']' := by
  obtain ⟨digits, form, -, each, -⟩ := number
  have plain : ∀ c ∈ digits, c ≠ '.' ∧ c ≠ ']' := by
    intro c member
    have digit := each c member
    constructor
    · rintro rfl
      cases digit
    · rintro rfl
      cases digit
  intro c member
  rcases form with rfl | rfl
  · exact plain c member
  · rcases List.mem_cons.mp member with rfl | inside
    · decide
    · exact plain c inside

/-- Reading up to a bracket that closes. -/
theorem takeWhile_bracket {cs : List Char} (open_ : ∀ c ∈ cs, c ≠ ']') (rest : List Char) :
    (cs ++ ']' :: rest).takeWhile (· != ']') = cs ∧
      (cs ++ ']' :: rest).dropWhile (· != ']') = ']' :: rest := by
  have all : ∀ c ∈ cs, (c != ']') = true := fun c member => bne_iff_ne.mpr (open_ c member)
  constructor
  · rw [List.takeWhile_append_of_pos all]
    simp
  · rw [List.dropWhile_append_of_pos all]
    simp

/-- What stands behind the characters before a bracket that closes begins with it. -/
theorem eq_of_dropWhile {cs after : List Char} {c : Char}
    (found : cs.dropWhile (· != ']') = c :: after) :
    cs = cs.takeWhile (· != ']') ++ ']' :: after := by
  have closes := List.head?_dropWhile_not (· != ']') cs
  rw [found] at closes
  have closes : c = ']' := by simpa using closes
  have whole := List.takeWhile_append_dropWhile (p := (· != ']')) (l := cs)
  rw [found, closes] at whole
  exact whole.symm

theorem brackets_of_indices? {fuel : Nat} {cs : List Char} {steps : Path}
    (read : indices? fuel cs = some steps) : Brackets cs steps := by
  fun_induction indices? fuel cs generalizing steps with
  | case1 =>
    cases read
    exact .none
  | case2 => cases read
  | case3 => cases read
  | case4 fuel rest close after closed ih =>
    simp only [Option.bind_eq_bind, Option.bind_eq_some_iff, Option.pure_def,
      Option.some.injEq] at read
    obtain ⟨i, number, more, others, rfl⟩ := read
    rw [eq_of_dropWhile closed]
    exact .index (unsigned?_eq_some_iff.mp number) (ih others)
  | case5 => cases read

/-- Indices are read if the fuel is enough for them. -/
theorem indices?_of_brackets {cs : List Char} {steps : Path} (brackets : Brackets cs steps)
    {fuel : Nat} (enough : cs.length ≤ fuel) : indices? fuel cs = some steps := by
  induction brackets generalizing fuel with
  | none => cases fuel <;> rfl
  | @index cs rest i steps number more ih =>
    obtain ⟨fuel, rfl⟩ : ∃ less, fuel = less + 1 := by
      cases fuel with
      | zero => simp at enough
      | succ less => exact ⟨less, rfl⟩
    have shorter : rest.length ≤ fuel := by
      simp at enough
      omega
    obtain ⟨before, after⟩ := takeWhile_bracket (fun c member => (number.plain c member).2) rest
    simp [indices?, before, after, unsigned?_eq_some_iff.mpr number, ih shorter]

/-- Brackets begin with one that opens, unless there are none. -/
theorem Brackets.head? {cs : List Char} {steps : Path} (brackets : Brackets cs steps) :
    cs = [] ∨ ∃ rest, cs = '[' :: rest := by
  cases brackets with
  | none => exact .inl rfl
  | index => exact .inr ⟨_, rfl⟩

/-- A segment falls into its key and its brackets. -/
theorem takeWhile_key {k rest : List Char} (key : IsKey k)
    (opens : rest = [] ∨ ∃ r, rest = '[' :: r) :
    (k ++ rest).takeWhile (· != '[') = k ∧ (k ++ rest).dropWhile (· != '[') = rest := by
  have all : ∀ c ∈ k, (c != '[') = true := fun c member => bne_iff_ne.mpr (key.2 c member).2.1
  rw [List.takeWhile_append_of_pos all, List.dropWhile_append_of_pos all]
  rcases opens with rfl | ⟨r, rfl⟩
  · simp
  · simp

theorem segment_of_grammar {seg : List Char} {steps : Path} (legible : Segment seg steps)
    (position : Nat) : segment position seg = .ok steps := by
  obtain ⟨k, rest, indices, key, brackets, rfl, rfl⟩ := legible
  obtain ⟨before, after⟩ := takeWhile_key key brackets.head?
  have some_ : k.isEmpty = false := List.isEmpty_eq_false_iff.mpr key.1
  have open_ : k.contains ']' = false := by
    rw [← Bool.not_eq_true, List.contains_iff_mem]
    exact fun member => (key.2 ']' member).2.2 rfl
  have read : indices? (k ++ rest).length rest = some indices :=
    indices?_of_brackets brackets (by simp)
  unfold segment
  simp only [before, after, some_, open_, read, Bool.false_eq_true, if_false]

/-- A segment has no key if it is empty or begins with a bracket. -/
theorem keyless_iff (seg : List Char) :
    seg.takeWhile (· != '[') = [] ↔ seg = [] ∨ seg.head? = some '[' := by
  cases seg with
  | nil => simp
  | cons c rest => by_cases opens : c = '[' <;> simp [opens]

/-- What is not read is at fault. -/
theorem segment_error {position : Nat} {seg : List Char} {e : PathError}
    (refused : segment position seg = .error e) : e = fault position seg := by
  unfold segment at refused
  unfold fault
  dsimp only at refused
  split at refused
  · next keyless =>
    cases refused
    rw [if_pos ((keyless_iff seg).mp (List.isEmpty_iff.mp keyless))]
  · next keyed =>
    rw [if_neg fun keyless => keyed (List.isEmpty_iff.mpr ((keyless_iff seg).mpr keyless))]
    split at refused
    · cases refused
      rfl
    · split at refused
      · cases refused
      · cases refused
        rfl

theorem grammar_of_segment {position : Nat} {seg : List Char} {steps : Path} (free : '.' ∉ seg)
    (read : segment position seg = .ok steps) : Segment seg steps := by
  unfold segment at read
  dsimp only at read
  split at read
  · cases read
  · next keyed =>
    split at read
    · cases read
    · next open_ =>
      split at read
      · next indices brackets =>
        cases read
        refine ⟨_, _, indices, ⟨?_, ?_⟩, brackets_of_indices? brackets,
          List.takeWhile_append_dropWhile.symm, rfl⟩
        · simpa using keyed
        · intro c member
          refine ⟨?_, ?_, ?_⟩
          · rintro rfl
            exact free ((List.takeWhile_sublist _).subset member)
          · simpa using List.all_eq_true.mp List.all_takeWhile c member
          · rintro rfl
            exact open_ (List.contains_iff_mem.mpr member)
      · cases read

/-- A segment is read as the steps that it spells, or it spells none and is at fault. -/
theorem segment_cases (position : Nat) {seg : List Char} (free : '.' ∉ seg) :
    (∃ steps, Segment seg steps ∧ segment position seg = .ok steps) ∨
      (¬ (∃ steps, Segment seg steps) ∧ segment position seg = .error (fault position seg)) := by
  cases outcome : segment position seg with
  | ok steps => exact .inl ⟨steps, grammar_of_segment free outcome, rfl⟩
  | error e =>
    refine .inr ⟨?_, congrArg Except.error (segment_error outcome)⟩
    rintro ⟨steps, legible⟩
    rw [segment_of_grammar legible position] at outcome
    cases outcome

/-! ## Segments in order -/

/-- Segments are read as the steps that they spell, in order. -/
theorem segments_eq_ok_iff {position : Nat} {segs : List (List Char)} {path : Path}
    (free : ∀ seg ∈ segs, '.' ∉ seg) :
    segments position segs = .ok path ↔
      ∃ steps, List.Forall₂ Segment segs steps ∧ path = steps.flatten := by
  induction segs generalizing position path with
  | nil =>
    constructor
    · rintro ⟨⟩
      exact ⟨[], .nil, rfl⟩
    · rintro ⟨_, ⟨⟩, rfl⟩
      rfl
  | cons seg rest ih =>
    obtain ⟨here, later⟩ := List.forall_mem_cons.mp free
    simp only [segments, bind, Except.bind]
    rcases segment_cases position here with ⟨first, legible, read⟩ | ⟨illegible, refused⟩
    · rw [read]
      dsimp only
      constructor
      · intro whole
        cases others : segments (position + 1) rest with
        | error e =>
          rw [others] at whole
          cases whole
        | ok more =>
          rw [others] at whole
          cases whole
          obtain ⟨steps, spelled, rfl⟩ := (ih later).mp others
          exact ⟨first :: steps, .cons legible spelled, rfl⟩
      · rintro ⟨_, spelled, rfl⟩
        cases spelled with
        | @cons _ first' _ steps here more =>
          have same : first' = first := by
            have again := segment_of_grammar here position
            rw [read] at again
            exact (Except.ok.inj again).symm
          rw [(ih later).mpr ⟨steps, more, rfl⟩, same]
          rfl
    · rw [refused]
      constructor
      · nofun
      · rintro ⟨_, spelled, rfl⟩
        cases spelled with
        | cons here more => exact absurd ⟨_, here⟩ illegible

/-- The first segment that spells no steps is reported, with its position. -/
theorem segments_eq_error_iff {position : Nat} {segs : List (List Char)} {e : PathError}
    (free : ∀ seg ∈ segs, '.' ∉ seg) :
    segments position segs = .error e ↔
      ∃ before seg after, segs = before ++ seg :: after ∧
        (∀ s ∈ before, ∃ steps, Segment s steps) ∧ (¬ ∃ steps, Segment seg steps) ∧
        e = fault (position + before.length) seg := by
  induction segs generalizing position with
  | nil =>
    constructor
    · nofun
    · rintro ⟨before, seg, after, split, -⟩
      simp at split
  | cons seg rest ih =>
    obtain ⟨here, later⟩ := List.forall_mem_cons.mp free
    simp only [segments, bind, Except.bind]
    rcases segment_cases position here with ⟨first, legible, read⟩ | ⟨illegible, refused⟩
    · rw [read]
      dsimp only
      have others : (∃ before s after, seg :: rest = before ++ s :: after ∧
          (∀ s ∈ before, ∃ steps, Segment s steps) ∧ (¬ ∃ steps, Segment s steps) ∧
          e = fault (position + before.length) s) ↔ segments (position + 1) rest = .error e := by
        rw [ih later]
        constructor
        · rintro ⟨_ | ⟨b, before⟩, s, after, split, fine, bad, rfl⟩
          · cases split
            exact absurd ⟨first, legible⟩ bad
          · cases split
            refine ⟨before, s, after, rfl, fun t member => fine t (List.mem_cons_of_mem _ member),
              bad, ?_⟩
            rw [List.length_cons]
            congr 1
            omega
        · rintro ⟨before, s, after, rfl, fine, bad, rfl⟩
          refine ⟨seg :: before, s, after, rfl, ?_, bad, ?_⟩
          · exact List.forall_mem_cons.mpr ⟨⟨first, legible⟩, fine⟩
          · rw [List.length_cons]
            congr 1
            omega
      rw [others]
      cases segments (position + 1) rest with
      | error f => exact Iff.rfl
      | ok more => exact ⟨nofun, nofun⟩
    · rw [refused]
      constructor
      · rintro ⟨⟩
        exact ⟨[], seg, rest, rfl, nofun, illegible, rfl⟩
      · rintro ⟨_ | ⟨b, before⟩, s, after, split, fine, bad, rfl⟩
        · cases split
          rfl
        · cases split
          exact absurd (fine _ List.mem_cons_self) illegible

/-- A text has one way to fall into segments. -/
theorem pointed_iff {cs : List Char} {segs : List (List Char)} :
    Pointed cs segs ↔ Text.pieces '.' cs = segs := by
  rw [Text.pieces_eq_splitOn]
  constructor
  · rintro ⟨rfl, some_, free⟩
    exact List.splitOn_intercalate '.' free some_
  · rintro rfl
    refine ⟨List.intercalate_splitOn '.', ?_, ?_⟩
    · rw [← Text.pieces_eq_splitOn]
      exact Text.pieces_ne_nil '.' cs
    · rw [← Text.pieces_eq_splitOn]
      exact fun seg member inside => (Text.mem_of_mem_pieces '.' cs seg member '.' inside).2 rfl

/-! ## What is printed -/

theorem numbers_toString {i : Nat} (small : i < 2 ^ 64) : Numbers (toString i).toList i := by
  have written : (toString i).toList = Nat.toDigits 10 i := by
    simp [Nat.repr_eq_ofList_toDigits]
  rw [written]
  refine ⟨_, .inl rfl, Nat.toDigits_ne_nil, ?_, ?_, small⟩
  · exact fun c member => Nat.isDigit_of_mem_toDigits (by decide) (by decide) member
  · exact Nat.ofDigitChars_toDigits (by decide) (by decide)

theorem Brackets.append {cs ds : List Char} {steps more : Path} (first : Brackets cs steps)
    (second : Brackets ds more) : Brackets (cs ++ ds) (steps ++ more) := by
  induction first with
  | none => exact second
  | @index cs rest i steps number _ ih =>
    have joined : '[' :: (cs ++ ']' :: rest) ++ ds = '[' :: (cs ++ ']' :: (rest ++ ds)) := by simp
    rw [joined]
    exact .index number ih

theorem Brackets.free {cs : List Char} {steps : Path} (brackets : Brackets cs steps) :
    '.' ∉ cs := by
  induction brackets with
  | none => exact nofun
  | @index cs rest i steps number _ ih =>
    have inside : '.' ∉ cs := fun member => (number.plain '.' member).1 rfl
    simp [inside, ih]

theorem Segment.free {cs : List Char} {steps : Path} (segment : Segment cs steps) : '.' ∉ cs := by
  obtain ⟨k, rest, indices, key, brackets, rfl, rfl⟩ := segment
  intro member
  rcases List.mem_append.mp member with inside | behind
  · exact (key.2 '.' inside).1 rfl
  · exact brackets.free behind

theorem toList_keyText (k : String) : (Step.key k).text.toList = '.' :: k.toList := by
  simp [Step.text]

theorem toList_indexText (i : Nat) :
    (Step.index i).text.toList = '[' :: ((toString i).toList ++ [']']) := by
  simp [Step.text]

/-- What is printed of steps continues the segment before it, or ends it. -/
theorem printed_steps (rest : Path) (each : ∀ s ∈ rest, Nameable s) {k cs : List Char}
    {indices : Path} (key : IsKey k) (brackets : Brackets cs indices) :
    ∃ segs steps, Pointed (k ++ cs ++ (String.join (rest.map Step.text)).toList) segs ∧
      List.Forall₂ Segment segs steps ∧
      steps.flatten = .key (String.ofList k) :: (indices ++ rest) := by
  have segment : Segment (k ++ cs) (.key (String.ofList k) :: indices) :=
    ⟨k, cs, indices, key, brackets, rfl, rfl⟩
  induction rest generalizing k cs indices with
  | nil =>
    refine ⟨[k ++ cs], [_], ⟨?_, nofun, ?_⟩, .cons segment .nil, by simp⟩
    · simp [List.intercalate]
    · simpa using segment.free
  | cons s more ih =>
    obtain ⟨here, later⟩ := List.forall_mem_cons.mp each
    cases s with
    | key k' =>
      have key' : IsKey k'.toList := here
      obtain ⟨segs, steps, pointed, spelled, whole⟩ := ih later key' .none
        ⟨_, _, _, key', .none, rfl, rfl⟩
      obtain ⟨first, others, rfl⟩ := List.exists_cons_of_ne_nil pointed.some_
      refine ⟨(k ++ cs) :: first :: others, _ :: steps, ⟨?_, nofun, ?_⟩, .cons segment spelled, ?_⟩
      · rw [List.intercalate_cons_cons, pointed.joined]
        simp [toList_keyText, String.toList_join]
      · exact List.forall_mem_cons.mpr ⟨segment.free, pointed.free⟩
      · rw [List.flatten_cons, whole]
        simp
    | index i =>
      have number : Numbers (toString i).toList i := numbers_toString here
      have longer := brackets.append (.index number .none)
      obtain ⟨segs, steps, pointed, spelled, whole⟩ := ih later key longer
        ⟨_, _, _, key, longer, rfl, rfl⟩
      refine ⟨segs, steps, ?_, spelled, by simp [whole]⟩
      have text : k ++ cs ++ (String.join ((Step.index i :: more).map Step.text)).toList =
          k ++ (cs ++ '[' :: ((toString i).toList ++ [']'])) ++
            (String.join (more.map Step.text)).toList := by
        simp [toList_indexText, String.toList_join]
      rw [text]
      exact pointed

/-! ## Expressions -/

theorem parse_eq (expr : String) : parse expr =
    if (body expr).isEmpty then .error .empty else segments 0 (Text.pieces '.' (body expr)) :=
  rfl

/-- What an expression is read as. -/
theorem parse_eq_ok_iff {expr : String} {path : Path} :
    parse expr = .ok path ↔ ∃ segs steps, Pointed (body expr) segs ∧
      List.Forall₂ Segment segs steps ∧ path = steps.flatten := by
  have read := @segments_eq_ok_iff 0 _ path
    (pointed_iff.mpr (Eq.refl (Text.pieces '.' (body expr)))).free
  rw [parse_eq]
  constructor
  · intro parsed
    split at parsed
    · cases parsed
    · obtain ⟨steps, spelled, rfl⟩ := read.mp parsed
      exact ⟨_, steps, pointed_iff.mpr rfl, spelled, rfl⟩
  · rintro ⟨segs, steps, pointed, spelled, rfl⟩
    have same := pointed_iff.mp pointed
    rw [if_neg]
    · exact read.mpr ⟨steps, same ▸ spelled, rfl⟩
    · -- A segment has a key, so the text is not empty.
      intro empty
      rw [List.isEmpty_iff.mp empty] at same
      subst same
      cases spelled with
      | cons first _ =>
        obtain ⟨k, rest, indices, key, -, joined, -⟩ := first
        exact key.1 (List.append_eq_nil_iff.mp joined.symm).1

/-- Which error an expression has. -/
theorem parse_eq_error_iff {expr : String} {e : PathError} :
    parse expr = .error e ↔ (body expr = [] ∧ e = .empty) ∨ (body expr ≠ [] ∧
      ∃ before seg after, Pointed (body expr) (before ++ seg :: after) ∧
        (∀ s ∈ before, ∃ steps, Segment s steps) ∧ (¬ ∃ steps, Segment seg steps) ∧
        e = fault before.length seg) := by
  have refused := @segments_eq_error_iff 0 _ e
    (pointed_iff.mpr (Eq.refl (Text.pieces '.' (body expr)))).free
  simp only [pointed_iff]
  rw [parse_eq]
  by_cases empty : body expr = []
  · rw [empty]
    simp [eq_comm]
  · rw [if_neg fun none => empty (List.isEmpty_iff.mp none), refused]
    simp [empty]

theorem Brackets.nameable {cs : List Char} {steps : Path} (brackets : Brackets cs steps) :
    ∀ s ∈ steps, Nameable s := by
  induction brackets with
  | none => exact nofun
  | index number _ ih =>
    obtain ⟨_, _, _, _, _, small⟩ := number
    exact List.forall_mem_cons.mpr ⟨small, ih⟩

theorem Segment.nameable {cs : List Char} {steps : Path} (segment : Segment cs steps) :
    ∀ s ∈ steps, Nameable s := by
  obtain ⟨k, rest, indices, key, brackets, rfl, rfl⟩ := segment
  have named : Nameable (.key (String.ofList k)) := by
    simpa [Nameable, String.toList_ofList] using key
  exact List.forall_mem_cons.mpr ⟨named, brackets.nameable⟩

/-- What is read of an expression can be printed. -/
theorem printable_of_parse {expr : String} {path : Path} (parsed : parse expr = .ok path) :
    Printable path := by
  obtain ⟨segs, steps, pointed, spelled, rfl⟩ := parse_eq_ok_iff.mp parsed
  constructor
  · cases spelled with
    | nil => exact absurd rfl pointed.some_
    | cons first _ =>
      obtain ⟨k, rest, indices, -, -, -, rfl⟩ := first
      exact ⟨String.ofList k, _, rfl⟩
  · clear pointed parsed
    induction spelled with
    | nil => exact nofun
    | cons first _ ih =>
      intro s member
      rw [List.flatten_cons] at member
      rcases List.mem_append.mp member with here | later
      · exact first.nameable s here
      · exact ih s later

theorem Printable.of_append {path more : Path} (printable : Printable (path ++ more))
    (some_ : path ≠ []) : Printable path := by
  obtain ⟨⟨k, rest, starts⟩, each⟩ := printable
  refine ⟨?_, fun s member => each s (List.mem_append_left more member)⟩
  cases path with
  | nil => exact absurd rfl some_
  | cons s others =>
    cases starts
    exact ⟨k, others, rfl⟩

/-- What is printed of a path is read as the path. -/
theorem parse_text {path : Path} (printable : Printable path) : parse path.text = .ok path := by
  obtain ⟨⟨k, rest, rfl⟩, each⟩ := printable
  obtain ⟨key, later⟩ := List.forall_mem_cons.mp each
  have key : IsKey k.toList := key
  obtain ⟨segs, steps, pointed, spelled, whole⟩ := printed_steps rest later key .none
  have text : (Path.text (.key k :: rest)).toList =
      k.toList ++ [] ++ (String.join (rest.map Step.text)).toList := by
    simp [Path.text]
  -- The first character belongs to the key, so there is no leading point to leave out.
  have untouched : body (Path.text (.key k :: rest)) = (Path.text (.key k :: rest)).toList := by
    unfold body
    rw [text]
    obtain ⟨c, others, front⟩ := List.exists_cons_of_ne_nil key.1
    have first := (key.2 c (front ▸ List.mem_cons_self)).1
    rw [front]
    split
    · next starts =>
      cases starts
      exact absurd rfl first
    · rfl
  refine parse_eq_ok_iff.mpr ⟨segs, steps, ?_, spelled, ?_⟩
  · rw [untouched, text]
    exact pointed
  · rw [whole]
    simp

/-- An expression is accepted exactly when it is one in the grammar, and gives its keys and indices
in order. Else it is empty, or its first segment that is none is reported: by its position if it has
no key, and by its text otherwise. What is printed of a path is read as the path. -/
theorem parse_iff_grammar :
    (∀ expr path, parse expr = .ok path ↔ ∃ segs steps, Pointed (body expr) segs ∧
      List.Forall₂ Segment segs steps ∧ path = steps.flatten) ∧
    (∀ expr e, parse expr = .error e ↔ (body expr = [] ∧ e = .empty) ∨ (body expr ≠ [] ∧
      ∃ before seg after, Pointed (body expr) (before ++ seg :: after) ∧
        (∀ s ∈ before, ∃ steps, Segment s steps) ∧ (¬ ∃ steps, Segment seg steps) ∧
        e = if seg = [] ∨ seg.head? = some '[' then .emptySegment before.length
          else .malformedIndex (String.ofList seg))) ∧
    ∀ path, Printable path → parse path.text = .ok path :=
  ⟨fun _ _ => parse_eq_ok_iff, fun _ _ => parse_eq_error_iff, fun _ => parse_text⟩

/-- A point ends a segment even inside brackets. -/
example : parse "a[1.2]" = .error (.malformedIndex "a[1") := by decide +kernel

def ports : Path := [.key "spec", .key "containers", .index 0, .key "ports", .index 2, .index 1]

theorem parse_iff_grammar_of_ports :
    Printable ports ∧ ports.text = "spec.containers[0].ports[2][1]" ∧
      parse "spec.containers[0].ports[2][1]" = .ok ports := by
  have printable : Printable ports := by
    refine ⟨⟨_, _, rfl⟩, ?_⟩
    simp [ports, Nameable, IsKey]
  have text : ports.text = "spec.containers[0].ports[2][1]" := by decide +kernel
  refine ⟨printable, text, ?_⟩
  rw [← text]
  exact parse_iff_grammar.2.2 ports printable

end FieldPath
end ClusterGraph
