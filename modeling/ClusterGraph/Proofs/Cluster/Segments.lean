import ClusterGraph.Cluster.Target
import ClusterGraph.Text.Pieces

/-!
# Segments of the path of a request

The path of a target is split at its slashes. A text that goes into a target makes one segment of
the path, as it is, if it holds neither a slash nor a question mark nor a number sign; a text with
one of them makes several segments, or ends the path.
-/
namespace ClusterGraph.Target

def segments (target : String) : List String :=
  (Text.pieces '/' (path target).toList).map String.ofList

/-- A text that makes one segment of a path. -/
def IsSegment (s : String) : Prop := ∀ c ∈ s.toList, c ≠ '/' ∧ c ≠ '?' ∧ c ≠ '#'

instance (s : String) : Decidable (IsSegment s) :=
  inferInstanceAs (Decidable (∀ c ∈ s.toList, c ≠ '/' ∧ c ≠ '?' ∧ c ≠ '#'))

def pathPart (cs : List Char) : List Char := cs.takeWhile fun c => c ≠ '?' && c ≠ '#'

def slashed (parts : List String) : List Char := parts.flatMap fun p => '/' :: p.toList

/-- What is sent of a text has the path that the text begins with. -/
theorem path_of_sentFrom (cs out : List Char) (sent : sentFrom cs = some out) :
    out.takeWhile (fun c => c ≠ '?') = pathPart cs := by
  induction cs generalizing out with
  | nil =>
    cases sent
    rfl
  | cons c rest ih =>
    simp only [sentFrom] at sent
    split at sent
    · next fragment =>
      cases sent
      simp [pathPart, fragment]
    · next not_fragment =>
      split at sent
      · next query =>
        obtain ⟨tail, _, rfl⟩ := Option.map_eq_some_iff.mp sent
        simp [pathPart, query]
      · next not_query =>
        split at sent
        · obtain ⟨tail, sent_tail, rfl⟩ := Option.map_eq_some_iff.mp sent
          have known := ih tail sent_tail
          simp only [pathPart] at known ⊢
          simpa [not_fragment, not_query] using known
        · cases sent

theorem toList_path_of_sent (text target : String) (sent : sent? text = some target) :
    (path target).toList = pathPart text.toList := by
  unfold sent? at sent
  obtain ⟨out, sent_from, rfl⟩ := Option.map_eq_some_iff.mp sent
  simp only [path, String.toList_ofList]
  exact path_of_sentFrom text.toList out sent_from

theorem ne_of_mem_pathPart (cs : List Char) (c : Char) (h : c ∈ pathPart cs) :
    c ≠ '?' ∧ c ≠ '#' := by
  have kept := List.all_eq_true.mp List.all_takeWhile c h
  simpa using kept

/-- Every segment of what is sent is a segment by itself. -/
theorem isSegment_of_mem_segments (text target : String) (sent : sent? text = some target)
    (s : String) (member : s ∈ segments target) : IsSegment s := by
  unfold segments at member
  rw [toList_path_of_sent text target sent] at member
  obtain ⟨piece, piece_member, rfl⟩ := List.mem_map.mp member
  intro c inside
  rw [String.toList_ofList] at inside
  obtain ⟨in_path, not_slash⟩ := Text.mem_of_mem_pieces '/' _ piece piece_member c inside
  exact ⟨not_slash, ne_of_mem_pathPart text.toList c in_path⟩

theorem pathPart_append (cs rest : List Char) (plain : ∀ c ∈ cs, c ≠ '?' ∧ c ≠ '#') :
    pathPart (cs ++ rest) = cs ++ pathPart rest := by
  unfold pathPart
  refine List.takeWhile_append_of_pos ?_
  intro c member
  simpa using plain c member

/-- A query does not count for the path. -/
theorem pathPart_query (cs rest : List Char) : pathPart (cs ++ '?' :: rest) = pathPart cs := by
  unfold pathPart
  induction cs with
  | nil => simp
  | cons c more ih =>
    rw [List.cons_append, List.takeWhile_cons, List.takeWhile_cons, ih]

theorem ne_of_mem_slashed (parts : List String) (plain : ∀ p ∈ parts, IsSegment p) :
    ∀ c ∈ slashed parts, c ≠ '?' ∧ c ≠ '#' := by
  intro c member
  obtain ⟨p, part, inside⟩ := List.mem_flatMap.mp member
  rcases List.mem_cons.mp inside with rfl | within
  · decide
  · exact (plain p part c within).2

/-- Slashed texts fall into their pieces, whatever the pieces of what follows them. -/
theorem pieces_slashed (parts : List String) (tail : List Char) (more : List (List Char))
    (ends : ∀ last : List Char, '/' ∉ last → Text.pieces '/' (last ++ tail) = last :: more)
    (head : List Char) (free : '/' ∉ head) (plain : ∀ p ∈ parts, IsSegment p) :
    Text.pieces '/' (head ++ (slashed parts ++ tail)) =
      head :: (parts.map String.toList ++ more) := by
  induction parts generalizing head with
  | nil => exact ends head free
  | cons p rest ih =>
    have p_free : '/' ∉ p.toList := fun member => (plain p List.mem_cons_self _ member).1 rfl
    have rest_plain : ∀ q ∈ rest, IsSegment q := fun q member =>
      plain q (List.mem_cons_of_mem p member)
    have split_rest := ih p.toList p_free rest_plain
    simp only [slashed, List.flatMap_cons, List.cons_append, List.append_assoc,
      List.map_cons] at split_rest ⊢
    rw [Text.pieces_append '/' head _ free, split_rest]

/-- What a name behind a slash adds to a path; nothing if there is no name. -/
def ending (name : Option String) : List Char :=
  match name with
  | none => []
  | some n => '/' :: pathPart n.toList

def nameSegments (name : Option String) : List String :=
  match name with
  | none => []
  | some n => (Text.pieces '/' (pathPart n.toList)).map String.ofList

/-- Slashed segments and perhaps a name: these are the segments of the target. -/
theorem segments_of_slashed (parts : List String) (name : Option String) (tail : List Char)
    (text target : String) (sent : sent? text = some target)
    (written : text.toList = slashed parts ++ tail) (named : pathPart tail = ending name)
    (plain : ∀ p ∈ parts, IsSegment p) :
    segments target = "" :: parts ++ nameSegments name := by
  unfold segments
  rw [toList_path_of_sent text target sent, written,
    pathPart_append (slashed parts) tail (ne_of_mem_slashed parts plain), named]
  cases name with
  | none =>
    have split_parts := pieces_slashed parts [] [] (fun last free => by
      rw [List.append_nil]
      exact Text.pieces_of_not_mem '/' last free) [] (by simp) plain
    simp only [List.nil_append, List.append_nil] at split_parts
    simp [ending, nameSegments, split_parts, Function.comp_def]
  | some n =>
    have split_parts := pieces_slashed parts ('/' :: pathPart n.toList) _
      (fun last free => Text.pieces_append '/' last _ free) [] (by simp) plain
    simp only [List.nil_append] at split_parts
    simp [ending, nameSegments, split_parts, Function.comp_def]

/-- A name makes at most one segment exactly if its path part holds no slash. -/
theorem length_nameSegments_le (name : Option String) :
    (nameSegments name).length ≤ 1 ↔ ∀ n, name = some n → '/' ∉ pathPart n.toList := by
  cases name with
  | none => simp [nameSegments]
  | some n =>
    simp only [nameSegments, List.length_map, Text.length_pieces]
    constructor
    · intro short m same
      cases same
      exact List.count_eq_zero.mp (by omega)
    · intro free
      have none_left := List.count_eq_zero.mpr (free n rfl)
      omega

/-- Which targets have just the segments that they are meant to have, and at most one more. -/
theorem segments_eq_iff (parts : List String) (name : Option String) (tail : List Char)
    (text target : String) (sent : sent? text = some target)
    (written : text.toList = slashed parts ++ tail) (named : pathPart tail = ending name) :
    (∃ rest, segments target = "" :: parts ++ rest ∧ rest.length ≤ 1) ↔
      (∀ p ∈ parts, IsSegment p) ∧ ∀ n, name = some n → '/' ∉ pathPart n.toList := by
  constructor
  · intro h
    obtain ⟨rest, split_target, short⟩ := h
    have plain : ∀ p ∈ parts, IsSegment p := by
      intro p member
      refine isSegment_of_mem_segments text target sent p ?_
      rw [split_target]
      simp [member]
    have known := segments_of_slashed parts name tail text target sent written named plain
    have same : rest = nameSegments name := List.append_cancel_left (split_target.symm.trans known)
    rw [same] at short
    exact ⟨plain, (length_nameSegments_le name).mp short⟩
  · intro h
    obtain ⟨plain, short⟩ := h
    exact ⟨nameSegments name,
      segments_of_slashed parts name tail text target sent written named plain,
      (length_nameSegments_le name).mpr short⟩

end ClusterGraph.Target
