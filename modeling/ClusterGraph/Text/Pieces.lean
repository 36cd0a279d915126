/-!
# Pieces of a text

A text split at every occurrence of a separator. There is always one piece more than there are
separators, and a piece may be empty.
-/
namespace ClusterGraph.Text

def pieces (separator : Char) : List Char → List (List Char)
  | [] => [[]]
  | c :: rest =>
    if c = separator then [] :: pieces separator rest
    else
      match pieces separator rest with
      | [] => [[c]]
      | piece :: more => (c :: piece) :: more

/-- There is at least one piece. -/
theorem pieces_ne_nil (separator : Char) (cs : List Char) : pieces separator cs ≠ [] := by
  cases cs with
  | nil => simp [pieces]
  | cons c rest =>
    simp only [pieces]
    split
    · simp
    · split <;> simp

/-- One piece more than separators. -/
theorem length_pieces (separator : Char) (cs : List Char) :
    (pieces separator cs).length = cs.count separator + 1 := by
  induction cs with
  | nil => simp [pieces]
  | cons c rest ih =>
    simp only [pieces]
    split
    · next h => simp [h, ih]
    · next h =>
      split
      · next heq => exact absurd heq (pieces_ne_nil separator rest)
      · next piece more heq => simp_all

/-- A piece holds characters of the text, and not the separator. -/
theorem mem_of_mem_pieces (separator : Char) (cs piece : List Char)
    (h : piece ∈ pieces separator cs) : ∀ c ∈ piece, c ∈ cs ∧ c ≠ separator := by
  induction cs generalizing piece with
  | nil =>
    cases List.mem_singleton.mp h
    intro c member
    cases member
  | cons d rest ih =>
    intro c member
    simp only [pieces] at h
    split at h
    · rcases List.mem_cons.mp h with rfl | later
      · cases member
      · have known := ih piece later c member
        exact ⟨List.mem_cons_of_mem d known.1, known.2⟩
    · next different =>
      split at h
      · next none => exact absurd none (pieces_ne_nil separator rest)
      · next first more split_rest =>
        rw [split_rest] at ih
        rcases List.mem_cons.mp h with rfl | later
        · rcases List.mem_cons.mp member with rfl | inside
          · exact ⟨List.mem_cons_self, different⟩
          · have known := ih first List.mem_cons_self c inside
            exact ⟨List.mem_cons_of_mem d known.1, known.2⟩
        · have known := ih piece (List.mem_cons_of_mem first later) c member
          exact ⟨List.mem_cons_of_mem d known.1, known.2⟩

/-- A text without separators is one piece. -/
theorem pieces_of_not_mem (separator : Char) (cs : List Char) (free : separator ∉ cs) :
    pieces separator cs = [cs] := by
  induction cs with
  | nil => rfl
  | cons c rest ih =>
    have different : c ≠ separator := fun same => free (by simp [same])
    have rest_free : separator ∉ rest := fun member => free (List.mem_cons_of_mem c member)
    simp only [pieces, if_neg different, ih rest_free]

/-- What stands before the first separator is a piece. -/
theorem pieces_append (separator : Char) (cs rest : List Char) (free : separator ∉ cs) :
    pieces separator (cs ++ separator :: rest) = cs :: pieces separator rest := by
  induction cs with
  | nil => simp [pieces]
  | cons c more ih =>
    have different : c ≠ separator := fun same => free (by simp [same])
    have more_free : separator ∉ more := fun member => free (List.mem_cons_of_mem c member)
    simp only [List.cons_append, pieces, if_neg different, ih more_free]

end ClusterGraph.Text
