/-!
# Fields of a text

A text cut at a character: into all the fields between its occurrences, or into two around its only one.
-/

namespace QueryGateway.Text

/-- The fields of a text between the occurrences of a character. There is one more field than occurrences. -/
def fields (sep : Char) (cs : List Char) : List (List Char) :=
  cs.foldr (fun c done =>
    match done with
    | field :: rest => if c = sep then [] :: field :: rest else (c :: field) :: rest
    | [] => [[c]]) [[]]

/-- Cuts a text at a character that occurs in it exactly once. -/
def splitOnce (sep : Char) (cs : List Char) : Option (List Char × List Char) :=
  match cs.dropWhile (· ≠ sep) with
  | [] => none
  | _ :: rest => if rest.contains sep then none else some (cs.takeWhile (· ≠ sep), rest)

/-- One more character in front starts a new field or belongs to the first one. -/
theorem fields_cons (sep c : Char) (cs : List Char) : ∃ field rest, fields sep cs = field :: rest ∧
    fields sep (c :: cs) = if c = sep then [] :: field :: rest else (c :: field) :: rest := by
  have h : ∀ cs, ∃ field rest, fields sep cs = field :: rest := fun cs => by
    induction cs with
    | nil => exact ⟨[], [], rfl⟩
    | cons d ds ih =>
      obtain ⟨field, rest, hd⟩ := ih
      unfold fields at hd ⊢
      rw [List.foldr_cons, hd]
      by_cases hs : d = sep <;> simp [hs]
  obtain ⟨field, rest, hc⟩ := h cs
  refine ⟨field, rest, hc, ?_⟩
  unfold fields at hc ⊢
  rw [List.foldr_cons, hc]

end QueryGateway.Text
