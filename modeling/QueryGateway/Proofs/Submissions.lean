import QueryGateway.Gateway.SubmissionReader
import QueryGateway.Proofs.Json.Nesting

/-!
# Written submissions are read back

A submission travels as an object with both its fields, an absent one as `null`. It is read as that submission again,
whatever is in its fields, and what stands behind it is left over (`Submission.read_render`).
-/

namespace QueryGateway

open Json

namespace Submission

/-! ## Fields -/

/-- A written field is read as that field. -/
theorem optionalString_renderField (field : Option String) (rest : Source) :
    optionalString (Source.ofChars (renderField field).toList ++ rest) = .ok (field, rest) := by
  cases field with
  | none =>
    have hnull : Source.skipGap (.char 'n' :: (Source.ofChars ['u', 'l', 'l'] ++ rest)) =
        .char 'n' :: (Source.ofChars ['u', 'l', 'l'] ++ rest) := Source.skipGap_cons (by decide) _
    change optionalString (.char 'n' :: (Source.ofChars ['u', 'l', 'l'] ++ rest)) = _
    rw [optionalString, hnull]
    rfl
  | some text =>
    have hquote : ∀ s, Source.skipGap (.char '"' :: s) = .char '"' :: s := Source.skipGap_cons (by decide)
    have hletter : ('"' : Char) ≠ 'n' := by decide
    rw [renderField, quoted, String.toList_ofList, quotedChars, Source.ofChars_cons, List.cons_append, optionalString,
      hquote]
    simp only [hletter, if_false, if_true, string_quoted]
    rfl

/-- So is its value behind a key. -/
theorem fieldValue_renderField (field : Option String) (rest : Source) :
    fieldValue (.char ':' :: (Source.ofChars (renderField field).toList ++ rest)) = .ok (field, rest) := by
  rw [fieldValue, Source.colon_cons]
  exact optionalString_renderField field rest

section
variable (moves fuel : Nat) (first : Bool) (rest : Source)

/-- Reading goes on behind a member whose key and value are taken. -/
theorem members_memberChars {key : String} {field : Option String} {fields fields' : Fields}
    (h : ∀ rest, member moves key fields (.char ':' :: (Source.ofChars (renderField field).toList ++ rest)) =
      .ok (fields', rest)) :
    members moves (fuel + 1) first fields
        (Source.ofChars (if first then memberChars key (renderField field).toList
          else ',' :: memberChars key (renderField field).toList) ++ rest) =
      members moves fuel false fields' rest := by
  rw [members, Source.nextKey_member]
  simp only [string_quoted, h]

/-- The first member is the document. -/
theorem members_document (document : Option String) :
    members moves (fuel + 1) true {} (Source.ofChars (memberChars documentKey (renderField document).toList) ++ rest) =
      members moves fuel false ⟨some document, none⟩ rest := by
  refine members_memberChars moves fuel true rest fun rest => ?_
  rw [member, if_pos rfl, fieldValue_renderField]
  rfl

/-- The second is the expression. -/
theorem members_expression (document expression : Option String) :
    members moves (fuel + 1) false ⟨some document, none⟩
        (Source.ofChars (',' :: memberChars expressionKey (renderField expression).toList) ++ rest) =
      members moves fuel false ⟨some document, some expression⟩ rest := by
  refine members_memberChars moves fuel false rest fun rest => ?_
  rw [member, if_neg (by decide), if_pos rfl, fieldValue_renderField]
  rfl

/-- Behind the last one the submission is complete. -/
theorem members_end (document expression : Option String) :
    members moves (fuel + 1) false ⟨some document, some expression⟩ (.char '\x7d' :: rest) =
      .ok (⟨document, expression⟩, rest) := by
  have hbrace : ∀ s, Source.skipGap (.char '\x7d' :: s) = .char '\x7d' :: s := Source.skipGap_cons (by decide)
  rw [members, Source.nextKey, hbrace]
  rfl

end

/-! ## Submissions -/

/-- The characters of a written submission. -/
theorem toList_render (s : Submission) :
    s.render.toList = '\x7b' :: (memberChars documentKey (renderField s.document).toList ++
      (',' :: memberChars expressionKey (renderField s.expression).toList) ++ ['\x7d']) := by
  have hjoin : ∀ opening next closing : List Char, opening = '\x7b' :: (quotedChars documentKey.toList ++ [':']) →
      next = ',' :: (quotedChars expressionKey.toList ++ [':']) → closing = ['\x7d'] →
      opening ++ (renderField s.document).toList ++ next ++ (renderField s.expression).toList ++ closing =
        '\x7b' :: (memberChars documentKey (renderField s.document).toList ++
          (',' :: memberChars expressionKey (renderField s.expression).toList) ++ ['\x7d']) := by
    rintro _ _ _ rfl rfl rfl
    simp only [memberChars, List.append_assoc, List.cons_append, List.nil_append]
  change ("\x7b\"json_data\":" ++ renderField s.document ++ ",\"query_string\":" ++ renderField s.expression ++
    "\x7d").toList = _
  simp only [String.toList_append]
  exact hjoin _ _ _ (by decide) (by decide) rfl

/-- A written submission is read as that submission, in three steps: two members and the brace. -/
theorem read_render (s : Submission) (rest : Source) :
    read (Source.ofChars s.render.toList ++ rest) = .ok (s, rest) := by
  have hbrace : ∀ s, Source.skipGap (.char '\x7b' :: s) = .char '\x7b' :: s := Source.skipGap_cons (by decide)
  have hopen : Text.Segment.char '\x7b' ≠ .char '[' := by decide
  rw [toList_render, Source.ofChars_cons, List.cons_append, read, hbrace]
  simp only [hopen, if_false, if_true]
  obtain ⟨fuel, hfuel⟩ : ∃ fuel, (Text.Segment.char '\x7b' :: (Source.ofChars
      (memberChars documentKey (renderField s.document).toList ++
        (',' :: memberChars expressionKey (renderField s.expression).toList) ++ ['\x7d']) ++ rest)).length + 1 =
      fuel + 3 := by
    refine ⟨_ - 3, (Nat.sub_add_cancel ?_).symm⟩
    simp [Source.ofChars, memberChars, quotedChars]
  rw [hfuel, Source.ofChars_append, Source.ofChars_append, List.append_assoc, List.append_assoc, members_document,
    members_expression]
  exact members_end _ fuel rest s.document s.expression

end Submission
end QueryGateway
