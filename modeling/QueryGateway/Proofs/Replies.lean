import QueryGateway.Answer.Reply
import QueryGateway.Proofs.Json.Forms
import QueryGateway.Proofs.Json.Members

/-!
# Flat documents are read back

Every reply but a trace, and every error, travels as a flat document of strings. It reads as the object that has these
strings as its members (`Reply.parse_renderFields`), so the client finds under each key what was written there last
(`Json.Members.lookup_insert`).
-/

namespace QueryGateway

open Json

namespace Reply

/-- A flat document as it is read. -/
def ofFields (fields : List (String × String)) : Json.Value :=
  .object (Members.ofList (fields.map fun f => (f.1, .text f.2)))

/-- The characters of a flat document. -/
theorem toList_renderFields (fields : List (String × String)) :
    (renderFields fields).toList =
      '\x7b' :: (separated true (fields.map fun f => memberChars f.1 (quotedChars f.2.toList)) ++ ['\x7d']) := by
  rw [separated_eq_intercalate]
  simp [renderFields, String.toList_intercalate, memberChars, quoted, Function.comp_def]

/-- The form in which a flat document is written. -/
def formOfFields (fields : List (String × String)) : Form :=
  .object (fields.map fun f => (f.1, .text f.2))

/-- A flat document fills its text. -/
theorem fills_renderFields (fields : List (String × String)) : (formOfFields fields).Fills (renderFields fields) := by
  have hwrites : (formOfFields fields).Writes (renderFields fields).toList := by
    rw [toList_renderFields]
    exact .object (listed_separated (fun f _ => member_memberChars (.text (spelled_escaped f.2.toList))) true)
  exact ⟨[], _, [], gap_nil, hwrites, gap_nil, by simp⟩

/-- A flat document reads as the object that has its fields. -/
theorem parse_renderFields (fields : List (String × String)) :
    parse (renderFields fields) = .ok (ofFields fields) := by
  refine Form.parse_eq_ok_iff.mpr ⟨formOfFields fields, fills_renderFields fields, ?_⟩
  have hfields : ∀ f ∈ fields, ((fun m => (Form.value? 126 m.2).map (m.1, ·)) ∘ fun f : String × String =>
      (f.1, Form.text f.2)) f = some (f.1, Value.text f.2) := fun _ _ => rfl
  rw [formOfFields, maxDepth, Form.value?, List.mapM_map, mapM_eq_some_map hfields]
  rfl

end Reply
end QueryGateway
