import QueryGateway.Http.Site
import QueryGateway.Proofs.Json.Rearranging

/-!
# A trace reaches the client as the same document

When the visualization engine ended cleanly and what it printed is a document, the client gets the compact text of that
document, and nothing else about the run matters (`Trace.response_of_document`). So it makes no difference to the client
how the engine spelled its strings, where it left gaps and in which order it put the members of an object, and what the
client gets is read as the document the engine printed as long as all its numbers are integers (`Trace.canonical`).
-/

namespace QueryGateway

open Json

namespace Trace

/-- The response to a request for a trace whose engine ended cleanly. -/
def response (stdout stderr : String) (bounds : Bounds) : Http.Answer :=
  Http.Outcome.response (.replied ((Report.exited stdout stderr).verdict .visualization bounds))

/-- It is the compact text of the document that the engine printed. -/
theorem response_of_document {stdout : String} {document : Json.Value} (h : ofOutput stdout = .ok document)
    (stderr : String) (bounds : Bounds) : response stdout stderr bounds = some (.document 200 document.render) := by
  have hverdict : (Report.exited stdout stderr).verdict .visualization bounds = Trace.reply stdout stderr := rfl
  rw [response, hverdict, reply, h]
  rfl

/-- A trace is read by the client as the document that the engine printed, and written again as it came. It depends on the
document alone: gaps, the spelling of strings and the order of members in objects without repeated keys do not change
it. -/
theorem canonical {stdout : String} {document : Json.Value} (hread : ofOutput stdout = .ok document) :
    (∃ form : Form, form.Fills stdout) ∧
      ∀ form : Form, form.Fills stdout → form.Integral →
        ∃ body, (∀ stderr bounds, response stdout stderr bounds = some (.document 200 body)) ∧
          ofOutput body = .ok document ∧ document.render = body ∧
          (∀ stdout', ofOutput stdout' = .ok document →
            ∀ stderr bounds, response stdout' stderr bounds = some (.document 200 body)) ∧
          ∀ form' stdout', form.Rearranged form' → form'.Fills stdout' →
            ∀ stderr bounds, response stdout' stderr bounds = some (.document 200 body) := by
  refine ⟨Form.exists_fills hread, fun form hfills hintegral => ?_⟩
  have hvalue : form.value? maxDepth = some document := by
    rw [← Form.toOption_parse hfills, ← ofOutput, hread]
    rfl
  have hreread : ofOutput document.render = .ok document :=
    (parse_render hread).trans (congrArg _ (hintegral.reread_eq hvalue))
  have hsame : ∀ stdout', ofOutput stdout' = .ok document →
      ∀ stderr bounds, response stdout' stderr bounds = some (.document 200 document.render) :=
    fun _ h => response_of_document h
  refine ⟨document.render, hsame stdout hread, hreread, rfl, hsame, fun form' stdout' hrearranged hfills' => ?_⟩
  have hvalue' : form'.value? maxDepth = some document := (hrearranged.value?_eq maxDepth).symm.trans hvalue
  exact hsame stdout' (Form.parse_eq_ok_iff.mpr ⟨form', hfills', hvalue'⟩)

/-- A document with gaps, an escaped letter and its keys in one order, and the same document without gaps, with an escaped
solidus and its keys in the other. -/
theorem canonical_spelled_otherwise :
    ∃ document, ofOutput " \x7b \"b\" : [ -1 ] , \"a\" : \"\\u0041/\" \x7d " = .ok document ∧
      ofOutput "\x7b\"a\":\"A/\",\"b\":[-1]\x7d" = .ok document ∧
      response "\x7b\"a\":\"A\\/\",\"b\":[-1]\x7d" "" .standard =
        some (.document 200 "\x7b\"a\":\"A/\",\"b\":[-1]\x7d") := by
  let one : Form := .number ⟨true, [1], none, none⟩
  let members : List (String × Form) := [("b", .list [one]), ("a", .text "A/")]
  have hdigits : AllDigits ['1'] := ⟨by simp, by simp⟩
  have hbare : (⟨true, [1], none, none⟩ : Numeral).SpelledBare (['1'] ++ ([] ++ [])) :=
    .mk hdigits (by decide) rfl .absent .absent
  have hone : (⟨true, [1], none, none⟩ : Numeral).Spelled ['-', '1'] := ⟨_, hbare, rfl⟩
  have hlist : ∀ g, Gap g → (Form.list [one]).Writes ('[' :: (g ++ (['-', '1'] ++ g) ++ [']'])) :=
    fun g hg => .list (.cons hg gap_nil (Form.Writes.number hone) (.nil hg))
  have hplain : ∀ c ∈ ['a', 'b', 'A', '/'], Spelling c [c] := by
    intro c hc
    simp only [List.mem_cons, List.not_mem_nil, or_false] at hc
    rcases hc with rfl | rfl | rfl | rfl <;> exact .plain (by decide) (by decide) (by decide)
  have hcode : Spelling 'A' ['\\', 'u', '0', '0', '4', '1'] :=
    .code (n := 0x41) (.mk (x := 0) (y := 0) (z := 4) (w := 1) (by decide) (by decide) (by decide) (by decide)) rfl rfl
  have hsolidus : Spelling '/' ['\\', '/'] := .short rfl
  have hspace : Gap [' '] := by simp [Gap, isGap]
  have hfills : (Form.object members).Fills " \x7b \"b\" : [ -1 ] , \"a\" : \"\\u0041/\" \x7d " :=
    ⟨[' '], _, [' '], hspace, .object (.cons hspace gap_nil (.mk (.cons (hplain 'b' (by simp)) .nil) hspace hspace
      (hlist _ hspace)) (.cons hspace hspace (.mk (.cons (hplain 'a' (by simp)) .nil) hspace hspace
      (.text (.cons hcode (.cons (hplain '/' (by simp)) .nil)))) (.nil hspace))), hspace, by decide⟩
  have hfills' : (Form.object members.reverse).Fills "\x7b\"a\":\"A\\/\",\"b\":[-1]\x7d" :=
    ⟨[], _, [], gap_nil, .object (.cons gap_nil gap_nil (.mk (.cons (hplain 'a' (by simp)) .nil) gap_nil gap_nil
      (.text (.cons (hplain 'A' (by simp)) (.cons hsolidus .nil)))) (.cons gap_nil gap_nil
      (.mk (.cons (hplain 'b' (by simp)) .nil) gap_nil gap_nil (hlist _ gap_nil)) (.nil gap_nil))), gap_nil, by decide⟩
  have hintegral : (Form.object members).Integral := by
    refine .object ?_
    simp only [members, List.mem_cons, List.not_mem_nil, or_false, forall_eq_or_imp, forall_eq]
    refine ⟨.list ?_, .text _⟩
    simp only [List.mem_cons, List.not_mem_nil, or_false, forall_eq]
    exact .number ⟨rfl, rfl, by decide⟩
  have hvalue : (Form.object members).value? maxDepth =
      some (.object [("a", .text "A/"), ("b", .list [.number (.int (-1))])]) := by
    have hsorted : Members.ofList [("b", Value.list [.number (.int (-1))]), ("a", .text "A/")] =
        [("a", .text "A/"), ("b", .list [.number (.int (-1))])] := rfl
    rw [← hsorted]
    rfl
  have hread := Form.parse_eq_ok_iff.mpr ⟨_, hfills, hvalue⟩
  obtain ⟨body, -, hbody, hrender, -, hrearranged⟩ := (canonical hread).2 _ hfills hintegral
  have heq : body = "\x7b\"a\":\"A/\",\"b\":[-1]\x7d" := by
    rw [← hrender]
    decide
  subst heq
  exact ⟨_, hread, hbody, hrearranged _ _ (.order (by decide) members.reverse_perm.symm) hfills' "" .standard⟩

end Trace
end QueryGateway
