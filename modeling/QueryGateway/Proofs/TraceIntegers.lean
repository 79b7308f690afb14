import QueryGateway.Proofs.CanonicalTraces
import QueryGateway.Proofs.Json.Integers
import QueryGateway.Proofs.Json.Places
import QueryGateway.Proofs.StrictDecoding

/-!
# Integers of a trace

An integer literal of the trace that an engine prints arrives at the client, at the same place, as a literal of the same
integer, as long as words of 64 bits can say it and no later member with its key takes its place (`Trace.integers_arrive`). A
larger one arrives as the double that it is read as, and need not be the same (`Trace.integers_altered`).
-/

namespace QueryGateway

open Json

/-! ## Numerals of a text -/

namespace Json

/-- A text spells one numeral at most. Behind the sign a spelling starts with a digit, so that the sign can be told. -/
theorem Numeral.eq_of_spelled {x y : Numeral} {t : List Char} (hx : x.Spelled t) (hy : y.Spelled t) : x = y := by
  obtain ⟨u, hu, rfl⟩ := hx
  obtain ⟨u', hu', heq⟩ := hy
  have hread := numeral_append hu Source.breaks_nil
  have hread' := numeral_append hu' Source.breaks_nil
  obtain ⟨c, cs, rfl, hc⟩ := hu.eq_cons
  obtain ⟨c', cs', rfl, hc'⟩ := hu'.eq_cons
  have hminus : ∀ {c : Char}, c.isDigit = true → '-' ≠ c := by
    rintro c hc rfl
    exact absurd hc (by decide)
  cases hsign : x.negative <;> cases hsign' : y.negative <;> rw [hsign, hsign'] at heq
  · obtain ⟨rfl, rfl⟩ := List.cons.inj heq
    rw [hsign] at hread
    rw [hsign', hread] at hread'
    cases hread'
    rfl
  · exact absurd (List.cons.inj heq).1.symm (hminus hc)
  · exact absurd (List.cons.inj heq).1 (hminus hc')
  · obtain ⟨rfl, rfl⟩ := List.cons.inj (List.cons.inj heq).2
    rw [hsign] at hread
    rw [hsign', hread] at hread'
    cases hread'
    rfl

/-- A text without gaps that holds a number spells it. -/
theorem Form.Fills.spelled {x : Numeral} {text : String} (h : (Form.number x).Fills text)
    (hgap : ∀ c ∈ text.toList, isGap (.char c) = false) : x.Spelled text.toList := by
  obtain ⟨g, t, g', hg, hwrites, hg', htext⟩ := h
  have hnone : ∀ gap, Gap gap → (∀ c ∈ gap, c ∈ text.toList) → gap = [] := by
    intro gap hall hin
    refine List.eq_nil_iff_forall_not_mem.2 fun c hc => ?_
    have hone := hall c hc
    rw [hgap c (hin c hc)] at hone
    cases hone
  have hfront : g = [] := hnone g hg fun c hc => by simp [htext, hc]
  have hback : g' = [] := hnone g' hg' fun c hc => by simp [htext, hc]
  rw [htext, hfront, hback, List.nil_append, List.append_nil]
  cases hwrites with
  | number hx => exact hx

end Json

namespace Trace

/-! ## What arrives -/

/-- An integer literal that counts at a place of what the engine printed arrives there as a literal of the same integer if it
is in the range of signed or unsigned words of 64 bits, and else as what is written for the double that it is read as. -/
theorem integers_arrive {stdout : String} {document : Json.Value} (hread : ofOutput stdout = .ok document) {form : Form}
    (hfills : form.Fills stdout) {steps : List Step} {x : Numeral} (hplace : form.at? steps = some (.number x))
    (hinteger : x.IsInteger) :
    ∃ (body : String) (form' : Form) (y : Numeral),
      (∀ stderr bounds, response stdout stderr bounds = some (.document 200 body)) ∧
      form'.Fills body ∧ form'.at? steps = some (.number y) ∧
      (-(2 ^ 63) ≤ x.toRat → x.toRat < 2 ^ 64 → y.toRat = x.toRat) ∧
      (x.toRat < -(2 ^ 63) ∨ 2 ^ 64 ≤ x.toRat → ∃ d, x.value? = some (.real d) ∧ y.toRat = (Number.real d).written) := by
  have hvalue : form.value? maxDepth = some document := by
    rw [← Form.toOption_parse hfills, ← ofOutput, hread]
    rfl
  obtain ⟨depth, w, hw, hstands⟩ := Form.exists_at_of_value? hvalue hplace
  rw [Form.value?] at hw
  obtain ⟨n, hn, rfl⟩ := Option.map_eq_some_iff.1 hw
  have hwritten := Value.at?_form (Form.fits_value? hvalue) hstands
  rw [Value.form] at hwritten
  refine ⟨document.render, document.form, _, response_of_document hread, document.fills_form, hwritten, ?_, ?_⟩
  · intro hlow hhigh
    rw [n.toRat_literal, Numeral.written_eq_toRat hinteger hlow hhigh hn]
  · intro hrange
    obtain ⟨d, rfl⟩ := Numeral.exists_real_of_large hinteger hrange hn
    exact ⟨d, hn, Number.toRat_literal _⟩

/-- The least integer that a word can say, in a list behind a member whose place the list takes. -/
theorem integers_arrive_least :
    ∃ (document : Json.Value) (form form' : Form) (x y : Numeral),
      ofOutput "\x7b\"a\":1,\"a\":[-9223372036854775808]\x7d" = .ok document ∧
      form.Fills "\x7b\"a\":1,\"a\":[-9223372036854775808]\x7d" ∧
      form.at? [.member "a", .item 0] = some (.number x) ∧ x.IsInteger ∧ x.toRat = -(2 ^ 63) ∧
      form'.Fills "\x7b\"a\":[-9223372036854775808]\x7d" ∧
      form'.at? [.member "a", .item 0] = some (.number y) ∧ y.toRat = -(2 ^ 63) := by
  let least : Number := .int (-9223372036854775808)
  let once : Value := .object [("a", .list [.number least])]
  let twice : Value := .object [("a", .number (.int 1)), ("a", .list [.number least])]
  have hone : ((Number.int 1).literal.numeral (Number.int 1).negative).value? = some (.int 1) :=
    Number.value?_int ⟨by decide, by decide⟩
  have hleast : (least.literal.numeral least.negative).value? = some least := Number.value?_int ⟨by decide, by decide⟩
  have htwice : twice.render = "\x7b\"a\":1,\"a\":[-9223372036854775808]\x7d" := by decide +kernel
  have honce : once.render = "\x7b\"a\":[-9223372036854775808]\x7d" := by decide +kernel
  have hfills := htwice ▸ twice.fills_form
  have hread : ofOutput "\x7b\"a\":1,\"a\":[-9223372036854775808]\x7d" = .ok once := by
    refine Form.parse_eq_ok_iff.2 ⟨twice.form, hfills, ?_⟩
    have hdepth : maxDepth = 125 + 1 + 1 := rfl
    simp only [twice, Value.form, Value.formMembers, Value.formItems, hdepth, Form.value?, List.mapM_cons, List.mapM_nil,
      hone, hleast]
    rfl
  have hinteger : (least.literal.numeral least.negative).IsInteger := ⟨rfl, rfl⟩
  have hvalue : (least.literal.numeral least.negative).toRat = -(2 ^ 63) := by
    rw [Number.toRat_literal]
    norm_num [least, Number.written]
  have hplace : twice.form.at? [.member "a", .item 0] = some (.number (least.literal.numeral least.negative)) := rfl
  obtain ⟨body, form', y, hbody, hfills', hplace', hsame, -⟩ := integers_arrive hread hfills hplace hinteger
  have hresponse := Option.some.inj ((hbody "" .standard).symm.trans (response_of_document hread "" .standard))
  injection hresponse with _ _ hencoded
  rw [Text.encode_injective hencoded, honce] at hfills'
  refine ⟨_, twice.form, form', _, y, hread, hfills, hplace, hinteger, hvalue, hfills', hplace', ?_⟩
  rw [hsame (by rw [hvalue]) (by rw [hvalue]; norm_num), hvalue]

/-! ## What does not -/

/-- A body shows a number at a place. -/
def Shows (body : String) (steps : List Step) (q : ℚ) : Prop :=
  ∃ (form : Form) (y : Numeral), form.Fills body ∧ form.Has steps (.number y) ∧ y.toRat = q

/-- An integer literal at a place of what the engine printed is not shown there in the body that the client gets. -/
def Alters (stdout body : String) (steps : List Step) : Prop :=
  ∃ (document : Json.Value) (form : Form) (x : Numeral), ofOutput stdout = .ok document ∧ form.Fills stdout ∧
    form.Has steps (.number x) ∧ x.IsInteger ∧ response stdout "" .standard = some (.document 200 body) ∧
    ¬Shows body steps x.toRat

/-- The double nearest to 2^64 and how it is written. -/
theorem written_large : (Number.real ⟨false, ⟨2 ^ 52, 12⟩⟩).written = 18446744073709552000 := by
  have hshortest : Magnitude.shortest ⟨2 ^ 52, 12⟩ = ⟨18446744073709552, 3⟩ := by decide +kernel
  have hne : (2 ^ 52 : Nat) ≠ 0 := by decide
  simp only [Number.written, hshortest, hne, if_false, signOf, Magnitude.Decimal.toRat]
  norm_num

/-- An integer that takes more than a word arrives as another, and one whose member is given again does not arrive: numbers
are spelled with digits, and that body has none. -/
theorem integers_altered :
    Alters "18446744073709551616" "1.8446744073709552e+19" [] ∧
      Alters "\x7b\"a\":1,\"a\":null\x7d" "\x7b\"a\":null\x7d" [.member "a"] := by
  constructor
  · let large : Value := .number (.int 18446744073709551616)
    let double : Number := .real ⟨false, ⟨2 ^ 52, 12⟩⟩
    have hfills : large.form.Fills "18446744073709551616" := large.fills_form
    have hread : ofOutput "18446744073709551616" = .ok (.number double) := by
      refine Form.parse_eq_ok_iff.2 ⟨large.form, hfills, ?_⟩
      have hnumber : ((Number.int 18446744073709551616).literal.numeral false).value? = some double := by decide +kernel
      exact congrArg (Option.map Value.number) hnumber
    have hbody : (Value.number double).render = "1.8446744073709552e+19" := by decide +kernel
    refine ⟨_, large.form, _, hread, hfills, .here _, ⟨rfl, rfl⟩, ?_, ?_⟩
    · rw [response_of_document hread, hbody]
    · rintro ⟨form, y, hshown, hhas, hvalue⟩
      cases hhas
      have hspelled : (double.literal.numeral double.negative).Spelled "1.8446744073709552e+19".toList :=
        double.spelled_render
      have hgap : "1.8446744073709552e+19".toList.all (fun c => !isGap (.char c)) = true := by decide +kernel
      have hshows := hshown.spelled fun c hc => by simpa using List.all_eq_true.1 hgap c hc
      obtain rfl := Numeral.eq_of_spelled hshows hspelled
      rw [Number.toRat_literal, written_large, Number.toRat_literal] at hvalue
      norm_num [Number.written] at hvalue
  · let twice : Value := .object [("a", .number (.int 1)), ("a", .null)]
    have hfills : twice.form.Fills "\x7b\"a\":1,\"a\":null\x7d" := twice.fills_form
    have hread : ofOutput "\x7b\"a\":1,\"a\":null\x7d" = .ok (.object [("a", .null)]) :=
      Form.parse_eq_ok_iff.2 ⟨twice.form, hfills, rfl⟩
    have hone : twice.form.Has [.member "a"] (.number ((Number.int 1).literal.numeral false)) :=
      .member List.mem_cons_self (.here _)
    refine ⟨_, twice.form, _, hread, hfills, hone, ⟨rfl, rfl⟩, response_of_document hread _ _, ?_⟩
    rintro ⟨form, y, ⟨g, t, g', -, hwrites, -, htext⟩, hhas, -⟩
    obtain ⟨u, ⟨bare, hbare, rfl⟩, hin⟩ := hhas.exists_spelled hwrites
    obtain ⟨c, cs, rfl, hdigit⟩ := hbare.eq_cons
    have hc : c ∈ "\x7b\"a\":null\x7d".toList := by
      have hspelled : c ∈ (if y.negative then '-' :: c :: cs else c :: cs) := by split <;> simp
      rw [htext]
      simp [hin.subset hspelled]
    have hnone : "\x7b\"a\":null\x7d".toList.all (fun c => !c.isDigit) = true := by decide +kernel
    have hnot := List.all_eq_true.1 hnone c hc
    rw [hdigit] at hnot
    cases hnot

end Trace
end QueryGateway
