import QueryGateway.Proofs.Json.Members
import QueryGateway.Proofs.Json.Passing
import QueryGateway.Proofs.Submissions

/-!
# Submissions and documents

A submission is read from a text by a reader of its own, which takes the two fields, passes over whatever else there is,
and never makes a document of it. On every text that is written in some form it gives what the form says: the two
fields, each met once at most, or the first two items of a list (`Submission.ofForm?`, `Submission.parse_fills`). So
where the text holds a document, this reader and the one that reads any document agree (`Submission.parse_agrees`).
-/

namespace QueryGateway

open Json

namespace Json

/-! ## Strings and `null` -/

/-- The field that a form is: a string, or `null` for none. -/
def Form.field? : Form → Option (Option String)
  | null => some none
  | text s => some (some s)
  | _ => none

/-- A form is a string or `null`. -/
def Form.OptionalText (f : Form) : Prop := f = .null ∨ ∃ s, f = .text s

/-- A document is a string or `null`. -/
def Value.OptionalText (v : Value) : Prop := v = .null ∨ ∃ s, v = .text s

/-- What starts neither a string nor `null` is refused. -/
theorem optionalString_refused {g : List Char} (hgap : Gap g) {c : Char} (hc : isGap (.char c) = false)
    (hnull : c ≠ 'n') (htext : c ≠ '"') (s : Source) :
    (optionalString (Source.ofChars g ++ .char c :: s)).toOption = none := by
  rw [optionalString, Source.skipGap_append hgap, Source.skipGap_cons hc]
  simp only [hnull, htext, if_false]
  rfl

/-- A form is read as the field that it is, or refused when it is none. -/
theorem optionalString_written {f : Form} {t : List Char} (h : f.Writes t) {g : List Char} (hgap : Gap g)
    (rest : Source) : (optionalString (Source.ofChars (g ++ t) ++ rest)).toOption = f.field?.map (·, rest) := by
  rw [Source.ofChars_append, List.append_assoc]
  cases h with
  | null =>
    rw [optionalString, Source.skipGap_append hgap, Source.ofChars_cons, List.cons_append,
      Source.skipGap_cons (by decide)]
    simp only [if_true, word_append]
    rfl
  | true => exact optionalString_refused hgap (by decide) (by decide) (by decide) _
  | false => exact optionalString_refused hgap (by decide) (by decide) (by decide) _
  | number hx =>
    obtain ⟨u, hu, rfl⟩ := hx
    split
    · exact optionalString_refused hgap (by decide) (by decide) (by decide) _
    · obtain ⟨c, cs, rfl, hc⟩ := hu.eq_cons
      exact optionalString_refused hgap (isGap_digit hc) (ne_of_isDigit hc (by decide)) (ne_of_isDigit hc (by decide)) _
  | text hs =>
    have hquote : ('"' : Char) ≠ 'n' := by decide
    rw [optionalString, Source.skipGap_append hgap, Source.ofChars_cons, List.cons_append,
      Source.skipGap_cons (by decide)]
    simp only [hquote, if_false, if_true, string_spelled rest hs]
    rfl
  | list => exact optionalString_refused hgap (by decide) (by decide) (by decide) _
  | object => exact optionalString_refused hgap (by decide) (by decide) (by decide) _

end Json

namespace Submission

/-! ## Objects -/

/-- The fields with one more member: it is one of the two, which must be new and a string or `null`, or something that
is passed over. -/
def Fields.take? (fields : Fields) (m : String × Form) : Option Fields :=
  if m.1 = documentKey then
    if fields.document.isSome then none else m.2.field?.map fun field => ⟨some field, fields.expression⟩
  else if m.1 = expressionKey then
    if fields.expression.isSome then none else m.2.field?.map fun field => ⟨fields.document, some field⟩
  else some fields

section
variable {f : Form} {gap gap' t : List Char} (hgap : Gap gap) (hgap' : Gap gap') (h : f.Writes t)
include hgap hgap' h

theorem fieldValue_written (rest : Source) :
    (fieldValue (Source.ofChars gap ++ .char ':' :: (Source.ofChars (gap' ++ t) ++ rest))).toOption =
      f.field?.map (·, rest) := by
  rw [fieldValue, Source.colon_append hgap]
  exact optionalString_written h hgap' rest

/-- A member is taken with its value. -/
theorem member_written {moves : Nat} (hmoves : 2 * t.length ≤ moves) (key : String) (fields : Fields) {rest : Source}
    (hrest : rest.Breaks) :
    (member moves key fields (Source.ofChars gap ++ .char ':' :: (Source.ofChars (gap' ++ t) ++ rest))).toOption =
      (fields.take? (key, f)).map (·, rest) := by
  have hvalue := fieldValue_written hgap hgap' h rest
  rw [member, Fields.take?]
  simp only
  split
  · split
    · rfl
    · rw [toOption_map, hvalue, Option.map_map, Option.map_map]
      rfl
  split
  · split
    · rfl
    · rw [toOption_map, hvalue, Option.map_map, Option.map_map]
      rfl
  · rw [Source.colon_append hgap]
    simp only [passValue_append hgap' h hrest hmoves]
    rfl

end

/-- Members written between braces are taken one by one. -/
theorem members_written {moves : Nat} {first : Bool} {ms : List (String × Form)} {t : List Char}
    (ht : Listed (Member Form.Writes) first ms t) (hmoves : 2 * t.length ≤ moves) {fuel : Nat} (hfuel : t.length < fuel)
    (fields : Fields) (rest : Source) :
    (members moves fuel first fields (Source.ofChars (t ++ ['\x7d']) ++ rest)).toOption =
      (ms.foldlM Fields.take? fields).map fun fields => (fields.submission, rest) := by
  induction ht generalizing fuel fields with
  | nil hgap =>
    obtain ⟨fuel, rfl⟩ : ∃ n, fuel = n + 1 := ⟨fuel - 1, by omega⟩
    simp only [members, Source.nextKey_end hgap]
    rfl
  | @cons first m ms g g' t ts hgap hgap' hm hms ih =>
    simp only [List.length_append] at hmoves hfuel
    obtain @⟨key, f, k, gap, gap', t, hkey, hcolon, hcolon', hf⟩ := hm
    simp only [List.length_cons, List.length_append] at hmoves hfuel
    obtain ⟨fuel, rfl⟩ : ∃ n, fuel = n + 1 := ⟨fuel - 1, by omega⟩
    have hbreaks := hms.breaks (c := '\x7d') (by simp) rest
    have hvalue : 2 * t.length ≤ moves := by omega
    have hmember := member_written hcolon hcolon' hf hvalue key fields hbreaks
    rw [members, Source.nextKey_listed hgap hgap' first ts '\x7d' rest, List.foldlM_cons]
    simp only [string_spelled _ hkey]
    generalize member moves key fields _ = outcome at hmember ⊢
    cases outcome with
    | error flaw =>
      have hnone : fields.take? (key, f) = none := Option.map_eq_none_iff.mp hmember.symm
      rw [hnone]
      rfl
    | ok r =>
      obtain ⟨fields', htake, rfl⟩ := Option.map_eq_some_iff.mp hmember.symm
      rw [htake]
      exact ih (by omega) (by omega) fields'

/-! ## What a submission takes -/

/-- What is met of a field behind some members: what was met before them, if none of them is for it, and otherwise the
field that the one form is that they have for it. -/
def Meets (before : Option (Option String)) (forms : List Form) (behind : Option (Option String)) : Prop :=
  (forms = [] ∧ behind = before) ∨ ∃ f field, before = none ∧ forms = [f] ∧ f.field? = some field ∧ behind = some field

/-- One more form is met where nothing was, if it is a field. -/
theorem meets_cons {before behind : Option (Option String)} {f : Form} {forms : List Form} :
    Meets before (f :: forms) behind ↔
      before = none ∧ ∃ field, f.field? = some field ∧ Meets (some field) forms behind := by
  constructor
  · rintro (⟨hnil, -⟩ | ⟨f', field, hbefore, hforms, hfield, hbehind⟩)
    · cases hnil
    · cases hforms
      exact ⟨hbefore, field, hfield, .inl ⟨rfl, hbehind⟩⟩
  · rintro ⟨hbefore, field, hfield, ⟨rfl, hbehind⟩ | ⟨_, _, hnone, -⟩⟩
    · exact .inr ⟨f, field, hbefore, rfl, hfield, hbehind⟩
    · cases hnone

/-- It does not matter in which order the forms come. -/
theorem meets_perm {before behind : Option (Option String)} {forms forms' : List Form} (h : forms.Perm forms') :
    Meets before forms behind ↔ Meets before forms' behind := by
  have hnil : forms = [] ↔ forms' = [] := by
    rw [← List.length_eq_zero_iff, h.length_eq, List.length_eq_zero_iff]
  have hone : ∀ f, forms = [f] ↔ forms' = [f] := fun f =>
    ⟨fun hf => List.perm_singleton.mp (hf ▸ h.symm), fun hf => List.perm_singleton.mp (hf ▸ h)⟩
  simp only [Meets, hnil, hone]

/-- Members are taken when for each of the two fields there is at most one, and this is a string or `null`. -/
theorem foldlM_take? {ms : List (String × Form)} {fields fields' : Fields} :
    ms.foldlM Fields.take? fields = some fields' ↔
      Meets fields.document (Members.valuesAt documentKey ms) fields'.document ∧
        Meets fields.expression (Members.valuesAt expressionKey ms) fields'.expression := by
  induction ms generalizing fields with
  | nil =>
    obtain ⟨document, expression⟩ := fields
    obtain ⟨document', expression'⟩ := fields'
    simp [Members.valuesAt, Meets, eq_comm]
  | cons m ms ih =>
    rw [List.foldlM_cons, Members.valuesAt_cons, Members.valuesAt_cons]
    by_cases hdocument : m.1 = documentKey
    · have hother : m.1 ≠ expressionKey := by
        rw [hdocument]
        decide
      rw [if_pos hdocument, if_neg hother, meets_cons, Fields.take?, if_pos hdocument]
      cases hbefore : fields.document with
      | some field => simp
      | none => cases hfield : m.2.field? <;> simp [ih]
    · by_cases hexpression : m.1 = expressionKey
      · rw [if_neg hdocument, if_pos hexpression, meets_cons, Fields.take?, if_neg hdocument, if_pos hexpression]
        cases hbefore : fields.expression with
        | some field => simp
        | none => cases hfield : m.2.field? <;> simp [ih]
      · rw [if_neg hdocument, if_neg hexpression, Fields.take?, if_neg hdocument, if_neg hexpression]
        exact ih

/-! ## Lists -/

/-- The submission that so many items are. -/
def placed? : List Form → Option Submission
  | [] => some {}
  | [f] => f.field?.map fun document => ⟨document, none⟩
  | f :: f' :: others => f.field?.bind fun document => f'.field?.bind fun expression =>
    if others = [] then some ⟨document, expression⟩ else none

section
variable {first : Bool} {t : List Char} (rest : Source)

/-- At the end of a list nothing is taken, and the bracket is. -/
theorem item_end (ht : Listed Form.Writes first [] t) :
    item first (Source.ofChars (t ++ [']']) ++ rest) = .ok (none, Source.ofChars (t ++ [']']) ++ rest) ∧
      Source.closeList (Source.ofChars (t ++ [']']) ++ rest) = .ok rest := by
  cases ht with
  | nil hgap =>
    obtain ⟨hnext, hclose⟩ := Source.nextItem_end hgap first rest
    refine ⟨?_, hclose⟩
    rw [item, hnext]

/-- The next item is taken, and the others are left. -/
theorem item_next {f : Form} {fs : List Form} (ht : Listed Form.Writes first (f :: fs) t) :
    ∃ ts, Listed Form.Writes false fs ts ∧ (item first (Source.ofChars (t ++ [']']) ++ rest)).toOption =
      f.field?.map fun field => (some field, Source.ofChars (ts ++ [']']) ++ rest) := by
  cases ht with
  | @cons _ _ _ g g' t ts hgap hgap' hf hfs =>
    refine ⟨ts, hfs, ?_⟩
    have hread := optionalString_written hf gap_nil (Source.ofChars (ts ++ [']']) ++ rest)
    obtain ⟨c, cs, rfl, hc, hopen⟩ := (Form.passes hf).starts
    rw [List.nil_append] at hread
    rw [item, Source.nextItem_listed hgap hgap' first ts ']' rest hc hopen]
    simp only [toOption_map, hread, Option.map_map]
    rfl

/-- Where another item stands, the list does not end. -/
theorem closeList_next {f : Form} {fs : List Form} (ht : Listed Form.Writes false (f :: fs) t) :
    (Source.closeList (Source.ofChars (t ++ [']']) ++ rest)).toOption = none := by
  cases ht with
  | cons hgap =>
    rw [List.append_assoc, Source.ofChars_append, List.append_assoc, Source.closeList, Source.skipGap_append hgap]
    simp [Source.skipGap_cons (p := .char ',') (by decide)]
    rfl

end

/-- Two values are asked for, and then the list must end. -/
theorem toOption_items (s : Source) : (items s).toOption =
    (item true s).toOption.bind fun d => (item d.1.isNone d.2).toOption.bind fun e =>
      (Source.closeList e.2).toOption.map fun rest => (⟨d.1.join, e.1.join⟩, rest) := by
  rw [items, toOption_bind]
  refine congrArg _ (funext fun d => ?_)
  rw [toOption_bind]
  refine congrArg _ (funext fun e => ?_)
  rw [toOption_bind]
  cases (Source.closeList e.2).toOption <;> rfl

/-- Items written between brackets are taken in their order, and there may be two. -/
theorem items_written {fs : List Form} {t : List Char} (ht : Listed Form.Writes true fs t) (rest : Source) :
    (items (Source.ofChars (t ++ [']']) ++ rest)).toOption = (placed? fs).map (·, rest) := by
  rw [toOption_items]
  cases fs with
  | nil =>
    obtain ⟨hitem, hclose⟩ := item_end rest ht
    generalize Source.ofChars (t ++ [']']) ++ rest = s at hitem hclose
    simp [hitem, hclose, Except.toOption, placed?]
  | cons f fs =>
    obtain ⟨ts, hts, hdocument⟩ := item_next rest ht
    rw [hdocument]
    cases fs with
    | nil =>
      obtain ⟨hitem, hclose⟩ := item_end rest hts
      generalize Source.ofChars (ts ++ [']']) ++ rest = s at hitem hclose
      cases hfield : f.field? <;> simp [hitem, hclose, Except.toOption, placed?, hfield]
    | cons f' fs =>
      obtain ⟨us, hus, hexpression⟩ := item_next rest hts
      generalize Source.ofChars (ts ++ [']']) ++ rest = s at hexpression
      have hdone : (Source.closeList (Source.ofChars (us ++ [']']) ++ rest)).toOption =
          if fs = [] then some rest else none := by
        cases fs with
        | nil => rw [(item_end rest hus).2]; rfl
        | cons => exact closeList_next rest hus
      generalize Source.ofChars (us ++ [']']) ++ rest = s' at hexpression hdone
      rw [placed?]
      cases f.field? with
      | none => rfl
      | some document =>
        simp only [Option.map_some, Option.bind_some, Option.isNone_some, hexpression]
        cases f'.field? with
        | none => rfl
        | some expression =>
          simp only [Option.map_some, Option.bind_some, hdone]
          split <;> rfl

/-! ## Documents -/

/-- The submission that a form is. -/
def ofForm? : Form → Option Submission
  | .object members => (members.foldlM Fields.take? {}).map Fields.submission
  | .list fs => placed? fs
  | _ => none

/-- What begins neither a list nor an object is refused. -/
theorem read_refused {g : List Char} (hgap : Gap g) {c : Char} (hc : isGap (.char c) = false) (hlist : c ≠ '[')
    (hobject : c ≠ '\x7b') (s : Source) : (read (Source.ofChars g ++ .char c :: s)).toOption = none := by
  rw [read, Source.skipGap_append hgap, Source.skipGap_cons hc]
  simp only [Text.Segment.char.injEq, hlist, hobject, if_false]
  rfl

/-- A text that is written in some form is read as the submission that the form is, or refused when it is none. -/
theorem read_written {f : Form} {t : List Char} (h : f.Writes t) {g : List Char} (hgap : Gap g) (rest : Source) :
    (read (Source.ofChars (g ++ t) ++ rest)).toOption = (ofForm? f).map (·, rest) := by
  rw [Source.ofChars_append, List.append_assoc]
  cases h with
  | null => exact read_refused hgap (by decide) (by decide) (by decide) _
  | true => exact read_refused hgap (by decide) (by decide) (by decide) _
  | false => exact read_refused hgap (by decide) (by decide) (by decide) _
  | number hx =>
    obtain ⟨u, hu, rfl⟩ := hx
    split
    · exact read_refused hgap (by decide) (by decide) (by decide) _
    · obtain ⟨c, cs, rfl, hc⟩ := hu.eq_cons
      exact read_refused hgap (isGap_digit hc) (ne_of_isDigit hc (by decide)) (ne_of_isDigit hc (by decide)) _
  | text => exact read_refused hgap (by decide) (by decide) (by decide) _
  | list hfs =>
    rw [read, Source.skipGap_append hgap, Source.ofChars_cons, List.cons_append, Source.skipGap_cons (by decide)]
    simp only [if_true]
    exact items_written hfs rest
  | @object members t hms =>
    have hlength : t.length < (Source.ofChars g ++ (Source.ofChars ('\x7b' :: (t ++ ['\x7d'])) ++ rest)).length := by
      simp [Source.ofChars]
      omega
    have hopen : Text.Segment.char '\x7b' ≠ .char '[' := by decide
    rw [read, Source.skipGap_append hgap]
    generalize (Source.ofChars g ++ (Source.ofChars ('\x7b' :: (t ++ ['\x7d'])) ++ rest)).length = length at hlength
    rw [Source.ofChars_cons, List.cons_append, Source.skipGap_cons (by decide)]
    simp only [hopen, if_false, if_true]
    rw [members_written hms (by rw [passingMoves]; omega) (by omega), ofForm?, Option.map_map]
    rfl

section
variable {f : Form} {text : String} (h : f.Fills text)
include h

/-- At the front of a text that is written in some form, the submission is read that the form is, and nothing but a gap
is left. -/
theorem read_fills : ∃ g, Gap g ∧
    (read (Text.segments (Text.encode text))).toOption = (ofForm? f).map (·, Source.ofChars g) := by
  obtain ⟨g, t, g', hgap, hwrites, hgap', htext⟩ := h
  have hpieces : Text.pieces text = Source.ofChars (g ++ t) ++ Source.ofChars g' := by
    rw [Text.pieces, htext, ← Source.ofChars_append]
    rfl
  refine ⟨g', hgap', ?_⟩
  rw [Text.segments_encode, hpieces, read_written hwrites hgap]

/-- So it is the submission that the text holds. -/
theorem parse_fills : (parse (Text.encode text)).toOption = ofForm? f := by
  obtain ⟨g, hgap, hread⟩ := read_fills h
  have hended : (Source.ofChars g).ended = .ok () := by
    have hskip := Source.skipGap_append hgap []
    rw [List.append_nil] at hskip
    rw [Source.ended, hskip]
    rfl
  rw [parse, toOption_bind, hread]
  cases ofForm? f with
  | none => rfl
  | some s =>
    simp only [Option.map_some, Option.bind_some, hended]
    rfl

end

/-! ## What a submission takes from a document -/

/-- The submission that a document stands for: the strings at its two keys or in its first two places. -/
def ofValue : Value → Submission
  | .object members =>
    ⟨(members.lookup documentKey).bind Value.text?, (members.lookup expressionKey).bind Value.text?⟩
  | .list vs => ⟨vs[0]?.bind Value.text?, vs[1]?.bind Value.text?⟩
  | _ => {}

/-- A form, with its value, that may be submitted: an object in which each of the two keys stands once at most, with a
string or `null`, or a list of two values at most, each of them a string or `null`. -/
inductive Submittable : Form → Value → Prop where
  | object {members : List (String × Form)} {values : List (String × Value)} :
      (∀ key ∈ [documentKey, expressionKey], (Members.valuesAt key members).length ≤ 1 ∧
        ∀ f ∈ Members.valuesAt key members, f.OptionalText) → Submittable (.object members) (.object values)
  | list {fs : List Form} {vs : List Value} : vs.length ≤ 2 → (∀ v ∈ vs, v.OptionalText) →
      Submittable (.list fs) (.list vs)

/-- A form is a field exactly when it is a string or `null`, and then it is the string that its value is. -/
theorem field?_eq_some_iff {f : Form} {depth : Nat} {v : Value} (hv : f.value? depth = some v) {field : Option String} :
    f.field? = some field ↔ f.OptionalText ∧ v.text? = field := by
  cases f with
  | null =>
    rw [Form.value?] at hv
    cases hv
    simp [Form.field?, Value.text?, Form.OptionalText]
  | text s =>
    rw [Form.value?] at hv
    cases hv
    simp [Form.field?, Value.text?, Form.OptionalText]
  | bool | number | list | object => simp [Form.field?, Form.OptionalText]

/-- A string or `null` has a string or `null` as its value, and nothing else has. -/
theorem optionalText_iff {f : Form} {depth : Nat} {v : Value} (hv : f.value? depth = some v) :
    f.OptionalText ↔ v.OptionalText := by
  cases f with
  | null | bool | text =>
    rw [Form.value?] at hv
    cases hv
    simp [Form.OptionalText, Value.OptionalText]
  | number x =>
    rw [Form.value?] at hv
    obtain ⟨n, -, rfl⟩ := Option.map_eq_some_iff.mp hv
    simp [Form.OptionalText, Value.OptionalText]
  | list fs =>
    cases depth with
    | zero => cases hv
    | succ depth =>
      rw [Form.value?] at hv
      obtain ⟨vs, -, rfl⟩ := Option.map_eq_some_iff.mp hv
      simp [Form.OptionalText, Value.OptionalText]
  | object members =>
    cases depth with
    | zero => cases hv
    | succ depth =>
      rw [Form.value?] at hv
      obtain ⟨values, -, rfl⟩ := Option.map_eq_some_iff.mp hv
      simp [Form.OptionalText, Value.OptionalText]

/-- A field is met behind members that have so many forms for it if there is one at most, and this is a string or
`null`. -/
theorem exists_meets_iff {forms : List Form} {depth : Nat} {values : List Value}
    (hvalues : forms.mapM (Form.value? depth) = some values) {field : Option String} :
    (∃ met, Meets none forms met ∧ met.join = field) ↔
      (forms.length ≤ 1 ∧ ∀ f ∈ forms, f.OptionalText) ∧
        values.getLast?.bind Value.text? = field := by
  cases forms with
  | nil =>
    cases hvalues
    simp [Meets]
  | cons f forms =>
    rw [List.mapM_cons] at hvalues
    obtain ⟨v, hv, hvalues⟩ := Option.bind_eq_some_iff.mp hvalues
    obtain ⟨vs, hvs, hvalues⟩ := Option.bind_eq_some_iff.mp hvalues
    cases hvalues
    cases forms with
    | nil =>
      cases hvs
      have hone : (∃ met, Meets none [f] met ∧ met.join = field) ↔ f.field? = some field := by
        constructor
        · rintro ⟨met, hmet, rfl⟩
          obtain ⟨-, field', hfield, ⟨-, rfl⟩ | ⟨_, _, hnone, -⟩⟩ := meets_cons.mp hmet
          · exact hfield
          · cases hnone
        · intro hfield
          exact ⟨some field, meets_cons.mpr ⟨rfl, field, hfield, .inl ⟨rfl, rfl⟩⟩, rfl⟩
      rw [hone, field?_eq_some_iff hv]
      simp
    | cons f' forms => simp [Meets]

/-- A form whose value is a string or `null` is the field that the value is, and any other is none. -/
theorem field?_cases {f : Form} {depth : Nat} {v : Value} (hv : f.value? depth = some v) :
    (v.OptionalText ∧ f.field? = some v.text?) ∨
      (¬v.OptionalText ∧ f.field? = none) := by
  by_cases hoptional : v.OptionalText
  · exact .inl ⟨hoptional, (field?_eq_some_iff hv).mpr ⟨(optionalText_iff hv).mpr hoptional, rfl⟩⟩
  · refine .inr ⟨hoptional, Option.eq_none_iff_forall_ne_some.mpr fun field hfield => hoptional ?_⟩
    exact (optionalText_iff hv).mp ((field?_eq_some_iff hv).mp hfield).1

/-- Two values at most are taken from a list, if each is a string or `null`. -/
theorem placed?_eq_some_iff {fs : List Form} {depth : Nat} {vs : List Value}
    (hvs : fs.mapM (Form.value? depth) = some vs) {s : Submission} :
    placed? fs = some s ↔ (vs.length ≤ 2 ∧ ∀ v ∈ vs, v.OptionalText) ∧ ofValue (.list vs) = s := by
  cases fs with
  | nil =>
    cases hvs
    simp [placed?, ofValue]
  | cons f fs =>
    rw [List.mapM_cons] at hvs
    obtain ⟨v, hv, hvs⟩ := Option.bind_eq_some_iff.mp hvs
    obtain ⟨vs, hvs', hvs⟩ := Option.bind_eq_some_iff.mp hvs
    cases hvs
    cases fs with
    | nil =>
      cases hvs'
      rcases field?_cases hv with ⟨hoptional, hfield⟩ | ⟨hother, hfield⟩
      · simp [placed?, hfield, hoptional, ofValue]
      · simp [placed?, hfield, hother]
    | cons f' fs =>
      rw [List.mapM_cons] at hvs'
      obtain ⟨v', hv', hvs'⟩ := Option.bind_eq_some_iff.mp hvs'
      obtain ⟨vs, hvs'', hvs'⟩ := Option.bind_eq_some_iff.mp hvs'
      cases hvs'
      rcases field?_cases hv with ⟨hoptional, hfield⟩ | ⟨hother, hfield⟩
      · rcases field?_cases hv' with ⟨hoptional', hfield'⟩ | ⟨hother', hfield'⟩
        · cases fs with
          | nil =>
            cases hvs''
            simp [placed?, hfield, hfield', hoptional, hoptional', ofValue]
          | cons f'' fs =>
            rw [List.mapM_cons] at hvs''
            obtain ⟨v'', -, hvs''⟩ := Option.bind_eq_some_iff.mp hvs''
            obtain ⟨vs, -, hvs''⟩ := Option.bind_eq_some_iff.mp hvs''
            cases hvs''
            simp [placed?, hfield, hfield']
        · simp [placed?, hfield, hfield', hother']
      · simp [placed?, hfield, hother]

/-- Members are taken as a submission when each of its fields is met. -/
theorem ofForm?_object {members : List (String × Form)} {s : Submission} :
    ofForm? (.object members) = some s ↔
      (∃ met, Meets none (Members.valuesAt documentKey members) met ∧ met.join = s.document) ∧
        ∃ met, Meets none (Members.valuesAt expressionKey members) met ∧ met.join = s.expression := by
  rw [ofForm?, Option.map_eq_some_iff]
  constructor
  · rintro ⟨fields, hfields, rfl⟩
    obtain ⟨hdocument, hexpression⟩ := foldlM_take?.mp hfields
    exact ⟨⟨_, hdocument, rfl⟩, _, hexpression, rfl⟩
  · rintro ⟨⟨document, hdocument, hs⟩, expression, hexpression, hs'⟩
    refine ⟨⟨document, expression⟩, foldlM_take?.mpr ⟨hdocument, hexpression⟩, ?_⟩
    rw [Fields.submission, hs, hs']

/-- What stands at other keys does not matter, nor does the order of members. -/
theorem ofForm?_of_perm {members members' : List (String × Form)}
    (h : ∀ key ∈ [documentKey, expressionKey],
      (Members.valuesAt key members).Perm (Members.valuesAt key members')) :
    ofForm? (.object members) = ofForm? (.object members') := by
  refine Option.ext fun s => ?_
  rw [ofForm?_object, ofForm?_object]
  simp only [meets_perm (h documentKey (by simp)), meets_perm (h expressionKey (by simp))]

/-- A form that has a value is the submission that the value stands for, if it may be submitted, and none otherwise. -/
theorem ofForm?_eq_some_iff {f : Form} {v : Value} (hv : f.value? maxDepth = some v) {s : Submission} :
    ofForm? f = some s ↔ Submittable f v ∧ ofValue v = s := by
  obtain ⟨depth, hdepth⟩ : ∃ depth, maxDepth = depth + 1 := ⟨126, rfl⟩
  rw [hdepth] at hv
  cases f with
  | null | bool | text =>
    rw [Form.value?] at hv
    cases hv
    refine iff_of_false (by simp [ofForm?]) ?_
    rintro ⟨h, -⟩
    cases h
  | number x =>
    refine iff_of_false (by simp [ofForm?]) ?_
    rintro ⟨h, -⟩
    cases h
  | list fs =>
    rw [Form.value?] at hv
    obtain ⟨vs, hvs, rfl⟩ := Option.map_eq_some_iff.mp hv
    rw [ofForm?, placed?_eq_some_iff hvs]
    refine and_congr_left' ⟨fun h => .list h.1 h.2, fun h => ?_⟩
    cases h with
    | list hlength hall => exact ⟨hlength, hall⟩
  | object members =>
    rw [Form.value?] at hv
    obtain ⟨values, hvalues, rfl⟩ := Option.map_eq_some_iff.mp hv
    rw [ofForm?_object, exists_meets_iff (Members.mapM_valuesAt documentKey hvalues),
      exists_meets_iff (Members.mapM_valuesAt expressionKey hvalues), ofValue, Members.lookup_ofList,
      Members.lookup_ofList, Submission.mk.injEq]
    constructor
    · rintro ⟨⟨hdocument, hs⟩, hexpression, hs'⟩
      refine ⟨.object fun key hkey => ?_, hs, hs'⟩
      rcases List.mem_pair.mp hkey with rfl | rfl
      · exact hdocument
      · exact hexpression
    · rintro ⟨h, hs, hs'⟩
      cases h with
      | object hkeys => exact ⟨⟨hkeys _ (by simp), hs⟩, hkeys _ (by simp), hs'⟩

/-! ## The two readings of a document -/

/-- What is read as a submission from a text that holds a document agrees with the document. -/
structure Agrees (text : String) (v : Value) : Prop where
  /-- The text is written in some form that has the document as its value. -/
  written : ∃ f : Form, f.Fills text ∧ f.value? maxDepth = some v
  /-- In whichever form it is written, the submission is read that the document stands for, if the form may be
  submitted, and none otherwise. -/
  decodes : ∀ f : Form, f.Fills text → ∀ s, parse (Text.encode text) = .ok s ↔ Submittable f v ∧ ofValue v = s
  /-- So it is by a reader that does not ask whether anything follows. -/
  front : ∀ s, (∃ rest, read (Text.segments (Text.encode text)) = .ok (s, rest)) ↔ parse (Text.encode text) = .ok s
  /-- Another text that is written as an object, with the same at the two keys in any order and with anything at other
  keys, is read alike. -/
  others : ∀ members members' text', (Form.object members).Fills text → (Form.object members').Fills text' →
    (∀ key ∈ [documentKey, expressionKey], (Members.valuesAt key members).Perm (Members.valuesAt key members')) →
    ∀ s, parse (Text.encode text') = .ok s ↔ parse (Text.encode text) = .ok s

/-- A written submission is read again as it was. -/
theorem parse_render (s : Submission) : parse (Text.encode s.render) = .ok s := by
  have hread : read (Text.pieces s.render) = .ok (s, []) := by
    have hread := read_render s []
    rwa [List.append_nil] at hread
  rw [parse, Text.segments_encode, hread]
  rfl

/-- From every text that holds a document, the submission is read that the document stands for, if it stands for one,
and a submission that was written is read again as it was. -/
theorem parse_agrees : (∀ text v, Json.parse text = .ok v → Agrees text v) ∧
    ∀ s : Submission, parse (Text.encode s.render) = .ok s := by
  refine ⟨fun text v h => ?_, parse_render⟩
  obtain ⟨f, hf, hv⟩ := Form.parse_eq_ok_iff.mp h
  refine ⟨⟨f, hf, hv⟩, fun f' hf' s => ?_, fun s => ?_, fun members members' text' hfills hfills' hkeys s => ?_⟩
  · have hv' : f'.value? maxDepth = some v := by
      rw [← Form.toOption_parse hf', h]
      rfl
    rw [← toOption_eq_some_iff, parse_fills hf', ofForm?_eq_some_iff hv']
  · obtain ⟨g, -, hread⟩ := read_fills hf
    rw [← toOption_eq_some_iff, parse_fills hf]
    simp only [← toOption_eq_some_iff, hread, Option.map_eq_some_iff]
    constructor
    · rintro ⟨rest, s', hs', hsame⟩
      cases hsame
      exact hs'
    · intro hs
      exact ⟨_, s, hs, rfl⟩
  · rw [← toOption_eq_some_iff, ← toOption_eq_some_iff, parse_fills hfills, parse_fills hfills', ofForm?_of_perm hkeys]

/-- The key of the expression is spelled with an escape, the key of the document has `null`, and between them there are
two members of one other key, with the keys inside. -/
theorem parse_agrees_members :
    let text := "\x7b\"query\\u005fstring\": \".a\", \"x\": [1e3, \x7b\"json_data\": 2\x7d], \"x\": 0, " ++
      "\"json_data\": null\x7d"
    ∃ v, Json.parse text = .ok v ∧ Agrees text v ∧ parse (Text.encode text) = .ok ⟨none, some ".a"⟩ := by
  intro text
  have hparses : (Json.parse text).toOption.isSome = true := by decide +kernel
  obtain ⟨v, hv⟩ := Option.isSome_iff_exists.mp hparses
  have hparse := toOption_eq_some_iff.mp hv
  exact ⟨v, hparse, parse_agrees.1 text v hparse, by decide +kernel⟩

end Submission

end QueryGateway
