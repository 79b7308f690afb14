import QueryGateway.Proofs.Json.Literals

/-!
# Documents as they are written

A form is a document as it stands in a text, but for its gaps and the way its strings are spelled (`Form`,
`Form.Writes`). The reader gives each text written in a form the value of the form, or refuses it when the form has none
(`Form.yields`), and every text it takes is written in some form (`Form.exists_of_value`). So a text holds a document
exactly when it is written in a form that has this document as its value (`parse_eq_ok_iff`).
-/

namespace QueryGateway.Json

open Text (Segment)

/-- A document as it is written: its numbers with their digits, the members of its objects in the order in which they
stand, a key as often as it stands there. -/
inductive Form where
  | null
  | bool (b : Bool)
  | number (x : Numeral)
  | text (s : String)
  | list (items : List Form)
  | object (members : List (String × Form))
deriving Repr, Inhabited

namespace Form

/-- How a document of some form may be written, with gaps between its tokens and its strings spelled in any way. -/
inductive Writes : Form → List Char → Prop where
  | null : Writes null ['n', 'u', 'l', 'l']
  | true : Writes (bool true) ['t', 'r', 'u', 'e']
  | false : Writes (bool false) ['f', 'a', 'l', 's', 'e']
  | number {x : Numeral} {t : List Char} : x.Spelled t → Writes (number x) t
  | text {s : String} {t : List Char} : Spelled s.toList t → Writes (text s) ('"' :: (t ++ ['"']))
  | list {items : List Form} {t : List Char} : Listed Writes true items t → Writes (list items) ('[' :: (t ++ [']']))
  | object {members : List (String × Form)} {t : List Char} : Listed (Member Writes) true members t →
      Writes (object members) ('\x7b' :: (t ++ ['\x7d']))

/-- A text that holds a document of some form and nothing else. -/
def Fills (f : Form) (text : String) : Prop :=
  ∃ g t g', Gap g ∧ f.Writes t ∧ Gap g' ∧ text.toList = g ++ t ++ g'

/-- The value of a form: there is one if its numbers are in range and no more than so many lists and objects are open
inside. -/
def value? : Nat → Form → Option Value
  | _, null => some .null
  | _, bool b => some (.bool b)
  | _, number x => x.value?.map .number
  | _, text s => some (.text s)
  | 0, list _ => none
  | 0, object _ => none
  | depth + 1, list items => (items.mapM (value? depth)).map .list
  | depth + 1, object members =>
    (members.mapM fun m => (value? depth m.2).map (m.1, ·)).map fun ms => .object (Members.ofList ms)

end Form

/-! ## Outcomes of parts -/

section
variable {α β : Type} {f : α → Option β} {as : List α}

/-- When each part has an outcome, the whole has their list. -/
theorem mapM_eq_some_map {g : α → β} (h : ∀ a ∈ as, f a = some (g a)) : as.mapM f = some (as.map g) := by
  induction as with
  | nil => rfl
  | cons a as ih =>
    rw [List.mapM_cons, h a (by simp), ih fun b hb => h b (by simp [hb])]
    rfl

/-- Each outcome in the list of the whole is the outcome of a part. -/
theorem exists_of_mem_mapM {bs : List β} (h : as.mapM f = some bs) {b : β} (hb : b ∈ bs) : ∃ a ∈ as, f a = some b := by
  induction as generalizing bs with
  | nil =>
    cases h
    cases hb
  | cons a as ih =>
    rw [List.mapM_cons] at h
    obtain ⟨b', hb', h⟩ := Option.bind_eq_some_iff.mp h
    obtain ⟨bs', hbs', h⟩ := Option.bind_eq_some_iff.mp h
    cases h
    rcases List.mem_cons.mp hb with rfl | hb
    · exact ⟨a, by simp, hb'⟩
    · obtain ⟨a', ha', hf⟩ := ih hbs' hb
      exact ⟨a', by simp [ha'], hf⟩

end

/-! ## What is written is read -/

/-- What is made of an outcome that is no fault. -/
theorem toOption_map {α β : Type} (f : α → β) (outcome : Except Flaw α) :
    (outcome.map f).toOption = outcome.toOption.map f := by
  cases outcome <;> rfl

/-- What is made of two steps one after the other. -/
theorem toOption_bind {α β : Type} (outcome : Except Flaw α) (f : α → Except Flaw β) :
    (outcome >>= f).toOption = outcome.toOption.bind fun a => (f a).toOption := by
  cases outcome <;> rfl

/-- What an outcome is that is no fault. -/
theorem toOption_eq_some_iff {α : Type} {outcome : Except Flaw α} {a : α} :
    outcome.toOption = some a ↔ outcome = .ok a := by
  cases outcome <;> simp [Except.toOption]

/-- A fixed word is read as the value it stands for. -/
theorem word_append (cs : List Char) (rest : Source) : Source.word cs (Source.ofChars cs ++ rest) = .ok rest := by
  induction cs with
  | nil => rfl
  | cons c cs ih => rw [Source.ofChars_cons, List.cons_append, Source.word, if_pos rfl, ih]

/-- A numeral is read as the number it stands for, or refused when that is too large. -/
theorem number_append {x : Numeral} {t : List Char} (h : x.SpelledBare t) {rest : Source} (hrest : rest.Breaks) :
    (number x.negative (Source.ofChars t ++ rest)).toOption = x.value?.map (·, rest) := by
  rw [number, numeral_append h hrest]
  simp only [bind, Except.bind]
  cases x.value? <;> rfl

namespace Reader

/-- A value that holds no other is read wherever it stands. -/
theorem yields_of_scalar {c : Char} {cs : List Char} {v? : Option Value} (hc : isGap (.char c) = false) (hopen : c ≠ ']')
    (h : ∀ rest : Source, rest.Breaks → ∃ outcome,
      scalar c (.char c :: (Source.ofChars cs ++ rest)) (Source.ofChars cs ++ rest) = some outcome ∧
        outcome.toOption = v?.map (·, rest)) (fuel depth : Nat) : Yields (value fuel depth) (c :: cs) v? where
  starts := ⟨c, cs, rfl, hc, hopen⟩
  yields g rest hgap hrest := by
    obtain ⟨outcome, hscalar, houtcome⟩ := h rest hrest
    rw [Source.ofChars_append, List.append_assoc, value, Source.skipGap_append hgap, Source.ofChars_cons,
      List.cons_append, Source.skipGap_cons hc]
    simp only [hscalar, houtcome]

/-- A fixed word is read wherever it stands. -/
theorem yields_constant {c : Char} {letters : List Char} {v : Value}
    (hscalar : ∀ s rest, scalar c s rest = some (constant letters v rest)) (hc : isGap (.char c) = false)
    (hopen : c ≠ ']') (fuel depth : Nat) : Yields (value fuel depth) (c :: letters) (some v) :=
  yields_of_scalar hc hopen (fun rest _ => ⟨_, hscalar _ _, by rw [constant, word_append]; rfl⟩) fuel depth

section
variable {g : List Char} (hgap : Gap g) (fuel : Nat) (s : Source)
include hgap

/-- A list is read item by item. -/
theorem value_list (depth : Nat) :
    value fuel (depth + 1) (Source.ofChars g ++ .char '[' :: s) =
      (items (value fuel depth) fuel true [] s).map fun (vs, after) => (.list vs, after) := by
  have hscalar : ∀ s rest, scalar '[' s rest = none := fun _ _ => rfl
  rw [value, Source.skipGap_append hgap, Source.skipGap_cons (by decide)]
  simp only [hscalar, if_true]

/-- An object is read member by member. -/
theorem value_object (depth : Nat) :
    value fuel (depth + 1) (Source.ofChars g ++ .char '\x7b' :: s) =
      (members (value fuel depth) fuel true [] s).map fun (ms, after) => (.object (Members.ofList ms), after) := by
  have hscalar : ∀ s rest, scalar '\x7b' s rest = none := fun _ _ => rfl
  have hbrace : '\x7b' ≠ '[' := by decide
  rw [value, Source.skipGap_append hgap, Source.skipGap_cons (by decide)]
  simp only [hscalar, hbrace, if_false, if_true]

/-- Neither is read when no more may be open. -/
theorem value_zero {c : Char} (hc : c = '[' ∨ c = '\x7b') :
    value fuel 0 (Source.ofChars g ++ .char c :: s) = .error .malformed := by
  have hscalar : ∀ s rest, scalar c s rest = none := by
    rcases hc with rfl | rfl <;> exact fun _ _ => rfl
  have hnoGap : isGap (.char c) = false := by
    rcases hc with rfl | rfl <;> decide
  rw [value, Source.skipGap_append hgap, Source.skipGap_cons hnoGap]
  simp only [hscalar]

end
end Reader

/-- A quote starts a string. -/
theorem scalar_quote (s rest : Source) :
    Reader.scalar '"' s rest = some ((string rest).map fun (t, after) => (.text t, after)) :=
  rfl

/-- A minus starts a number. -/
theorem scalar_minus (s rest : Source) :
    Reader.scalar '-' s rest = some ((number true rest).map fun (n, after) => (.number n, after)) :=
  rfl

/-- A digit is none of the other characters. -/
theorem ne_of_isDigit {c d : Char} (hc : c.isDigit = true) (hd : d.isDigit = false) : c ≠ d := by
  rintro rfl
  rw [hc] at hd
  nomatch hd

/-- A digit starts no other value. -/
theorem scalar_digit {c : Char} (h : c.isDigit = true) (s rest : Source) :
    Reader.scalar c s rest = some ((number false s).map fun (n, after) => (.number n, after)) := by
  have hne : ∀ d, d.isDigit = false → c ≠ d := fun d => ne_of_isDigit h
  simp [Reader.scalar, hne 'n' (by decide), hne 't' (by decide), hne 'f' (by decide), hne '"' (by decide),
    hne '-' (by decide), h]

/-- A digit is no gap. -/
theorem isGap_digit {c : Char} (h : c.isDigit = true) : isGap (.char c) = false := by
  have hne : ∀ d, d.isDigit = false → c ≠ d := fun d => ne_of_isDigit h
  simp [isGap, hne ' ' (by decide), hne '\t' (by decide), hne '\n' (by decide), hne '\r' (by decide)]

namespace Form

/-- A number is read wherever it stands. -/
theorem yields_number {x : Numeral} {t : List Char} (h : x.Spelled t) (fuel depth : Nat) :
    Yields (Reader.value fuel depth) t (x.value?.map .number) := by
  obtain ⟨u, hu, rfl⟩ := h
  cases hsign : x.negative with
  | true =>
    refine Reader.yields_of_scalar (by decide) (by decide) (fun rest hrest => ⟨_, scalar_minus _ _, ?_⟩) fuel depth
    have hread := number_append hu hrest
    rw [hsign] at hread
    rw [toOption_map, hread, Option.map_map, Option.map_map]
    rfl
  | false =>
    obtain ⟨c, cs, rfl, hc⟩ := hu.eq_cons
    refine Reader.yields_of_scalar (isGap_digit hc) (ne_of_isDigit hc (by decide))
      (fun rest hrest => ⟨_, scalar_digit hc _ _, ?_⟩) fuel depth
    have hread := number_append hu hrest
    rw [hsign, Source.ofChars_cons, List.cons_append] at hread
    rw [toOption_map, hread, Option.map_map, Option.map_map]
    rfl

/-- A string is read wherever it stands. -/
theorem yields_text {s : String} {t : List Char} (h : Spelled s.toList t) (fuel depth : Nat) :
    Yields (Reader.value fuel depth) ('"' :: (t ++ ['"'])) (some (.text s)) := by
  refine Reader.yields_of_scalar (by decide) (by decide) (fun rest _ => ⟨_, scalar_quote _ _, ?_⟩) fuel depth
  rw [string_spelled rest h]
  rfl

/-- A text is read as the value of the form it is written in, or refused when that has none. -/
theorem yields {f : Form} {t : List Char} (h : f.Writes t) {fuel : Nat} (hfuel : t.length < fuel) (depth : Nat) :
    Yields (Reader.value fuel depth) t (f.value? depth) := by
  induction depth using Nat.strongRecOn generalizing f t with
  | ind depth ih =>
    cases h with
    | null =>
      rw [value?]
      exact Reader.yields_constant (fun _ _ => rfl) (by decide) (by decide) fuel depth
    | true =>
      rw [value?]
      exact Reader.yields_constant (fun _ _ => rfl) (by decide) (by decide) fuel depth
    | false =>
      rw [value?]
      exact Reader.yields_constant (fun _ _ => rfl) (by decide) (by decide) fuel depth
    | number h =>
      rw [value?]
      exact yields_number h fuel depth
    | text h =>
      rw [value?]
      exact yields_text h fuel depth
    | @list items t h =>
      refine ⟨⟨'[', _, rfl, by decide, by decide⟩, fun g rest hgap _ => ?_⟩
      rw [Source.ofChars_append, List.append_assoc, Source.ofChars_cons, List.cons_append]
      rw [List.length_cons, List.length_append] at hfuel
      cases depth with
      | zero =>
        rw [Reader.value_zero hgap fuel _ (.inl rfl)]
        rfl
      | succ depth =>
        have hlength : t.length < fuel := by omega
        have hitems := items_listed (fun f t hf ht => ih depth (Nat.lt_succ_self _) hf ht) h hlength hlength [] rest
        rw [Reader.value_list hgap, value?, toOption_map, hitems, Option.map_map, Option.map_map]
        rfl
    | @object members t h =>
      refine ⟨⟨'\x7b', _, rfl, by decide, by decide⟩, fun g rest hgap _ => ?_⟩
      rw [Source.ofChars_append, List.append_assoc, Source.ofChars_cons, List.cons_append]
      rw [List.length_cons, List.length_append] at hfuel
      cases depth with
      | zero =>
        rw [Reader.value_zero hgap fuel _ (.inr rfl)]
        rfl
      | succ depth =>
        have hlength : t.length < fuel := by omega
        have hmembers := members_listed (fun f t hf ht => ih depth (Nat.lt_succ_self _) hf ht) h hlength hlength [] rest
        rw [Reader.value_object hgap, value?, toOption_map, hmembers, Option.map_map, Option.map_map]
        rfl

end Form

/-! ## What is read is written -/

/-- Where a fixed word is read, it stands. -/
theorem eq_of_word {cs : List Char} {s rest : Source} (h : s.word cs = .ok rest) : s = Source.ofChars cs ++ rest := by
  induction cs generalizing s with
  | nil =>
    cases s <;> cases h <;> rfl
  | cons c cs ih =>
    cases s with
    | nil => cases h
    | cons p s =>
      rw [Source.word] at h
      split at h
      case isTrue hp => rw [hp, ih h]; rfl
      case isFalse => cases h

/-- Where a fixed word is read as a value, it stands. -/
theorem eq_of_constant {letters : List Char} {v w : Value} {s rest : Source}
    (h : Reader.constant letters v s = .ok (w, rest)) : s = Source.ofChars letters ++ rest := by
  rw [Reader.constant] at h
  split at h
  · cases h
  case h_2 hword =>
    cases h
    exact eq_of_word hword

/-- Where a number is read, a numeral is spelled. -/
theorem exists_spelledBare_of_number {negative : Bool} {n : Number} {s rest : Source}
    (h : number negative s = .ok (n, rest)) :
    ∃ x : Numeral, x.negative = negative ∧ ∃ t, x.SpelledBare t ∧ s = Source.ofChars t ++ rest := by
  rw [number] at h
  cases hnumeral : numeral negative s with
  | error f => rw [hnumeral] at h; cases h
  | ok r =>
    obtain ⟨x, rest'⟩ := r
    rw [hnumeral] at h
    simp only [bind, Except.bind] at h
    split at h
    · cases h
      exact ⟨x, exists_spelledBare_of_numeral hnumeral⟩
    · cases h

/-- What is made of something that was read was made of what is there. -/
theorem exists_of_map {α β : Type} {f : α → β} {outcome : Except Flaw (α × Source)} {b : β} {rest : Source}
    (h : outcome.map (fun (a, after) => (f a, after)) = .ok (b, rest)) : ∃ a, outcome = .ok (a, rest) ∧ b = f a := by
  cases outcome with
  | error f => cases h
  | ok r =>
    cases h
    exact ⟨r.1, rfl, rfl⟩

namespace Form

/-- Where a value that holds no other is read, one is written. -/
theorem exists_of_scalar {c : Char} {v : Value} {s rest : Source}
    (h : Reader.scalar c (.char c :: s) s = some (.ok (v, rest))) :
    ∃ f t, Writes f t ∧ .char c :: s = Source.ofChars t ++ rest := by
  rw [Reader.scalar] at h
  split at h
  case isTrue hc =>
    rw [hc, eq_of_constant (Option.some.inj h)]
    exact ⟨_, _, .null, rfl⟩
  split at h
  case isTrue hc =>
    rw [hc, eq_of_constant (Option.some.inj h)]
    exact ⟨_, _, .true, rfl⟩
  split at h
  case isTrue hc =>
    rw [hc, eq_of_constant (Option.some.inj h)]
    exact ⟨_, _, .false, rfl⟩
  split at h
  case isTrue hc =>
    obtain ⟨str, hstring, -⟩ := exists_of_map (Option.some.inj h)
    obtain ⟨t, hspelled, rfl⟩ := exists_spelled_of_string hstring
    exact ⟨_, _, .text hspelled, by rw [hc]; rfl⟩
  split at h
  case isTrue hc =>
    obtain ⟨n, hnumber, -⟩ := exists_of_map (Option.some.inj h)
    obtain ⟨x, hsign, t, hspelled, rfl⟩ := exists_spelledBare_of_number hnumber
    exact ⟨_, _, .number ⟨t, hspelled, rfl⟩, by rw [hc, if_pos hsign]; rfl⟩
  split at h
  · obtain ⟨n, hnumber, -⟩ := exists_of_map (Option.some.inj h)
    obtain ⟨x, hsign, t, hspelled, hs⟩ := exists_spelledBare_of_number hnumber
    exact ⟨_, _, .number ⟨t, hspelled, rfl⟩, by rw [hs, if_neg (by simp [hsign])]⟩
  · cases h

/-- Where a value is read, one is written. -/
theorem exists_of_value {fuel depth : Nat} {s rest : Source} {v : Value} (h : Reader.value fuel depth s = .ok (v, rest)) :
    ∃ g f t, Gap g ∧ Writes f t ∧ s = Source.ofChars (g ++ t) ++ rest := by
  induction depth generalizing s v rest with
  | zero =>
    obtain ⟨g, hgap, hs⟩ := Source.exists_gap s
    rw [Reader.value] at h
    split at h
    · cases h
    · cases h
    case h_3 c s' hskip =>
      split at h
      case h_1 hscalar =>
        obtain ⟨f, t, hf, hfront⟩ := exists_of_scalar (hscalar.trans (congrArg some h))
        exact ⟨g, f, t, hgap, hf, by rw [hs, hskip, hfront]; simp⟩
      case h_2 => cases h
  | succ depth ih =>
    obtain ⟨g, hgap, hs⟩ := Source.exists_gap s
    rw [Reader.value] at h
    split at h
    · cases h
    · cases h
    case h_3 c s' hskip =>
      split at h
      case h_1 hscalar =>
        obtain ⟨f, t, hf, hfront⟩ := exists_of_scalar (hscalar.trans (congrArg some h))
        exact ⟨g, f, t, hgap, hf, by rw [hs, hskip, hfront]; simp⟩
      case h_2 =>
        have hitem : ∀ s v rest, Reader.value fuel depth s = .ok (v, rest) →
            ∃ g f t, Gap g ∧ Writes f t ∧ s = Source.ofChars (g ++ t) ++ rest := fun _ _ _ => ih
        simp only at h
        split at h
        case isTrue hc =>
          obtain ⟨vs, hitems, -⟩ := exists_of_map h
          obtain ⟨fs, t, hfs, hrest⟩ := exists_listed_of_items hitem hitems
          exact ⟨g, _, _, hgap, .list hfs, by rw [hs, hskip, hc, hrest]; simp⟩
        split at h
        case isTrue hc =>
          obtain ⟨ms, hmembers, -⟩ := exists_of_map (f := fun ms => Value.object (Members.ofList ms)) h
          obtain ⟨fs, t, hfs, hrest⟩ := exists_listed_of_members hitem hmembers
          exact ⟨g, _, _, hgap, .object hfs, by rw [hs, hskip, hc, hrest]; simp⟩
        · cases h

/-! ## Documents -/

/-- A text written in some form holds the value of that form, or no document when the form has none. -/
theorem toOption_parse {f : Form} {text : String} (h : f.Fills text) : (parse text).toOption = f.value? maxDepth := by
  obtain ⟨g, t, g', hgap, hwrites, hgap', htext⟩ := h
  have hpieces : Text.pieces text = Source.ofChars (g ++ t) ++ (Source.ofChars g' ++ []) := by
    rw [Text.pieces, htext, List.append_nil, ← Source.ofChars_append]
    rfl
  have hfuel : t.length < (Text.pieces text).length + 1 := by
    simp only [Text.pieces, htext, List.length_map, List.length_append]
    omega
  have hyields := yields hwrites hfuel maxDepth
  have hbreaks : (Source.ofChars g' ++ []).Breaks := Source.breaks_append hgap' Source.breaks_nil
  have hended : (Source.ofChars g' ++ []).ended = .ok () := by
    rw [Source.ended, Source.skipGap_append hgap']
    rfl
  rw [parse, readWhole, readValue]
  generalize (Text.pieces text).length + 1 = fuel at hyields
  rw [hpieces]
  cases hv : f.value? maxDepth with
  | none =>
    rw [hv] at hyields
    obtain ⟨flaw, hrefused⟩ := hyields.refused hgap hbreaks
    rw [hrefused]
    rfl
  | some v =>
    rw [hv] at hyields
    simp only [hyields.read hgap hbreaks, hended]
    rfl

/-- A text that holds a document is written in some form. -/
theorem exists_fills {text : String} {v : Value} (h : parse text = .ok v) : ∃ f : Form, f.Fills text := by
  rw [parse, readWhole] at h
  split at h
  · cases h
  case h_2 rest hread =>
    split at h
    · cases h
    case h_2 hended =>
      obtain ⟨g, f, t, hgap, hwrites, hs⟩ := exists_of_value hread
      obtain ⟨g', hgap', hrest⟩ := Source.exists_gap rest
      have hskip : rest.skipGap = [] := by
        unfold Source.ended at hended
        split at hended
        case h_1 hskip => exact hskip
        case h_2 => cases hended
      rw [hskip, List.append_nil] at hrest
      refine ⟨f, g, t, g', hgap, hwrites, hgap', ?_⟩
      rw [hrest, ← Source.ofChars_append] at hs
      exact List.map_injective_iff.mpr (fun _ _ => Segment.char.inj) hs

/-- A text holds a document exactly when it is written in a form that has this document as its value. -/
theorem parse_eq_ok_iff {text : String} {v : Value} :
    parse text = .ok v ↔ ∃ f : Form, f.Fills text ∧ f.value? maxDepth = some v := by
  constructor
  · intro h
    obtain ⟨f, hf⟩ := exists_fills h
    exact ⟨f, hf, by rw [← toOption_parse hf, h]; rfl⟩
  · rintro ⟨f, hf, hv⟩
    rw [← toOption_parse hf] at hv
    cases hparse : parse text with
    | error flaw => rw [hparse] at hv; cases hv
    | ok w => rw [hparse] at hv; rw [Option.some.inj hv]

end Form
end QueryGateway.Json
