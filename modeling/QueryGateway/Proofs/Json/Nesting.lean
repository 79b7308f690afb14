import QueryGateway.Proofs.Decoding
import QueryGateway.Proofs.Json.Strings

/-!
# Lists and objects as they are written

Between the brackets of a list, and between the braces of an object, stand texts with commas between them and gaps
wherever they may be (`Listed`, `Member`). The readers of lists and objects give back what the texts read as, or refuse
when one of the texts is refused (`items_listed`, `members_listed`), and they take nothing else (`exists_listed_of_items`,
`exists_listed_of_members`).
-/

namespace QueryGateway.Json

open Text (Segment)

/-! ## What may follow a value -/

/-- No number could go on with what stands here. -/
def Source.Breaks (s : Source) : Prop :=
  ∀ p ∈ s.head?, isDigit p = false ∧ p ≠ .char '.' ∧ p ≠ .char 'e' ∧ p ≠ .char 'E'

/-- The end of the text is such a place. -/
theorem Source.breaks_nil : Source.Breaks [] := by
  intro p hp
  simp at hp

/-- So is a comma or a closing bracket. -/
theorem Source.breaks_mark {c : Char} (h : c ∈ [',', ']', '\x7d']) (rest : Source) :
    Source.Breaks (.char c :: rest) := by
  intro p hp
  obtain rfl : .char c = p := by simpa using hp
  simp only [List.mem_cons, List.not_mem_nil, or_false] at h
  rcases h with rfl | rfl | rfl <;> decide

/-! ## Gaps -/

/-- Characters that may stand between tokens. -/
def Gap (cs : List Char) : Prop :=
  ∀ c ∈ cs, isGap (.char c) = true

instance (cs : List Char) : Decidable (Gap cs) :=
  inferInstanceAs (Decidable (∀ c ∈ cs, isGap (.char c) = true))

theorem gap_nil : Gap [] := by
  intro c hc
  cases hc

theorem Gap.append {g g' : List Char} (h : Gap g) (h' : Gap g') : Gap (g ++ g') := by
  intro c hc
  exact (List.mem_append.mp hc).elim (h c) (h' c)

namespace Source

/-- A token that is no gap is reached at once. -/
theorem skipGap_cons {p : Segment} (h : isGap p = false) (s : Source) : skipGap (p :: s) = p :: s := by
  simp [skipGap, h]

/-- A gap is passed over. -/
theorem skipGap_append {g : List Char} (h : Gap g) (s : Source) : skipGap (ofChars g ++ s) = skipGap s := by
  induction g with
  | nil => rfl
  | cons c g ih =>
    rw [ofChars_cons, List.cons_append, skipGap, List.dropWhile_cons_of_pos (h c (by simp))]
    exact ih fun d hd => h d (by simp [hd])

/-- What is passed over is a gap. -/
theorem exists_gap (s : Source) : ∃ g, Gap g ∧ s = ofChars g ++ s.skipGap := by
  induction s with
  | nil => exact ⟨[], gap_nil, rfl⟩
  | cons p s ih =>
    cases hp : isGap p with
    | false => exact ⟨[], gap_nil, (skipGap_cons hp s).symm⟩
    | true =>
      cases p with
      | broken part => cases hp
      | char c =>
        obtain ⟨g, hgap, hs⟩ := ih
        refine ⟨c :: g, ?_, ?_⟩
        · simpa [Gap, hp] using hgap
        · rw [skipGap, List.dropWhile_cons_of_pos hp, ofChars_cons, List.cons_append]
          exact congrArg _ hs

/-- A gap breaks off a number where what stands behind it does. -/
theorem breaks_append {g : List Char} (h : Gap g) {s : Source} (hs : s.Breaks) : (ofChars g ++ s).Breaks := by
  cases g with
  | nil => exact hs
  | cons c g =>
    intro p hp
    obtain rfl : .char c = p := by simpa using hp
    have hc := h c (by simp)
    simp only [isGap, Bool.or_eq_true, decide_eq_true_eq] at hc
    rcases hc with ((rfl | rfl) | rfl) | rfl <;> decide

end Source

/-! ## Texts with commas between them -/

/-- Things written one after the other: a comma in front of each but the first, and gaps anywhere. -/
inductive Listed {α : Type} (W : α → List Char → Prop) : Bool → List α → List Char → Prop where
  | nil {first : Bool} {g : List Char} : Gap g → Listed W first [] g
  | cons {first : Bool} {a : α} {as : List α} {g g' t ts : List Char} : Gap g → Gap g' → W a t → Listed W false as ts →
      Listed W first (a :: as) (g ++ ((if first then [] else ',' :: g') ++ (t ++ ts)))

/-- A key and the thing written behind it. -/
inductive Member {α : Type} (W : α → List Char → Prop) : String × α → List Char → Prop where
  | mk {key : String} {a : α} {k g g' t : List Char} : Spelled key.toList k → Gap g → Gap g' → W a t →
      Member W (key, a) ('"' :: (k ++ '"' :: (g ++ ':' :: (g' ++ t))))

/-- Texts one after the other, with a comma in front of each but the first of its list. -/
def separated : Bool → List (List Char) → List Char
  | _, [] => []
  | first, t :: ts => (if first then t else ',' :: t) ++ separated false ts

/-- A key and a text as a member of an object. -/
def memberChars (key : String) (t : List Char) : List Char :=
  quotedChars key.toList ++ ':' :: t

section
variable {α : Type} {W : α → List Char → Prop}

/-- Texts with a comma in front of each but the first are written one after the other. -/
theorem listed_separated {β : Type} {as : List β} {f : β → α} {text : β → List Char} (h : ∀ a ∈ as, W (f a) (text a))
    (first : Bool) : Listed W first (as.map f) (separated first (as.map text)) := by
  induction as generalizing first with
  | nil => exact .nil gap_nil
  | cons a as ih =>
    have ha := h a (by simp)
    have has := ih (fun b hb => h b (by simp [hb])) false
    have hcons : Listed W first (f a :: as.map f) ([] ++ ((if first then [] else [',']) ++ (text a ++ _))) :=
      .cons gap_nil gap_nil ha has
    cases first <;> simpa [separated] using hcons

/-- A key and a text are a member. -/
theorem member_memberChars {key : String} {a : α} {t : List Char} (h : W a t) : Member W (key, a) (memberChars key t) := by
  have hmember := Member.mk (spelled_escaped key.toList) gap_nil gap_nil h
  simpa [memberChars, quotedChars] using hmember

/-- Behind one of several things there stands a comma, a gap or what closes the list. -/
theorem Listed.breaks {as : List α} {ts : List Char} (h : Listed W false as ts) {c : Char} (hc : c ∈ [',', ']', '\x7d'])
    (rest : Source) : (Source.ofChars (ts ++ [c]) ++ rest).Breaks := by
  cases h with
  | nil hgap =>
    rw [Source.ofChars_append, List.append_assoc]
    exact Source.breaks_append hgap (Source.breaks_mark hc rest)
  | cons hgap =>
    rw [List.append_assoc, Source.ofChars_append, List.append_assoc]
    exact Source.breaks_append hgap (Source.breaks_mark (by simp) _)

end

/-- A text with its commas is the concatenation with commas between. -/
theorem separated_eq_intercalate (ts : List (List Char)) : separated true ts = [','].intercalate ts := by
  have hmore : ∀ t ts, separated true (t :: ts) = [','].intercalate (t :: ts) := by
    intro t ts
    induction ts generalizing t with
    | nil => simp [separated]
    | cons t' ts ih => simpa [separated, List.intercalate] using ih t'
  cases ts with
  | nil => rfl
  | cons t ts => exact hmore t ts

/-! ## What stands between the texts -/

namespace Source

section
variable {g g' : List Char} (hgap : Gap g) (hgap' : Gap g') (first : Bool)
include hgap hgap'

/-- The next item of a list is at its first character. -/
theorem nextItem_text {c : Char} (hc : isGap (.char c) = false) (hopen : c ≠ ']') (cs : List Char) (rest : Source) :
    nextItem first (ofChars (g ++ ((if first then [] else ',' :: g') ++ c :: cs)) ++ rest) =
      .ok (some (ofChars (c :: cs) ++ rest)) := by
  rw [ofChars_append, List.append_assoc, nextItem, skipGap_append hgap]
  cases first with
  | true => simp [skipGap_cons hc, hopen]
  | false => simp [skipGap_cons (p := .char ',') (by decide), skipGap_append hgap', skipGap_cons hc, hopen]

/-- The next key of an object is behind its opening quote. -/
theorem nextKey_text (cs : List Char) (rest : Source) :
    nextKey first (ofChars (g ++ ((if first then [] else ',' :: g') ++ '"' :: cs)) ++ rest) =
      .ok (.inl (ofChars cs ++ rest)) := by
  have hquote : ∀ s, skipGap (.char '"' :: s) = .char '"' :: s := skipGap_cons (by decide)
  rw [ofChars_append, List.append_assoc, nextKey, skipGap_append hgap]
  cases first with
  | true => simp [hquote]
  | false => simp [skipGap_cons (p := .char ',') (by decide), skipGap_append hgap', hquote]

variable (ts : List Char) (closer : Char) (rest : Source)

/-- The next item of a list stands in front of the others. -/
theorem nextItem_listed {c : Char} (hc : isGap (.char c) = false) (hopen : c ≠ ']') (cs : List Char) :
    nextItem first (ofChars (g ++ ((if first then [] else ',' :: g') ++ (c :: cs ++ ts)) ++ [closer]) ++ rest) =
      .ok (some (ofChars (c :: cs) ++ (ofChars (ts ++ [closer]) ++ rest))) := by
  have hnext := nextItem_text hgap hgap' first hc hopen cs (ofChars (ts ++ [closer]) ++ rest)
  simpa only [ofChars_append, List.append_assoc] using hnext

/-- The next key of an object stands in front of a colon, what is written behind that, and the other members. -/
theorem nextKey_listed (k gap t : List Char) :
    nextKey first (ofChars (g ++ ((if first then [] else ',' :: g') ++ ('"' :: (k ++ '"' :: (gap ++ ':' :: t)) ++ ts)) ++
        [closer]) ++ rest) =
      .ok (.inl (ofChars (k ++ ['"']) ++
        (ofChars gap ++ .char ':' :: (ofChars t ++ (ofChars (ts ++ [closer]) ++ rest))))) := by
  have hnext := nextKey_text hgap hgap' first (k ++ '"' :: (gap ++ ':' :: t)) (ofChars (ts ++ [closer]) ++ rest)
  simpa only [ofChars_append, ofChars_cons, ofChars_nil, List.append_assoc, List.cons_append, List.nil_append] using hnext

end

section
variable {g : List Char} (hgap : Gap g)
include hgap

/-- At its bracket a list is over. -/
theorem nextItem_end (first : Bool) (rest : Source) :
    nextItem first (ofChars (g ++ [']']) ++ rest) = .ok none ∧ closeList (ofChars (g ++ [']']) ++ rest) = .ok rest := by
  simp [nextItem, closeList, skipGap_append hgap, skipGap_cons (p := .char ']') (by decide)]

/-- At its brace an object is over. -/
theorem nextKey_end (first : Bool) (rest : Source) :
    nextKey first (ofChars (g ++ ['\x7d']) ++ rest) = .ok (.inr rest) := by
  simp [nextKey, skipGap_append hgap, skipGap_cons (p := .char '\x7d') (by decide)]

/-- The colon behind a key is taken. -/
theorem colon_append (s : Source) : colon (ofChars g ++ .char ':' :: s) = .ok s := by
  rw [colon, skipGap_append hgap, skipGap_cons (by decide)]
  rfl

end

/-- The colon behind a key is taken at once. -/
theorem colon_cons (s : Source) : colon (.char ':' :: s) = .ok s :=
  colon_append gap_nil s

/-- The next key of an object is behind its opening quote, its text behind the colon. -/
theorem nextKey_member (key : String) (t : List Char) (first : Bool) (rest : Source) :
    nextKey first (ofChars (if first then memberChars key t else ',' :: memberChars key t) ++ rest) =
      .ok (.inl (ofChars (key.toList.flatMap escaped ++ ['"']) ++ .char ':' :: (ofChars t ++ rest))) := by
  have hnext := nextKey_text gap_nil gap_nil first (key.toList.flatMap escaped ++ '"' :: ':' :: t) rest
  cases first <;> simpa [memberChars, quotedChars] using hnext

end Source

/-! ## Lists and objects are read -/

/-- A text reads as a value, or is refused, behind any gap and wherever no number could go on behind it. It starts with
the first character of the value. -/
structure Yields (item : Source → Except Flaw (Value × Source)) (t : List Char) (v? : Option Value) : Prop where
  starts : ∃ c cs, t = c :: cs ∧ isGap (.char c) = false ∧ c ≠ ']'
  yields : ∀ g rest, Gap g → rest.Breaks → (item (Source.ofChars (g ++ t) ++ rest)).toOption = v?.map (·, rest)

section
variable {item : Source → Except Flaw (Value × Source)} {t : List Char}

/-- A text is read as its value. -/
theorem Yields.read {v : Value} (h : Yields item t (some v)) {g : List Char} (hgap : Gap g) {rest : Source}
    (hrest : rest.Breaks) : item (Source.ofChars (g ++ t) ++ rest) = .ok (v, rest) := by
  have hyields := h.yields g rest hgap hrest
  cases hitem : item (Source.ofChars (g ++ t) ++ rest) with
  | error f => rw [hitem] at hyields; cases hyields
  | ok r => rw [hitem] at hyields; exact congrArg _ (Option.some.inj hyields)

/-- A text without a value is refused. -/
theorem Yields.refused (h : Yields item t none) {g : List Char} (hgap : Gap g) {rest : Source} (hrest : rest.Breaks) :
    ∃ f, item (Source.ofChars (g ++ t) ++ rest) = .error f := by
  have hyields := h.yields g rest hgap hrest
  cases hitem : item (Source.ofChars (g ++ t) ++ rest) with
  | error f => exact ⟨f, rfl⟩
  | ok r => rw [hitem] at hyields; cases hyields

end

section
variable {α : Type} {W : α → List Char → Prop} {item : Source → Except Flaw (Value × Source)} {val? : α → Option Value}
  {length : Nat} (h : ∀ a t, W a t → t.length < length → Yields item t (val? a))
include h

/-- Things written between brackets are read one by one, or refused when one of them is. -/
theorem items_listed {first : Bool} {as : List α} {t : List Char} (ht : Listed W first as t) (hlength : t.length < length)
    {fuel : Nat} (hfuel : t.length < fuel) (acc : List Value) (rest : Source) :
    (Reader.items item fuel first acc (Source.ofChars (t ++ [']']) ++ rest)).toOption =
      (as.mapM val?).map fun vs => (acc.reverse ++ vs, rest) := by
  induction ht generalizing fuel acc with
  | @nil first g hgap =>
    obtain ⟨fuel, rfl⟩ : ∃ n, fuel = n + 1 := ⟨fuel - 1, by omega⟩
    obtain ⟨hnext, hclose⟩ := Source.nextItem_end hgap first rest
    simp only [Reader.items, hnext, hclose]
    simp [Except.toOption]
  | @cons first a as g g' t ts hgap hgap' ha has ih =>
    simp only [List.length_append] at hlength hfuel
    have hyields := h a t ha (by omega)
    obtain ⟨c, cs, rfl, hc, hopen⟩ := hyields.starts
    obtain ⟨fuel, rfl⟩ : ∃ n, fuel = n + 1 := ⟨fuel - 1, by omega⟩
    have hbreaks := has.breaks (c := ']') (by simp) rest
    rw [List.length_cons] at hfuel
    rw [Reader.items, Source.nextItem_listed hgap hgap' first ts ']' rest hc hopen, List.mapM_cons]
    simp only
    cases hval : val? a with
    | none =>
      rw [hval] at hyields
      obtain ⟨f, hrefused⟩ := hyields.refused gap_nil hbreaks
      rw [List.nil_append] at hrefused
      rw [hrefused]
      rfl
    | some v =>
      rw [hval] at hyields
      have hread := hyields.read gap_nil hbreaks
      rw [List.nil_append] at hread
      rw [hread]
      simp only
      rw [ih (by omega) (by omega)]
      cases as.mapM val? <;> simp

/-- Members written between braces are read one by one, or refused when one of them is. -/
theorem members_listed {first : Bool} {ms : List (String × α)} {t : List Char} (ht : Listed (Member W) first ms t)
    (hlength : t.length < length) {fuel : Nat} (hfuel : t.length < fuel) (acc : List (String × Value)) (rest : Source) :
    (Reader.members item fuel first acc (Source.ofChars (t ++ ['\x7d']) ++ rest)).toOption =
      (ms.mapM fun m => (val? m.2).map (m.1, ·)).map fun vs => (acc.reverse ++ vs, rest) := by
  induction ht generalizing fuel acc with
  | nil hgap =>
    obtain ⟨fuel, rfl⟩ : ∃ n, fuel = n + 1 := ⟨fuel - 1, by omega⟩
    simp only [Reader.members, Source.nextKey_end hgap]
    simp [Except.toOption]
  | @cons first m ms g g' t ts hgap hgap' hm hms ih =>
    simp only [List.length_append] at hlength hfuel
    obtain @⟨key, a, k, gap, gap', t, hkey, hcolon, hcolon', ha⟩ := hm
    simp only [List.length_cons, List.length_append] at hlength hfuel
    have hyields := h a t ha (by omega)
    obtain ⟨fuel, rfl⟩ : ∃ n, fuel = n + 1 := ⟨fuel - 1, by omega⟩
    have hbreaks := hms.breaks (c := '\x7d') (by simp) rest
    rw [Reader.members, Source.nextKey_listed hgap hgap' first ts '\x7d' rest, List.mapM_cons]
    simp only [string_spelled _ hkey]
    simp only [Source.colon_append hcolon]
    cases hval : val? a with
    | none =>
      rw [hval] at hyields
      obtain ⟨f, hrefused⟩ := hyields.refused hcolon' hbreaks
      rw [hrefused]
      rfl
    | some v =>
      rw [hval] at hyields
      rw [hyields.read hcolon' hbreaks]
      simp only
      rw [ih (by omega) (by omega)]
      cases ms.mapM fun m => (val? m.2).map (m.1, ·) <;> simp

end

/-! ## What is read is written -/

namespace Source

/-- Before an item there is what separates it from the one before, and gaps. -/
theorem exists_of_nextItem {first : Bool} {s s' : Source} (h : s.nextItem first = .ok (some s')) :
    ∃ g g', Gap g ∧ Gap g' ∧ s = ofChars (g ++ if first then [] else ',' :: g') ++ s' := by
  obtain ⟨g, hgap, hs⟩ := exists_gap s
  unfold nextItem at h
  split at h
  · cases h
  case h_2 p rest hskip =>
  split at h
  · cases h
  split at h
  case isTrue hfirst =>
    subst hfirst
    cases h
    exact ⟨g, [], hgap, gap_nil, by simpa [hskip] using hs⟩
  case isFalse hfirst =>
  split at h
  case isFalse => cases h
  case isTrue hcomma =>
    obtain ⟨g', hgap', hrest⟩ := exists_gap rest
    split at h
    · cases h
    case h_2 q after hskip' =>
      split at h
      · cases h
      · cases h
        refine ⟨g, g', hgap, hgap', ?_⟩
        rw [hs, hskip, hcomma, hrest, hskip']
        simp [hfirst]

/-- Before the end of a list there is a gap. -/
theorem exists_of_closeList {s rest : Source} (h : s.closeList = .ok rest) :
    ∃ g, Gap g ∧ s = ofChars (g ++ [']']) ++ rest := by
  obtain ⟨g, hgap, hs⟩ := exists_gap s
  unfold closeList at h
  split at h
  · cases h
  case h_2 p rest' hskip =>
    split at h
    case isFalse => cases h
    case isTrue hbracket =>
      cases h
      exact ⟨g, hgap, by rw [hs, hskip, hbracket]; simp⟩

/-- Before a key there is what separates it from the member before, and gaps. -/
theorem exists_of_nextKey {first : Bool} {s s' : Source} (h : s.nextKey first = .ok (.inl s')) :
    ∃ g g', Gap g ∧ Gap g' ∧ s = ofChars (g ++ ((if first then [] else ',' :: g') ++ ['"'])) ++ s' := by
  obtain ⟨g, hgap, hs⟩ := exists_gap s
  unfold nextKey at h
  split at h
  · cases h
  case h_2 p rest hskip =>
  split at h
  · cases h
  simp only at h
  split at h
  case isTrue hfirst =>
    subst hfirst
    split at h
    case isFalse => cases h
    case isTrue hquote =>
      cases h
      exact ⟨g, [], hgap, gap_nil, by rw [hs, hskip, hquote]; simp⟩
  case isFalse hfirst =>
  split at h
  case isFalse => cases h
  case isTrue hcomma =>
    obtain ⟨g', hgap', hrest⟩ := exists_gap rest
    split at h
    · cases h
    case h_2 q after hskip' =>
      split at h
      case isFalse => cases h
      case isTrue hquote =>
        cases h
        refine ⟨g, g', hgap, hgap', ?_⟩
        rw [hs, hskip, hcomma, hrest, hskip', hquote]
        simp [hfirst]

/-- Before the end of an object there is a gap. What is read as a key is never such an end. -/
theorem exists_of_nextKey_end {first : Bool} {s rest : Source} (h : s.nextKey first = .ok (.inr rest)) :
    ∃ g, Gap g ∧ s = ofChars (g ++ ['\x7d']) ++ rest := by
  obtain ⟨g, hgap, hs⟩ := exists_gap s
  unfold nextKey at h
  split at h
  · cases h
  case h_2 p rest' hskip =>
  split at h
  case isTrue hbrace =>
    cases h
    exact ⟨g, hgap, by rw [hs, hskip, hbrace]; simp⟩
  case isFalse =>
    simp only at h
    split at h
    · split at h <;> cases h
    · split at h
      · split at h
        · cases h
        · split at h <;> cases h
      · cases h

/-- Before the colon there is a gap. -/
theorem exists_of_colon {s rest : Source} (h : s.colon = .ok rest) : ∃ g, Gap g ∧ s = ofChars (g ++ [':']) ++ rest := by
  obtain ⟨g, hgap, hs⟩ := exists_gap s
  unfold colon at h
  split at h
  · cases h
  case h_2 p rest' hskip =>
    split at h
    case isFalse => cases h
    case isTrue hcolon =>
      cases h
      exact ⟨g, hgap, by rw [hs, hskip, hcolon]; simp⟩

end Source

section
variable {α : Type} {W : α → List Char → Prop} {item : Source → Except Flaw (Value × Source)}
  (h : ∀ s v rest, item s = .ok (v, rest) → ∃ g a t, Gap g ∧ W a t ∧ s = Source.ofChars (g ++ t) ++ rest)
include h

/-- Where items are read up to a bracket, there are some written. -/
theorem exists_listed_of_items {fuel : Nat} {first : Bool} {acc vs : List Value} {s rest : Source}
    (hread : Reader.items item fuel first acc s = .ok (vs, rest)) :
    ∃ as t, Listed W first as t ∧ s = Source.ofChars (t ++ [']']) ++ rest := by
  induction fuel generalizing first acc s with
  | zero => cases hread
  | succ fuel ih =>
    rw [Reader.items] at hread
    split at hread
    · cases hread
    · split at hread
      · cases hread
      case h_2 hclose =>
        cases hread
        obtain ⟨g, hgap, hs⟩ := Source.exists_of_closeList hclose
        exact ⟨[], g, .nil hgap, hs⟩
    case h_3 s' hnext =>
      split at hread
      · cases hread
      case h_2 v rest' hitem =>
        obtain ⟨g, g', hgap, hgap', rfl⟩ := Source.exists_of_nextItem hnext
        obtain ⟨gap, a, t, hfront, ha, rfl⟩ := h _ _ _ hitem
        obtain ⟨as, ts, has, rfl⟩ := ih hread
        cases first with
        | true => exact ⟨a :: as, _, .cons (hgap.append hfront) gap_nil ha has, by simp⟩
        | false => exact ⟨a :: as, _, .cons hgap (hgap'.append hfront) ha has, by simp⟩

/-- Where members are read up to a brace, there are some written. -/
theorem exists_listed_of_members {fuel : Nat} {first : Bool} {acc vs : List (String × Value)} {s rest : Source}
    (hread : Reader.members item fuel first acc s = .ok (vs, rest)) :
    ∃ ms t, Listed (Member W) first ms t ∧ s = Source.ofChars (t ++ ['\x7d']) ++ rest := by
  induction fuel generalizing first acc s with
  | zero => cases hread
  | succ fuel ih =>
    rw [Reader.members] at hread
    split at hread
    · cases hread
    case h_2 hnext =>
      cases hread
      obtain ⟨g, hgap, hs⟩ := Source.exists_of_nextKey_end hnext
      exact ⟨[], g, .nil hgap, hs⟩
    case h_3 s' hnext =>
      split at hread
      · cases hread
      case h_2 key s₁ hkey =>
      split at hread
      · cases hread
      case h_2 s₂ hcolon =>
      split at hread
      · cases hread
      case h_2 v rest' hitem =>
        obtain ⟨g, g', hgap, hgap', rfl⟩ := Source.exists_of_nextKey hnext
        obtain ⟨k, hspelled, rfl⟩ := exists_spelled_of_string hkey
        obtain ⟨before, hbefore, rfl⟩ := Source.exists_of_colon hcolon
        obtain ⟨behind, a, t, hbehind, ha, rfl⟩ := h _ _ _ hitem
        obtain ⟨ms, ts, hms, rfl⟩ := ih hread
        exact ⟨(key, a) :: ms, _, .cons hgap hgap' (.mk hspelled hbefore hbehind ha) hms, by cases first <;> simp⟩

end

/-! ## Documents -/

/-- The bytes of a text hold the document that the text holds. -/
theorem parseBytes_encode (s : String) : parseBytes (Text.encode s) = parse s := by
  rw [parseBytes, Text.segments_encode, parse]

end QueryGateway.Json
