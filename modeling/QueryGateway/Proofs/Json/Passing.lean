import QueryGateway.Json.Passing
import QueryGateway.Proofs.Json.Forms

/-!
# What is written is passed over

The machine that passes over a value gets through every text that is written in some form, however deep and whatever its
numbers (`Form.passes`). The lists and objects that were open in front of the text are open behind it, and of its moves
there are fewer than two for each character, so that those it is allowed are enough (`passValue_append`).
-/

namespace QueryGateway.Json

open Text (Segment)

/-! ## Strings and numbers -/

section
variable (rest : Source)

/-- A quote ends a string, a backslash begins an escape, and any other character from U+0020 on is passed over. -/
theorem passQuoted_plain (c : Char) : passQuoted .plain (.char c :: rest) =
    if c = '"' then .ok rest
    else if c = '\\' then passQuoted .escape rest
    else if c.toNat < 0x20 then .error .malformed
    else passQuoted .plain rest := by
  simp only [passQuoted]

/-- Four digits are passed over, whatever they stand for. -/
theorem passQuoted_codeUnit {ds : List Char} {n : Nat} (h : CodeUnit ds n) :
    passQuoted (.hex 0 4 none) (Source.ofChars ds ++ rest) = passQuoted .plain rest := by
  obtain ⟨ha, hb, hc, hd⟩ := h
  simp [passQuoted, ha, hb, hc, hd]

/-- A code of four digits is passed over. -/
theorem passQuoted_code {ds : List Char} {n : Nat} (h : CodeUnit ds n) :
    passQuoted .plain (Source.ofChars ('\\' :: 'u' :: ds) ++ rest) = passQuoted .plain rest := by
  rw [Source.ofChars_cons, List.cons_append, passQuoted_plain, if_neg (by decide), if_pos rfl, Source.ofChars_cons,
    List.cons_append, passQuoted, if_pos rfl, if_pos (h.holds rest), passQuoted_codeUnit rest h]

/-- A spelling of a character is passed over. -/
theorem passQuoted_spelling {c : Char} {t : List Char} (h : Spelling c t) :
    passQuoted .plain (Source.ofChars t ++ rest) = passQuoted .plain rest := by
  cases h with
  | plain hquote hbackslash hplain =>
    rw [Source.ofChars_cons, Source.ofChars_nil, List.cons_append, List.nil_append, passQuoted_plain, if_neg hquote,
      if_neg hbackslash, if_neg (by omega)]
  | @short _ letter hletter =>
    have hcode : letter ≠ 'u' := by
      rintro rfl
      cases hletter
    rw [Source.ofChars_cons, List.cons_append, passQuoted_plain, if_neg (by decide), if_pos rfl, Source.ofChars_cons,
      Source.ofChars_nil, List.cons_append, List.nil_append, passQuoted, if_neg hcode, if_pos (by simp [hletter])]
  | code hunit => exact passQuoted_code rest hunit
  | pair hunit hunit' =>
    rw [← List.cons_append, ← List.cons_append, Source.ofChars_append, List.append_assoc, passQuoted_code _ hunit,
      passQuoted_code rest hunit']

/-- A spelled string and the closing quote are passed over. -/
theorem passString_spelled {cs t : List Char} (h : Spelled cs t) :
    passString (Source.ofChars (t ++ ['"']) ++ rest) = .ok rest := by
  rw [passString]
  induction h with
  | nil => exact passQuoted_plain rest '"'
  | cons hspelling _ ih =>
    rw [List.append_assoc, Source.ofChars_append, List.append_assoc, passQuoted_spelling _ hspelling, ih]

/-- A numeral is passed over, whether or not it is in range. -/
theorem passNumber_append {x : Numeral} {t : List Char} (h : x.SpelledBare t) {rest : Source} (hrest : rest.Breaks) :
    Passing.number (Source.ofChars t ++ rest) = .ok rest := by
  obtain ⟨hwhole, hfirst, hdigits, hfraction, hexponent⟩ := h
  have hbare : Numeral.SpelledBare { x with negative := false } _ :=
    .mk hwhole hfirst hdigits hfraction hexponent
  have hread := numeral_append hbare hrest
  rw [Passing.number, hread]

end

/-! ## Moves -/

namespace Passing

/-- The machine gets from one state to another in so many moves. -/
inductive Moves : Nat → State → State → Prop where
  | none (st : State) : Moves 0 st st
  | more {n : Nat} {st st' st'' : State} : step st = .ok (some st') → Moves n st' st'' → Moves (n + 1) st st''

section
variable {n n' : Nat} {st st' st'' : State}

/-- One move. -/
theorem Moves.one (h : step st = .ok (some st')) : Moves 1 st st' :=
  .more h (.none st')

theorem Moves.trans (h : Moves n st st') (h' : Moves n' st' st'') : Moves (n + n') st st'' := by
  induction h with
  | none => rwa [Nat.zero_add]
  | more hstep _ ih =>
    rw [Nat.add_right_comm]
    exact .more hstep (ih h')

/-- A run goes on behind the moves. -/
theorem Moves.run (h : Moves n st st') (fuel : Nat) : Passing.run (fuel + n) st = Passing.run fuel st' := by
  induction h with
  | none => rfl
  | more hstep _ ih =>
    rw [← Nat.add_assoc, Passing.run, hstep]
    exact ih

end

/-- A text is passed over behind any gap and wherever no number could go on behind it, whatever is open, in fewer than
two moves for each character. It starts with the first character of the value. -/
structure Passes (t : List Char) : Prop where
  starts : ∃ c cs, t = c :: cs ∧ isGap (.char c) = false ∧ c ≠ ']'
  moves : ∃ n, n + 1 ≤ 2 * t.length ∧ ∀ frames g rest, Gap g → rest.Breaks →
    Moves n ⟨.value, frames, Source.ofChars (g ++ t) ++ rest⟩ ⟨.after, frames, rest⟩

/-- A text is passed over as an item of a frame: its label is taken, and then its value is passed over. It starts with a
character that does not close the frame. -/
structure Enters (frame : Frame) (t : List Char) : Prop where
  starts : ∃ c cs, t = c :: cs ∧ isGap (.char c) = false ∧ c ≠ frame.closer
  moves : ∃ n, n + 1 ≤ 2 * t.length ∧ ∀ outer g rest, Gap g → rest.Breaks →
    ∃ left, label frame (Source.ofChars (g ++ t) ++ rest) = .ok left ∧
      Moves n ⟨.value, frame :: outer, left⟩ ⟨.after, frame :: outer, rest⟩

/-! ### Items -/

/-- In a list a value stands as it is. -/
theorem Passes.enters {t : List Char} (h : Passes t) : Enters .list t := by
  obtain ⟨n, hn, hmoves⟩ := h.moves
  exact ⟨h.starts, n, hn, fun outer g rest hgap hrest => ⟨_, rfl, hmoves (.list :: outer) g rest hgap hrest⟩⟩

/-- In an object it stands behind its key. -/
theorem enters_member {α : Type} {W : α → List Char → Prop} {m : String × α} {t : List Char} (h : Member W m t)
    (hpasses : ∀ u, W m.2 u → u.length < t.length → Passes u) : Enters .object t := by
  obtain @⟨key, a, k, gap, gap', u, hkey, hgap₁, hgap₂, ha⟩ := h
  obtain ⟨n, hn, hmoves⟩ := (hpasses u ha (by simp; omega)).moves
  refine ⟨⟨'"', _, rfl, by decide, by decide⟩, n, by simp; omega, fun outer g rest hgap hrest => ?_⟩
  refine ⟨Source.ofChars (gap' ++ u) ++ rest, ?_, hmoves (.object :: outer) gap' rest hgap₂ hrest⟩
  have hsource : Source.ofChars (g ++ '"' :: (k ++ '"' :: (gap ++ ':' :: (gap' ++ u)))) ++ rest =
      Source.ofChars g ++ .char '"' :: (Source.ofChars (k ++ ['"']) ++ (Source.ofChars gap ++
        .char ':' :: (Source.ofChars (gap' ++ u) ++ rest))) := by
    simp
  rw [hsource, label, Source.skipGap_append hgap, Source.skipGap_cons (by decide)]
  simp only [if_true, passString_spelled _ hkey, Source.colon_append hgap₁]

/-! ### What is open -/

/-- What comes next inside a frame. -/
def next (first : Bool) : Mode := if first then .opened else .after

section
variable (frame : Frame) (outer : List Frame) (first : Bool)

theorem step_inside (s : Source) :
    step ⟨next first, frame :: outer, s⟩ = (inside frame outer first s).map some := by
  cases first <;> rfl

/-- A frame is closed. -/
theorem inside_closer {g : List Char} (hgap : Gap g) (rest : Source) :
    inside frame outer first (Source.ofChars (g ++ [frame.closer]) ++ rest) = .ok ⟨.after, outer, rest⟩ := by
  have hcloser : isGap (.char frame.closer) = false := by
    cases frame <;> decide
  rw [Source.ofChars_append, List.append_assoc, inside, Source.skipGap_append hgap]
  simp [Source.skipGap_cons hcloser]

/-- An item begins, behind a comma unless it is the first. -/
theorem inside_item {g g' : List Char} (hgap : Gap g) {c : Char} (hc : isGap (.char c) = false)
    (hopen : c ≠ frame.closer) (cs : List Char) (rest : Source) :
    inside frame outer first (Source.ofChars (g ++ ((if first then [] else ',' :: g') ++ c :: cs)) ++ rest) =
      (label frame (Source.ofChars ((if first then [] else g') ++ c :: cs) ++ rest)).map
        (State.mk .value (frame :: outer)) := by
  rw [Source.ofChars_append, List.append_assoc, inside, Source.skipGap_append hgap]
  cases first with
  | true => simp [Source.skipGap_cons hc, hopen]
  | false =>
    have hcomma : ',' ≠ frame.closer := by
      cases frame <;> decide
    simp [Source.skipGap_cons (p := .char ',') (by decide), hcomma]

end

/-- Things written in a frame are passed over one by one, and then the frame is closed. -/
theorem moves_listed {α : Type} {W : α → List Char → Prop} {frame : Frame} {length : Nat}
    (h : ∀ a t, W a t → t.length < length → Enters frame t) {first : Bool} {as : List α} {t : List Char}
    (ht : Listed W first as t) (hlength : t.length < length) :
    ∃ n, n ≤ 2 * t.length + 1 ∧ ∀ outer rest,
      Moves n ⟨next first, frame :: outer, Source.ofChars (t ++ [frame.closer]) ++ rest⟩ ⟨.after, outer, rest⟩ := by
  induction ht with
  | @nil first g hgap =>
    refine ⟨1, by omega, fun outer rest => .one ?_⟩
    rw [step_inside, inside_closer frame outer first hgap rest]
    rfl
  | @cons first a as g g' t ts hgap hgap' ha has ih =>
    simp only [List.length_append] at hlength
    have henters := h a t ha (by omega)
    obtain ⟨n, hn, hitem⟩ := henters.moves
    obtain ⟨n', hn', hitems⟩ := ih (by omega)
    refine ⟨n + n' + 1, by simp only [List.length_append]; omega, fun outer rest => ?_⟩
    obtain ⟨c, cs, rfl, hc, hopen⟩ := henters.starts
    have hcloser : frame.closer ∈ [',', ']', '\x7d'] := by
      cases frame <;> decide
    have hfront : Gap (if first then [] else g') := by
      cases first with
      | true => exact gap_nil
      | false => exact hgap'
    obtain ⟨left, hlabel, hvalue⟩ := hitem outer _ _ hfront (has.breaks hcloser rest)
    have hsource : Source.ofChars (g ++ ((if first then [] else ',' :: g') ++ (c :: cs ++ ts)) ++ [frame.closer]) ++
          rest = Source.ofChars (g ++ ((if first then [] else ',' :: g') ++ c :: cs)) ++
            (Source.ofChars (ts ++ [frame.closer]) ++ rest) := by
      simp only [Source.ofChars_append, List.append_assoc]
    refine .more ?_ (hvalue.trans (hitems outer rest))
    rw [step_inside, hsource, inside_item frame outer first hgap hc hopen, hlabel]
    rfl

/-! ## Values -/

/-- A value begins behind a gap. -/
theorem step_value {g : List Char} (hgap : Gap g) (frames : List Frame) (s : Source) :
    step ⟨.value, frames, Source.ofChars g ++ s⟩ = (begin frames s).map some := by
  have hstep : step ⟨.value, frames, Source.ofChars g ++ s⟩ = (begin frames (Source.ofChars g ++ s)).map some := by
    cases frames <;> rfl
  rw [hstep, begin, Source.skipGap_append hgap, begin]

/-- A value that holds no other is passed over in one move. -/
theorem passes_of_begin {c : Char} {cs : List Char} (hc : isGap (.char c) = false) (hopen : c ≠ ']')
    (h : ∀ frames (rest : Source), rest.Breaks →
      begin frames (.char c :: (Source.ofChars cs ++ rest)) = .ok ⟨.after, frames, rest⟩) : Passes (c :: cs) where
  starts := ⟨c, cs, rfl, hc, hopen⟩
  moves := by
    refine ⟨1, by rw [List.length_cons]; omega, fun frames g rest hgap hrest => .one ?_⟩
    rw [Source.ofChars_append, List.append_assoc, step_value hgap, Source.ofChars_cons, List.cons_append,
      h frames rest hrest]
    rfl

/-- A list or an object is passed over: it is opened, and then what is in it is passed over. -/
theorem passes_of_listed {α : Type} {W : α → List Char → Prop} (frame : Frame) {as : List α} {t : List Char}
    {opener : Char} (hc : isGap (.char opener) = false) (hopen : opener ≠ ']')
    (hbegin : ∀ frames s, begin frames (.char opener :: s) = .ok ⟨.opened, frame :: frames, s⟩)
    (h : ∀ a u, W a u → u.length < t.length + 1 → Enters frame u) (ht : Listed W true as t) :
    Passes (opener :: (t ++ [frame.closer])) where
  starts := ⟨opener, _, rfl, hc, hopen⟩
  moves := by
    obtain ⟨n, hn, hmoves⟩ := moves_listed h ht (Nat.lt_succ_self _)
    refine ⟨n + 1, by simp; omega, fun frames g rest hgap _ => .more ?_ (hmoves frames rest)⟩
    rw [Source.ofChars_append, List.append_assoc, step_value hgap, Source.ofChars_cons, List.cons_append, hbegin]
    rfl

section
variable (frames : List Frame) (rest : Source)

theorem begin_word {c : Char} {letters : List Char}
    (h : ∀ s, begin frames (.char c :: s) = (Source.word letters s).map (State.mk .after frames)) :
    begin frames (.char c :: (Source.ofChars letters ++ rest)) = .ok ⟨.after, frames, rest⟩ := by
  rw [h, word_append]
  rfl

/-- A digit begins a number. -/
theorem begin_digit {c : Char} (h : c.isDigit = true) :
    begin frames (.char c :: rest) = (number (.char c :: rest)).map (State.mk .after frames) := by
  have hne : ∀ d, d.isDigit = false → c ≠ d := fun d => ne_of_isDigit h
  rw [begin, Source.skipGap_cons (isGap_digit h)]
  simp [hne 'n' (by decide), hne 't' (by decide), hne 'f' (by decide), hne '"' (by decide), hne '-' (by decide), h]

end

end Passing

namespace Form

open Passing

/-- A number is passed over. -/
theorem passes_number {x : Numeral} {t : List Char} (h : x.Spelled t) : Passes t := by
  obtain ⟨u, hu, rfl⟩ := h
  split
  case isTrue =>
    refine passes_of_begin (by decide) (by decide) fun frames rest hrest => ?_
    have hbegin : begin frames (.char '-' :: (Source.ofChars u ++ rest)) =
        (Passing.number (Source.ofChars u ++ rest)).map (State.mk .after frames) := rfl
    rw [hbegin, passNumber_append hu hrest]
    rfl
  case isFalse =>
    obtain ⟨c, cs, rfl, hc⟩ := hu.eq_cons
    refine passes_of_begin (isGap_digit hc) (ne_of_isDigit hc (by decide)) fun frames rest hrest => ?_
    have hread := passNumber_append hu hrest
    rw [Source.ofChars_cons, List.cons_append] at hread
    rw [begin_digit frames _ hc, hread]
    rfl

/-- A string is passed over. -/
theorem passes_text {s : String} {t : List Char} (h : Spelled s.toList t) : Passes ('"' :: (t ++ ['"'])) := by
  refine passes_of_begin (by decide) (by decide) fun frames rest _ => ?_
  have hbegin : begin frames (.char '"' :: (Source.ofChars (t ++ ['"']) ++ rest)) =
      (passString (Source.ofChars (t ++ ['"']) ++ rest)).map (State.mk .after frames) := rfl
  rw [hbegin, passString_spelled rest h]
  rfl

/-- A text that is written in some form is passed over. What stands in a list or an object is a shorter text of some
form. -/
theorem passes {f : Form} {t : List Char} (h : f.Writes t) : Passes t := by
  induction hlength : t.length using Nat.strongRecOn generalizing f t with
  | _ length ih =>
  subst hlength
  cases h with
  | null => exact passes_of_begin (by decide) (by decide) fun frames rest _ => begin_word frames rest fun _ => rfl
  | true => exact passes_of_begin (by decide) (by decide) fun frames rest _ => begin_word frames rest fun _ => rfl
  | false => exact passes_of_begin (by decide) (by decide) fun frames rest _ => begin_word frames rest fun _ => rfl
  | number h => exact passes_number h
  | text h => exact passes_text h
  | @list items t h =>
    refine passes_of_listed .list (by decide) (by decide) (fun _ _ => rfl) (fun f u hf hu => ?_) h
    exact (ih u.length (by simp; omega) hf rfl).enters
  | @object members t h =>
    refine passes_of_listed .object (by decide) (by decide) (fun _ _ => rfl) (fun m u hm hu => ?_) h
    exact enters_member hm fun w hw hshorter => ih w.length (by simp; omega) hw rfl

end Form

/-- Behind a value that is written in some form, what follows it is left, if the machine may make two moves for each
character of the value. -/
theorem passValue_append {f : Form} {g t : List Char} (hgap : Gap g) (h : f.Writes t) {rest : Source}
    (hrest : rest.Breaks) {fuel : Nat} (hfuel : 2 * t.length ≤ fuel) :
    passValue fuel (Source.ofChars (g ++ t) ++ rest) = .ok rest := by
  obtain ⟨n, hn, hmoves⟩ := (Form.passes h).moves
  obtain ⟨spare, rfl⟩ : ∃ spare, fuel = spare + 1 + n := ⟨fuel - (n + 1), by omega⟩
  rw [passValue, (hmoves [] g rest hgap hrest).run, Passing.run]
  rfl

end QueryGateway.Json
