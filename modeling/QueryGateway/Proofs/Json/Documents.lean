import QueryGateway.Proofs.Json.Forms
import QueryGateway.Proofs.Json.Members
import QueryGateway.Proofs.Json.Numbers

/-!
# Written documents are read back

A document is written in a form of its own (`Value.form`, `Value.writes_form`), so that one that was read may be written
and read again (`parse_render`): it comes back as it was, but for the last places of its doubles (`Value.reread`). What
makes this so is kept by reading (`fits_parse`): the keys of an object are in order and each is there once, numbers are
in range, and not too much is open at once.
-/

namespace QueryGateway.Json

open Text (Segment)

/-! ## The text of a document -/

mutual

/-- Writing appends the text of a document to what is there. -/
theorem Value.toList_write (out : String) : (v : Value) → (write out v).toList = out.toList ++ (render v).toList
  | .null => by simp [write, render]
  | .bool true => by simp [write, render]
  | .bool false => by simp [write, render]
  | .number n => by simp [write, render]
  | .text s => by simp [write, render]
  | .list items => by simp [write, render, toList_writeItems]
  | .object members => by simp [write, render, toList_writeMembers]

/-- Writing items appends their texts with commas between them. -/
theorem Value.toList_writeItems (out : String) (first : Bool) :
    (items : List Value) →
      (writeItems out first items).toList = out.toList ++ separated first (items.map fun v => (render v).toList)
  | [] => by simp [writeItems, separated]
  | v :: items => by
    rw [writeItems, toList_writeItems, toList_write, List.map_cons, separated]
    cases first <;> simp

/-- Writing members appends their keys and texts with commas between them. -/
theorem Value.toList_writeMembers (out : String) (first : Bool) :
    (members : List (String × Value)) →
      (writeMembers out first members).toList =
        out.toList ++ separated first (members.map fun m => memberChars m.1 (render m.2).toList)
  | [] => by simp [writeMembers, separated]
  | (k, v) :: members => by
    rw [writeMembers, toList_writeMembers, toList_write, List.map_cons, separated]
    cases first <;> simp [memberChars, quoted]

end

namespace Value

theorem toList_render_number (n : Number) : (render (.number n)).toList = n.render := by
  simp [render, write]

theorem toList_render_text (s : String) : (render (.text s)).toList = quotedChars s.toList := by
  simp [render, write, quoted]

theorem toList_render_list (items : List Value) :
    (render (.list items)).toList = '[' :: (separated true (items.map fun v => (render v).toList) ++ [']']) := by
  simp [render, write, toList_writeItems]

theorem toList_render_object (members : List (String × Value)) :
    (render (.object members)).toList =
      '\x7b' :: (separated true (members.map fun m => memberChars m.1 (render m.2).toList) ++ ['\x7d']) := by
  simp [render, write, toList_writeMembers]

/-! ## The form of a written document -/

mutual

/-- The form in which a document is written. -/
def form : Value → Form
  | null => .null
  | bool b => .bool b
  | number n => .number (n.literal.numeral n.negative)
  | text s => .text s
  | list items => .list (formItems items)
  | object members => .object (formMembers members)

/-- The forms in which items are written. -/
def formItems : List Value → List Form
  | [] => []
  | v :: items => form v :: formItems items

/-- The forms in which members are written. -/
def formMembers : List (String × Value) → List (String × Form)
  | [] => []
  | (k, v) :: members => (k, form v) :: formMembers members

end

theorem formItems_eq_map (items : List Value) : formItems items = items.map form := by
  induction items with
  | nil => rfl
  | cons v items ih => rw [formItems, ih, List.map_cons]

theorem formMembers_eq_map (members : List (String × Value)) :
    formMembers members = members.map fun m => (m.1, form m.2) := by
  induction members with
  | nil => rfl
  | cons m members ih => rw [formMembers, ih, List.map_cons]

mutual

/-- A document is written in its form. -/
theorem writes_form : (v : Value) → v.form.Writes (render v).toList
  | null => by
    rw [form]
    exact .null
  | bool true => by
    rw [form]
    exact .true
  | bool false => by
    rw [form]
    exact .false
  | number n => by
    rw [form, toList_render_number]
    exact .number n.spelled_render
  | text s => by
    rw [form, toList_render_text]
    exact .text (spelled_escaped s.toList)
  | list items => by
    rw [form, formItems_eq_map, toList_render_list]
    exact .list (listed_separated (writes_formItems items) true)
  | object members => by
    rw [form, formMembers_eq_map, toList_render_object]
    exact .object (listed_separated (fun m hm => member_memberChars (writes_formMembers members m hm)) true)

/-- So are its items. -/
theorem writes_formItems : (items : List Value) → ∀ v ∈ items, v.form.Writes (render v).toList
  | [] => nofun
  | v :: items => by
    intro w hw
    rcases List.mem_cons.mp hw with hw | hw
    · rw [hw]
      exact writes_form v
    · exact writes_formItems items w hw

/-- So are the values of its members. -/
theorem writes_formMembers : (members : List (String × Value)) → ∀ m ∈ members, m.2.form.Writes (render m.2).toList
  | [] => nofun
  | (k, v) :: members => by
    intro m hm
    rcases List.mem_cons.mp hm with hm | hm
    · rw [hm]
      exact writes_form v
    · exact writes_formMembers members m hm

end

/-- A written document fills its text. -/
theorem fills_form (v : Value) : v.form.Fills v.render :=
  ⟨[], _, [], gap_nil, v.writes_form, gap_nil, by simp⟩

/-! ## Writing and reading again -/

mutual

/-- What a document is once it has been written and read again. -/
def reread : Value → Value
  | null => null
  | bool b => bool b
  | number n => number n.reread
  | text s => text s
  | list items => list (rereadItems items)
  | object members => object (rereadMembers members)

/-- What items are once they have been written and read again. -/
def rereadItems : List Value → List Value
  | [] => []
  | v :: items => reread v :: rereadItems items

/-- What members are once they have been written and read again. -/
def rereadMembers : List (String × Value) → List (String × Value)
  | [] => []
  | (k, v) :: members => (k, reread v) :: rereadMembers members

end

theorem rereadItems_eq_map (items : List Value) : rereadItems items = items.map reread := by
  induction items with
  | nil => rfl
  | cons v items ih => rw [rereadItems, ih, List.map_cons]

theorem rereadMembers_eq_map (members : List (String × Value)) :
    rereadMembers members = members.map fun m => (m.1, reread m.2) := by
  induction members with
  | nil => rfl
  | cons m members ih => rw [rereadMembers, ih, List.map_cons]

/-- A document that can have been read with so many lists and objects open inside. -/
def Fits : Nat → Value → Prop
  | _, null => True
  | _, bool _ => True
  | _, number n => n.Sound
  | _, text _ => True
  | 0, list _ => False
  | 0, object _ => False
  | depth + 1, list items => ∀ v ∈ items, Fits depth v
  | depth + 1, object members => Members.Sorted members ∧ ∀ m ∈ members, Fits depth m.2

/-- A document that can have been read is what its form is read as. -/
theorem value?_form {depth : Nat} {v : Value} (h : v.Fits depth) : v.form.value? depth = some v.reread := by
  induction depth using Nat.strongRecOn generalizing v with
  | ind depth ih =>
    cases v with
    | null | bool | text => rw [form, Form.value?, reread]
    | number n =>
      rw [Fits] at h
      rw [form, Form.value?, reread, n.value?_literal h, Option.map_some]
    | list items =>
      cases depth with
      | zero => exact h.elim
      | succ depth =>
        have hitems : ∀ v ∈ items, (Form.value? depth ∘ form) v = some v.reread := fun v hv =>
          ih depth (Nat.lt_succ_self _) (h v hv)
        rw [form, formItems_eq_map, Form.value?, reread, rereadItems_eq_map, List.mapM_map, mapM_eq_some_map hitems,
          Option.map_some]
    | object members =>
      cases depth with
      | zero => exact h.elim
      | succ depth =>
        obtain ⟨hsorted, hfit⟩ := h
        have hmembers : ∀ m ∈ members, (form m.2).value? depth = some m.2.reread := fun m hm =>
          ih depth (Nat.lt_succ_self _) (hfit m hm)
        rw [form, formMembers_eq_map, Form.value?, reread, rereadMembers_eq_map, List.mapM_map,
          mapM_eq_some_map (g := fun m => (m.1, m.2.reread)), Option.map_some, Members.ofList_of_sorted]
        · exact List.pairwise_map.mpr hsorted
        · exact fun m hm => by simp [hmembers m hm]

end Value

/-! ## What is read -/

/-- A value that a form has fits: its numbers are in range, its objects in order, and no more is open than may be. -/
theorem Form.fits_value? {depth : Nat} {f : Form} {v : Value} (h : f.value? depth = some v) : v.Fits depth := by
  induction depth using Nat.strongRecOn generalizing f v with
  | ind depth ih =>
    cases f with
    | null | bool | text =>
      rw [value?] at h
      cases h
      rw [Value.Fits]
      trivial
    | number x =>
      rw [value?] at h
      obtain ⟨n, hn, rfl⟩ := Option.map_eq_some_iff.mp h
      rw [Value.Fits]
      exact Numeral.sound_value? hn
    | list items =>
      cases depth with
      | zero => cases h
      | succ depth =>
        rw [value?] at h
        obtain ⟨vs, hvs, rfl⟩ := Option.map_eq_some_iff.mp h
        intro v hv
        obtain ⟨f, -, hf⟩ := exists_of_mem_mapM hvs hv
        exact ih depth (Nat.lt_succ_self _) hf
    | object members =>
      cases depth with
      | zero => cases h
      | succ depth =>
        rw [value?] at h
        obtain ⟨ms, hms, rfl⟩ := Option.map_eq_some_iff.mp h
        refine ⟨Members.sorted_ofList ms, fun m hm => ?_⟩
        obtain ⟨m', -, hm'⟩ := exists_of_mem_mapM hms (Members.mem_ofList hm)
        obtain ⟨v, hv, rfl⟩ := Option.map_eq_some_iff.mp hm'
        exact ih depth (Nat.lt_succ_self _) hv

/-- A document that a text holds fits. -/
theorem fits_parse {text : String} {v : Value} (h : parse text = .ok v) : v.Fits maxDepth := by
  obtain ⟨f, -, hf⟩ := Form.parse_eq_ok_iff.mp h
  exact Form.fits_value? hf

/-- What was read may be written and is read again. -/
theorem parse_render {text : String} {v : Value} (h : parse text = .ok v) : parse v.render = .ok v.reread :=
  Form.parse_eq_ok_iff.mpr ⟨v.form, v.fills_form, Value.value?_form (fits_parse h)⟩

end QueryGateway.Json
