import QueryGateway.Proofs.Json.Documents

/-!
# Places in a document

A place is a way from a document to one of its parts, through the items of lists and the members of objects. What stands at
a place of a form that is read stands, as its value, at the same place of the document (`Form.exists_at_of_value?`), and
what stands at a place of a document that is written stands there in the form in which it is written (`Value.at?_form`). Where
a key stands twice in an object the last member counts (`Form.at?`), though the others stand there too (`Form.Has`).
-/

namespace QueryGateway.Json

/-- A step into a document. -/
inductive Step where
  | item (i : Nat)
  | member (key : String)
deriving DecidableEq, Repr

/-- What stands at a place of a document. -/
def Value.at? : List Step → Value → Option Value
  | [], v => some v
  | .item i :: steps, .list items => items[i]?.bind (at? steps)
  | .member key :: steps, .object members => (members.lookup key).bind (at? steps)
  | _ :: _, _ => none

namespace Form

/-- What counts at a place of a form: of the members with one key the last. -/
def at? : List Step → Form → Option Form
  | [], f => some f
  | .item i :: steps, .list items => items[i]?.bind (at? steps)
  | .member key :: steps, .object members => (Members.valuesAt key members).getLast?.bind (at? steps)
  | _ :: _, _ => none

/-- A form has a part at a place, whether it counts there or not. -/
inductive Has : Form → List Step → Form → Prop where
  | here (f : Form) : Has f [] f
  | item {items : List Form} {i : Nat} {f g : Form} {steps : List Step} : items[i]? = some f → Has f steps g →
      Has (list items) (.item i :: steps) g
  | member {members : List (String × Form)} {key : String} {f g : Form} {steps : List Step} : (key, f) ∈ members →
      Has f steps g → Has (object members) (.member key :: steps) g

/-- What is listed is written somewhere in the list. -/
theorem exists_infix_of_listed {α : Type} {W : α → List Char → Prop} {first : Bool} {as : List α} {ts : List Char}
    (h : Listed W first as ts) {a : α} (ha : a ∈ as) : ∃ t, W a t ∧ t <:+: ts := by
  induction h with
  | nil => cases ha
  | @cons first b bs g g' t ts _ _ hb _ ih =>
    rcases List.mem_cons.1 ha with rfl | hmem
    · refine ⟨t, hb, g ++ (if first then [] else ',' :: g'), ts, ?_⟩
      simp only [List.append_assoc]
    · obtain ⟨t', ht', before, after, rfl⟩ := ih hmem
      refine ⟨t', ht', g ++ ((if first then [] else ',' :: g') ++ (t ++ before)), after, ?_⟩
      simp only [List.append_assoc]

/-- A number that a form has is spelled somewhere in the text of the form. -/
theorem Has.exists_spelled {f : Form} {steps : List Step} {x : Numeral} (h : f.Has steps (.number x)) {t : List Char}
    (hwrites : f.Writes t) : ∃ u, x.Spelled u ∧ u <:+: t := by
  generalize hg : Form.number x = g at h
  induction h generalizing t with
  | here f =>
    subst hg
    cases hwrites with
    | number hx => exact ⟨t, hx, List.infix_rfl⟩
  | item hitem _ ih =>
    cases hwrites with
    | @list items ts hlisted =>
      obtain ⟨t', ht', hin⟩ := exists_infix_of_listed hlisted (List.mem_of_getElem? hitem)
      obtain ⟨u, hu, hwithin⟩ := ih ht' hg
      exact ⟨u, hu, hwithin.trans (hin.trans ⟨['['], [']'], rfl⟩)⟩
  | member hmem _ ih =>
    cases hwrites with
    | @object members ts hlisted =>
      obtain ⟨t', ht', hin⟩ := exists_infix_of_listed hlisted hmem
      cases ht' with
      | @mk _ _ k g g' t'' _ _ _ hvalue =>
        obtain ⟨u, hu, hwithin⟩ := ih hvalue hg
        have hmember : t'' <:+: '"' :: (k ++ '"' :: (g ++ ':' :: (g' ++ t''))) :=
          ⟨'"' :: (k ++ '"' :: (g ++ ':' :: g')), [], by simp⟩
        exact ⟨u, hu, hwithin.trans (hmember.trans (hin.trans ⟨['\x7b'], ['\x7d'], rfl⟩))⟩

end Form

/-! ## Reading -/

section
variable {α β : Type} {f : α → Option β}

/-- A part has its outcome where it stands. -/
theorem exists_getElem?_mapM {as : List α} {bs : List β} (h : as.mapM f = some bs) {i : Nat} {a : α}
    (ha : as[i]? = some a) : ∃ b, f a = some b ∧ bs[i]? = some b := by
  induction as generalizing bs i with
  | nil => cases ha
  | cons a' as ih =>
    rw [List.mapM_cons] at h
    obtain ⟨b, hb, h⟩ := Option.bind_eq_some_iff.1 h
    obtain ⟨bs', hbs', h⟩ := Option.bind_eq_some_iff.1 h
    cases h
    cases i with
    | zero =>
      obtain rfl : a' = a := Option.some.inj ha
      exact ⟨b, hb, rfl⟩
    | succ i => exact ih hbs' ha

/-- There are as many outcomes as parts. -/
theorem length_mapM {as : List α} {bs : List β} (h : as.mapM f = some bs) : bs.length = as.length := by
  induction as generalizing bs with
  | nil =>
    cases h
    rfl
  | cons a as ih =>
    rw [List.mapM_cons] at h
    obtain ⟨b, -, h⟩ := Option.bind_eq_some_iff.1 h
    obtain ⟨bs', hbs', h⟩ := Option.bind_eq_some_iff.1 h
    cases h
    rw [List.length_cons, List.length_cons, ih hbs']

/-- The last part has its outcome at the end. -/
theorem exists_getLast?_mapM {as : List α} {bs : List β} (h : as.mapM f = some bs) {a : α}
    (ha : as.getLast? = some a) : ∃ b, f a = some b ∧ bs.getLast? = some b := by
  rw [List.getLast?_eq_getElem?] at ha
  rw [List.getLast?_eq_getElem?, length_mapM h]
  exact exists_getElem?_mapM h ha

end

/-- What counts at a place of a form is read as what stands there in the document. -/
theorem Form.exists_at_of_value? {f g : Form} {steps : List Step} {depth : Nat} {v : Value}
    (h : f.value? depth = some v) (hplace : f.at? steps = some g) :
    ∃ depth' w, g.value? depth' = some w ∧ v.at? steps = some w := by
  induction steps generalizing f v depth with
  | nil =>
    obtain rfl : f = g := Option.some.inj hplace
    exact ⟨depth, v, h, rfl⟩
  | cons step steps ih =>
    cases step with
    | item i =>
      cases f with
      | list items =>
        cases depth with
        | zero => cases h
        | succ depth =>
          rw [value?] at h
          obtain ⟨vs, hvs, rfl⟩ := Option.map_eq_some_iff.1 h
          obtain ⟨f', hitem, hrest⟩ := Option.bind_eq_some_iff.1 hplace
          obtain ⟨w, hw, hstands⟩ := exists_getElem?_mapM hvs hitem
          obtain ⟨depth', w', hw', hat⟩ := ih hw hrest
          exact ⟨depth', w', hw', Option.bind_eq_some_iff.2 ⟨w, hstands, hat⟩⟩
      | _ => cases hplace
    | member key =>
      cases f with
      | object members =>
        cases depth with
        | zero => cases h
        | succ depth =>
          rw [value?] at h
          obtain ⟨ms, hms, rfl⟩ := Option.map_eq_some_iff.1 h
          obtain ⟨f', hlast, hrest⟩ := Option.bind_eq_some_iff.1 hplace
          obtain ⟨w, hw, hstands⟩ := exists_getLast?_mapM (Members.mapM_valuesAt key hms) hlast
          obtain ⟨depth', w', hw', hat⟩ := ih hw hrest
          exact ⟨depth', w', hw', Option.bind_eq_some_iff.2 ⟨w, (Members.lookup_ofList key ms).trans hstands, hat⟩⟩
      | _ => cases hplace

/-! ## Writing -/

/-- What stands at a key of an object counts there when the object is written. -/
theorem Members.valuesAt_map {α β : Type} (key : String) (f : α → β) (members : List (String × α)) :
    valuesAt key (members.map fun m => (m.1, f m.2)) = (valuesAt key members).map f := by
  simp only [valuesAt, List.filter_map, List.map_map]
  rfl

/-- What stands at a place of a document stands there in the form in which it is written. -/
theorem Value.at?_form {depth : Nat} {v w : Value} {steps : List Step} (hfits : v.Fits depth)
    (h : v.at? steps = some w) : v.form.at? steps = some w.form := by
  induction steps generalizing v depth with
  | nil =>
    obtain rfl : v = w := Option.some.inj h
    rfl
  | cons step steps ih =>
    cases step with
    | item i =>
      cases v with
      | list items =>
        cases depth with
        | zero => exact hfits.elim
        | succ depth =>
          obtain ⟨v', hitem, hrest⟩ := Option.bind_eq_some_iff.1 h
          rw [form, formItems_eq_map, Form.at?, List.getElem?_map, hitem]
          exact ih (hfits v' (List.mem_of_getElem? hitem)) hrest
      | _ => cases h
    | member key =>
      cases v with
      | object members =>
        cases depth with
        | zero => exact hfits.elim
        | succ depth =>
          obtain ⟨v', hmember, hrest⟩ := Option.bind_eq_some_iff.1 h
          have hlast : (Members.valuesAt key members).getLast? = some v' := by
            rw [← Members.lookup_ofList, Members.ofList_of_sorted hfits.1, hmember]
          obtain ⟨m, hm, rfl⟩ := List.mem_map.1 (List.mem_of_getLast? hlast)
          rw [form, formMembers_eq_map, Form.at?, Members.valuesAt_map, List.getLast?_map, hlast]
          exact ih (hfits.2 m (List.mem_of_mem_filter hm)) hrest
      | _ => cases h

end QueryGateway.Json
