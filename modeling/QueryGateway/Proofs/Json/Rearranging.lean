import QueryGateway.Proofs.Json.Documents

/-!
# Forms of one document

Two forms have one value when they differ in nothing but the order of the members of objects in which no key stands twice
(`Form.Rearranged.value?_eq`). A form whose numbers are integers that the reader keeps has a value that is read again as
it is (`Form.Integral.reread_eq`).
-/

namespace QueryGateway.Json

/-! ## Members in another order -/

section
variable {α β : Type} {f : α → Option β}

/-- Parts in another order have the same outcomes in another order. -/
theorem perm_of_mapM {as as' : List α} (h : as.Perm as') {bs : List β} (hbs : as.mapM f = some bs) :
    ∃ bs', as'.mapM f = some bs' ∧ bs.Perm bs' := by
  induction h generalizing bs with
  | nil => exact ⟨bs, hbs, .refl bs⟩
  | cons a _ ih =>
    rw [List.mapM_cons] at hbs
    obtain ⟨b, hb, hbs⟩ := Option.bind_eq_some_iff.mp hbs
    obtain ⟨rest, hrest, hbs⟩ := Option.bind_eq_some_iff.mp hbs
    cases hbs
    obtain ⟨rest', hrest', hperm⟩ := ih hrest
    exact ⟨b :: rest', by simp [hb, hrest'], hperm.cons b⟩
  | swap a a' as =>
    rw [List.mapM_cons, List.mapM_cons] at hbs
    obtain ⟨b', hb', hbs⟩ := Option.bind_eq_some_iff.mp hbs
    obtain ⟨rest, hrest, hbs⟩ := Option.bind_eq_some_iff.mp hbs
    obtain ⟨b, hb, hrest⟩ := Option.bind_eq_some_iff.mp hrest
    obtain ⟨bs, htail, hrest⟩ := Option.bind_eq_some_iff.mp hrest
    cases hrest
    cases hbs
    exact ⟨b :: b' :: bs, by simp [hb, hb', htail], .swap b b' bs⟩
  | trans _ _ ih ih' =>
    obtain ⟨bs', hbs', hperm⟩ := ih hbs
    obtain ⟨bs'', hbs'', hperm'⟩ := ih' hbs'
    exact ⟨bs'', hbs'', hperm.trans hperm'⟩

/-- Members keep their keys. -/
theorem keys_of_mapM {ms : List (String × α)} {ms' : List (String × β)}
    (h : (ms.mapM fun m => (f m.2).map (m.1, ·)) = some ms') : ms'.map Prod.fst = ms.map Prod.fst := by
  induction ms generalizing ms' with
  | nil =>
    cases h
    rfl
  | cons m ms ih =>
    rw [List.mapM_cons] at h
    obtain ⟨m', hm', h⟩ := Option.bind_eq_some_iff.mp h
    obtain ⟨rest, hrest, h⟩ := Option.bind_eq_some_iff.mp h
    obtain ⟨b, -, rfl⟩ := Option.map_eq_some_iff.mp hm'
    cases h
    rw [List.map_cons, List.map_cons, ih hrest]

end

namespace Form

/-- The same document but for the order of members: an object in which no key stands twice may have its members in
another order, and so may the objects inside. -/
inductive Rearranged : Form → Form → Prop where
  | refl (f : Form) : Rearranged f f
  | trans {f f' f'' : Form} : Rearranged f f' → Rearranged f' f'' → Rearranged f f''
  | order {members members' : List (String × Form)} : (members.map Prod.fst).Nodup → members.Perm members' →
      Rearranged (object members) (object members')
  | item {f f' : Form} (before after : List Form) : Rearranged f f' →
      Rearranged (list (before ++ f :: after)) (list (before ++ f' :: after))
  | member {f f' : Form} (before after : List (String × Form)) (key : String) : Rearranged f f' →
      Rearranged (object (before ++ (key, f) :: after)) (object (before ++ (key, f') :: after))

/-- Members whose keys differ make the same object in another order. -/
theorem value?_order {members members' : List (String × Form)} (hkeys : (members.map Prod.fst).Nodup)
    (h : members.Perm members') (depth : Nat) : (object members).value? depth = (object members').value? depth := by
  cases depth with
  | zero => rfl
  | succ depth =>
    rw [value?, value?]
    cases hms : members.mapM fun m => (value? depth m.2).map (m.1, ·) with
    | none =>
      cases hms' : members'.mapM fun m => (value? depth m.2).map (m.1, ·) with
      | none => rfl
      | some ms' =>
        obtain ⟨ms, hsome, -⟩ := perm_of_mapM h.symm hms'
        rw [hms] at hsome
        cases hsome
    | some ms =>
      obtain ⟨ms', hms', hperm⟩ := perm_of_mapM h hms
      rw [hms', Option.map_some, Option.map_some, Members.ofList_perm hperm (keys_of_mapM hms ▸ hkeys)]

/-- Forms that differ only in the order of members have one value. -/
theorem Rearranged.value?_eq {f f' : Form} (h : f.Rearranged f') (depth : Nat) : f.value? depth = f'.value? depth := by
  induction h generalizing depth with
  | refl => rfl
  | trans _ _ ih ih' => exact (ih depth).trans (ih' depth)
  | order hkeys hperm => exact value?_order hkeys hperm depth
  | item before after _ ih =>
    cases depth with
    | zero => rfl
    | succ depth => rw [value?, value?, List.mapM_append, List.mapM_append, List.mapM_cons, List.mapM_cons, ih depth]
  | member before after key _ ih =>
    cases depth with
    | zero => rfl
    | succ depth =>
      rw [value?, value?, List.mapM_append, List.mapM_append, List.mapM_cons, List.mapM_cons]
      simp only [ih depth]

end Form

/-! ## Integers -/

/-- An integer that is kept as it is: no minus zero, and in the range of signed or unsigned words of 64 bits. -/
def Numeral.Integral (x : Numeral) : Prop :=
  x.fraction = none ∧ x.exponent = none ∧
    if x.negative then 0 < natOfDigits x.whole ∧ natOfDigits x.whole ≤ 2 ^ 63 else natOfDigits x.whole < 2 ^ 64

/-- Every number is such an integer. -/
inductive Form.Integral : Form → Prop where
  | null : Integral .null
  | bool (b : Bool) : Integral (.bool b)
  | number {x : Numeral} : x.Integral → Integral (.number x)
  | text (s : String) : Integral (.text s)
  | list {items : List Form} : (∀ f ∈ items, Integral f) → Integral (.list items)
  | object {members : List (String × Form)} : (∀ m ∈ members, Integral m.2) → Integral (.object members)

/-- Such an integer is read as an integer. -/
theorem Numeral.Integral.value?_eq {x : Numeral} (h : x.Integral) : ∃ i, x.value? = some (.int i) := by
  obtain ⟨negative, whole, fraction, exponent⟩ := x
  obtain ⟨rfl, rfl, hrange⟩ := h
  simp only at hrange
  have hsize : UInt64.size = 2 ^ 64 := by decide
  have hfits : natOfDigits whole < UInt64.size := by
    rw [hsize]
    split at hrange
    · omega
    · exact hrange
  rw [value?, absorb_of_lt hfits]
  simp only [if_true, ofInteger]
  cases negative with
  | false => exact ⟨_, rfl⟩
  | true =>
    have hnegative : natOfDigits whole ≠ 0 ∧ natOfDigits whole ≤ UInt64.size / 2 := by
      simp only [if_true] at hrange
      omega
    exact ⟨-natOfDigits whole, by rw [if_neg (by decide)]; exact if_pos hnegative⟩

/-- An integer that was read is read again as it is. -/
theorem Number.reread_int {i : Int} (h : (int i).Sound) : (int i).reread = int i := by
  rw [reread, value?_int h, Option.getD_some]

/-- A document in which all numbers are integers is read again as it is. -/
theorem Form.Integral.reread_eq {f : Form} (h : f.Integral) {depth : Nat} {v : Value} (hv : f.value? depth = some v) :
    v.reread = v := by
  induction depth using Nat.strongRecOn generalizing f v with
  | ind depth ih =>
    cases h with
    | null | bool | text =>
      rw [value?] at hv
      cases hv
      rw [Value.reread]
    | number hx =>
      obtain ⟨i, hi⟩ := hx.value?_eq
      rw [value?, hi] at hv
      cases hv
      rw [Value.reread, Number.reread_int (Numeral.sound_value? hi)]
    | @list items hitems =>
      cases depth with
      | zero => cases hv
      | succ depth =>
        rw [value?] at hv
        obtain ⟨vs, hvs, rfl⟩ := Option.map_eq_some_iff.mp hv
        rw [Value.reread, Value.rereadItems_eq_map]
        refine congrArg Value.list ((List.map_congr_left fun v hv => ?_).trans (List.map_id vs))
        obtain ⟨f, hf, hfv⟩ := exists_of_mem_mapM hvs hv
        exact ih depth (Nat.lt_succ_self _) (hitems f hf) hfv
    | @object members hmembers =>
      cases depth with
      | zero => cases hv
      | succ depth =>
        rw [value?] at hv
        obtain ⟨ms, hms, rfl⟩ := Option.map_eq_some_iff.mp hv
        rw [Value.reread, Value.rereadMembers_eq_map]
        refine congrArg Value.object ((List.map_congr_left fun m hm => ?_).trans (List.map_id _))
        obtain ⟨m', hm', hvalue⟩ := exists_of_mem_mapM hms (Members.mem_ofList hm)
        obtain ⟨v, hv, rfl⟩ := Option.map_eq_some_iff.mp hvalue
        rw [ih depth (Nat.lt_succ_self _) (hmembers m' hm') hv]
        rfl

end QueryGateway.Json
