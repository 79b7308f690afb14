import Mathlib.Data.List.Nodup
import QueryGateway.Json.Value

/-!
# Members of an object

Reading puts the members of an object in the order of their keys, the last value of a key taking the place of those
before it (`sorted_ofList`, `lookup_insert`). Members that are in order already stay as they are (`ofList_of_sorted`),
and the order in which members are read does not matter as long as their keys differ (`ofList_perm`). Of several values
at one key the last one is found (`lookup_ofList`).
-/

namespace QueryGateway.Json.Members

variable {α : Type}

/-! ## Looking up -/

/-- A key is looked up in the first member, then in the others. -/
theorem lookup_cons (key k : String) (value : α) (members : List (String × α)) :
    ((key, value) :: members).lookup k = if k = key then some value else members.lookup k := by
  by_cases h : k = key
  · rw [h, List.lookup_cons_self, if_pos rfl]
  · rw [List.lookup_cons, beq_false_of_ne h, if_neg h]

/-- A member that is put into an object is found there, and the others are found as before. -/
theorem lookup_insert (key k : String) (value : α) (members : List (String × α)) :
    (insert key value members).lookup k = if k = key then some value else members.lookup k := by
  induction members with
  | nil => rw [insert, lookup_cons]
  | cons m members ih =>
    obtain ⟨k', v⟩ := m
    rw [insert]
    split
    case isTrue hsame =>
      rw [lookup_cons, lookup_cons, ← hsame]
      split <;> rfl
    split
    case isTrue => rw [lookup_cons]
    case isFalse hother _ =>
      rw [lookup_cons, lookup_cons, ih]
      by_cases hk : k = k'
      · rw [if_pos hk, if_neg (by rintro rfl; exact hother hk), if_pos hk]
      · rw [if_neg hk, if_neg hk]

/-! ## Order -/

/-- Members in the order of their keys, each key once. -/
def Sorted (members : List (String × α)) : Prop :=
  members.Pairwise fun m m' => m.1 < m'.1

/-- What is in an object with one more member. -/
theorem mem_insert {key : String} {value : α} {members : List (String × α)} {m : String × α}
    (h : m ∈ insert key value members) : m = (key, value) ∨ m ∈ members := by
  induction members with
  | nil => simpa [insert] using h
  | cons m' members ih =>
    obtain ⟨k, v⟩ := m'
    rw [insert] at h
    split at h
    · rw [List.mem_cons] at h
      exact h.imp_right (List.mem_cons_of_mem _)
    split at h
    · rwa [List.mem_cons] at h
    · rcases List.mem_cons.mp h with h | h
      · exact .inr (h ▸ List.mem_cons_self)
      · exact (ih h).imp_right (List.mem_cons_of_mem _)

/-- One more member leaves the others in order. -/
theorem sorted_insert (key : String) (value : α) {members : List (String × α)} (h : Sorted members) :
    Sorted (insert key value members) := by
  induction members with
  | nil => exact List.pairwise_singleton _ _
  | cons m members ih =>
    obtain ⟨k, v⟩ := m
    obtain ⟨hfirst, hrest⟩ := List.pairwise_cons.mp h
    rw [insert]
    split
    case isTrue hsame => exact List.pairwise_cons.mpr ⟨fun m hm => hsame ▸ hfirst m hm, hrest⟩
    split
    case isTrue hlt =>
      refine List.pairwise_cons.mpr ⟨fun m hm => ?_, h⟩
      rcases List.mem_cons.mp hm with rfl | hm
      · exact hlt
      · exact String.lt_trans hlt (hfirst m hm)
    case isFalse hne hnot =>
      refine List.pairwise_cons.mpr ⟨fun m hm => ?_, ih hrest⟩
      rcases mem_insert hm with rfl | hm
      · exact String.not_le.mp fun hle => hne (String.le_antisymm hle (String.not_lt.mp hnot))
      · exact hfirst m hm

/-- A member behind all the others is put there. -/
theorem insert_last {key : String} (value : α) {members : List (String × α)} (h : ∀ m ∈ members, m.1 < key) :
    insert key value members = members ++ [(key, value)] := by
  induction members with
  | nil => rfl
  | cons m members ih =>
    obtain ⟨k, v⟩ := m
    have hlt : k < key := h (k, v) (by simp)
    have hne : key ≠ k := by
      rintro rfl
      exact String.lt_irrefl _ hlt
    rw [insert, if_neg hne, if_neg (String.lt_asymm hlt), ih fun m hm => h m (by simp [hm])]
    rfl

/-- Members read one after the other are in order. -/
theorem sorted_ofList (members : List (String × α)) : Sorted (ofList members) := by
  have hfrom : ∀ sorted, Sorted sorted → Sorted (members.foldl (fun sorted m => insert m.1 m.2 sorted) sorted) := by
    induction members with
    | nil => exact fun _ h => h
    | cons m members ih => exact fun sorted h => ih _ (sorted_insert m.1 m.2 h)
  exact hfrom [] List.Pairwise.nil

/-- They are the members that were read. -/
theorem mem_ofList {members : List (String × α)} {m : String × α} (h : m ∈ ofList members) : m ∈ members := by
  have hfrom : ∀ sorted, m ∈ members.foldl (fun sorted m => insert m.1 m.2 sorted) sorted → m ∈ sorted ∨ m ∈ members := by
    clear h
    induction members with
    | nil => exact fun _ h => .inl h
    | cons m' members ih =>
      intro sorted h
      rcases ih _ h with h | h
      · rcases mem_insert h with rfl | h
        · exact .inr (by simp)
        · exact .inl h
      · exact .inr (by simp [h])
  simpa using hfrom [] h

/-- Members in order are read as they are. -/
theorem ofList_of_sorted {members : List (String × α)} (h : Sorted members) : ofList members = members := by
  have hfrom : ∀ sorted : List (String × α), Sorted (sorted ++ members) →
      members.foldl (fun sorted m => insert m.1 m.2 sorted) sorted = sorted ++ members := by
    clear h
    induction members with
    | nil => exact fun sorted _ => (List.append_nil sorted).symm
    | cons m members ih =>
      obtain ⟨k, v⟩ := m
      intro sorted h
      have hbehind : ∀ m ∈ sorted, m.1 < k := fun m hm =>
        (List.pairwise_append.mp h).2.2 m hm (k, v) List.mem_cons_self
      rw [List.append_cons] at h ⊢
      simp only [List.foldl_cons, insert_last v hbehind]
      exact ih _ h
  exact hfrom [] h

/-! ## The order of reading -/

/-- Two keys of which neither comes first are one. -/
theorem lt_or_lt_of_ne {k k' : String} (h : k ≠ k') : k < k' ∨ k' < k := by
  by_cases hlt : k < k'
  · exact .inl hlt
  · exact .inr (String.not_le.mp fun hle => h (String.le_antisymm hle (String.not_lt.mp hlt)))

/-- Two members with different keys may be put in either order. -/
theorem insert_comm {key key' : String} (h : key ≠ key') (value value' : α) (members : List (String × α)) :
    insert key value (insert key' value' members) = insert key' value' (insert key value members) := by
  induction members with
  | nil =>
    rcases lt_or_lt_of_ne h with hlt | hlt
    · simp [insert, h, h.symm, hlt, String.lt_asymm hlt]
    · simp [insert, h, h.symm, hlt, String.lt_asymm hlt]
  | cons m members ih =>
    obtain ⟨k, v⟩ := m
    by_cases hk : key = k
    · subst hk
      rcases lt_or_lt_of_ne h with hlt | hlt <;> simp [insert, h, h.symm, hlt, String.lt_asymm hlt]
    by_cases hk' : key' = k
    · subst hk'
      rcases lt_or_lt_of_ne h with hlt | hlt <;> simp [insert, h, h.symm, hlt, String.lt_asymm hlt]
    rcases lt_or_lt_of_ne hk with hlt | hlt <;> rcases lt_or_lt_of_ne hk' with hlt' | hlt'
    · rcases lt_or_lt_of_ne h with hfirst | hfirst <;>
        simp [insert, h, h.symm, hk, hk', hlt, hlt', hfirst, String.lt_asymm hfirst]
    · have hfirst := String.lt_trans hlt hlt'
      simp [insert, hk, hk', hlt, h.symm, String.lt_asymm hlt', String.lt_asymm hfirst]
    · have hfirst := String.lt_trans hlt' hlt
      simp [insert, hk, hk', hlt', h, String.lt_asymm hlt, String.lt_asymm hfirst]
    · simp [insert, hk, hk', String.lt_asymm hlt, String.lt_asymm hlt', ih]

/-- Members whose keys differ may be read in any order. -/
theorem ofList_perm {members members' : List (String × α)} (h : members.Perm members')
    (hkeys : (members.map Prod.fst).Nodup) : ofList members = ofList members' := by
  have hcomm : ∀ m ∈ members, ∀ m' ∈ members, ∀ sorted : List (String × α),
      insert m'.1 m'.2 (insert m.1 m.2 sorted) = insert m.1 m.2 (insert m'.1 m'.2 sorted) := by
    intro m hm m' hm' sorted
    by_cases hkey : m'.1 = m.1
    · rw [List.inj_on_of_nodup_map hkeys hm' hm hkey]
    · exact insert_comm hkey m'.2 m.2 sorted
  exact h.foldl_eq' hcomm []

/-! ## Values at a key -/

section
variable {β : Type} (key : String)

/-- The values that stand at a key, in the order in which they stand there. -/
def valuesAt (members : List (String × α)) : List α :=
  (members.filter fun m => m.1 = key).map Prod.snd

theorem valuesAt_cons (m : String × α) (members : List (String × α)) :
    valuesAt key (m :: members) = if m.1 = key then m.2 :: valuesAt key members else valuesAt key members := by
  rw [valuesAt, List.filter_cons]
  by_cases h : m.1 = key <;> simp [h, valuesAt]

/-- Of several values at a key the last one counts. -/
theorem lookup_ofList (members : List (String × α)) :
    (ofList members).lookup key = (valuesAt key members).getLast? := by
  have hfrom : ∀ sorted : List (String × α),
      (members.foldl (fun sorted m => insert m.1 m.2 sorted) sorted).lookup key =
        ((valuesAt key members).getLast?).or (sorted.lookup key) := by
    induction members with
    | nil => exact fun _ => rfl
    | cons m members ih =>
      intro sorted
      rw [List.foldl_cons, ih, lookup_insert, valuesAt_cons]
      by_cases h : m.1 = key
      · rw [if_pos h, if_pos h.symm, List.getLast?_cons]
        cases (valuesAt key members).getLast? <;> rfl
      · rw [if_neg h, if_neg (Ne.symm h)]
  exact (hfrom []).trans (Option.or_none ..)

/-- What stands at a key has an outcome each. -/
theorem mapM_valuesAt {f : α → Option β} {members : List (String × α)} {outcomes : List (String × β)}
    (h : (members.mapM fun m => (f m.2).map (m.1, ·)) = some outcomes) :
    (valuesAt key members).mapM f = some (valuesAt key outcomes) := by
  induction members generalizing outcomes with
  | nil =>
    cases h
    rfl
  | cons m members ih =>
    rw [List.mapM_cons] at h
    obtain ⟨outcome, houtcome, h⟩ := Option.bind_eq_some_iff.mp h
    obtain ⟨rest, hrest, h⟩ := Option.bind_eq_some_iff.mp h
    obtain ⟨b, hb, rfl⟩ := Option.map_eq_some_iff.mp houtcome
    cases h
    rw [valuesAt_cons, valuesAt_cons]
    by_cases hkey : m.1 = key
    · simp [hkey, hb, ih hrest]
    · simp [hkey, ih hrest]

end

end QueryGateway.Json.Members
