import QueryGateway.Gateway.Bench
import QueryGateway.Gateway.Numbering
import Mathlib.Data.Finset.Card
import Mathlib.Data.Finset.Insert
import Mathlib.Data.List.Induction
import Mathlib.Data.List.Nodup

/-!
# Numbered names are safe and differ

Those who draw a name stand in the order in which they were counted, and each is counted by its place in that order
(`Numbering.Ordered`). So as long as the count does not run over, no two of them get one name, in whatever order they
take their steps (`Numbering.run_distinct`), and every name they get may become a file's
(`RequestId.isSafeId_numbered`). One who is left alone draws what `Names.draw` gives (`Numbering.draws_alone`).
-/

namespace QueryGateway

namespace RequestId

/-- Different numbers make different names. -/
theorem numbered_injective : Function.Injective numbered := by
  intro n n' h
  have hdigits : Nat.toDigits 10 n = Nat.toDigits 10 n' := by
    have hlist := congrArg String.toList h
    simp only [numbered, String.toList_append, Nat.toList_repr] at hlist
    exact List.append_cancel_left hlist
  rw [← Nat.ofDigitChars_ten_toDigits (n := n), hdigits, Nat.ofDigitChars_ten_toDigits]

/-- A numbered name is safe: beside digits there are only the letters and the hyphen in front of them. -/
theorem isSafeId_numbered (n : Nat) : InputDirectory.isSafeId (numbered n) = true := by
  have hlist : (numbered n).toList = "req-".toList ++ Nat.toDigits 10 n := by
    rw [numbered, String.toList_append, Nat.toList_repr]
  have hfront : "req-".toList.all InputDirectory.isSafeChar = true := by decide
  have hdigit : ∀ c ∈ Nat.toDigits 10 n, InputDirectory.isSafeChar c = true := by
    intro c hc
    have hc' := Nat.isDigit_of_mem_toDigits (by decide) (by decide) hc
    simp [InputDirectory.isSafeChar, Char.isAlphanum, hc']
  rw [InputDirectory.isSafeId, Bool.and_eq_true, decide_eq_true_eq, List.all_eq_true, hlist]
  refine ⟨fun hempty => ?_, fun c hc => (List.mem_append.1 hc).elim (List.all_eq_true.1 hfront c) (hdigit c)⟩
  rw [hempty] at hlist
  cases hlist

end RequestId

namespace Numbering

/-! ## The order of those who were counted -/

/-- What somebody has who was counted at a place in the order: its count, or its name already. -/
def Placed (draw : Draw) (place : Nat) : Prop :=
  draw = .counted (UInt64.ofNat place) ∨ draw = .named (RequestId.numbered (UInt64.ofNat place + 1).toNat)

/-- Those who were counted stand in some order, each at one place, and everybody else waits. -/
structure Ordered (n : Numbering) (order : List Nat) : Prop where
  count : n.count = UInt64.ofNat order.length
  nodup : order.Nodup
  placed : ∀ place who, order[place]? = some who → Placed (n.draws who) place
  waiting : ∀ who, who ∉ order → n.draws who = .waiting

section
variable {n : Numbering} {order : List Nat} {who : Nat}

/-- Only one who waits does not stand in the order. -/
theorem Ordered.mem_iff (h : Ordered n order) : who ∈ order ↔ n.draws who ≠ .waiting := by
  refine ⟨fun hmem hwaiting => ?_, fun hdraw => by_contra fun hnew => hdraw (h.waiting who hnew)⟩
  obtain ⟨place, hplace⟩ := List.mem_iff_getElem?.1 hmem
  rcases h.placed place who hplace with hdraw | hdraw <;> rw [hwaiting] at hdraw <;> cases hdraw

/-- One who waits is counted, and stands at the end of the order. -/
theorem Ordered.step_waiting (h : Ordered n order) (hwaiting : n.draws who = .waiting) :
    Ordered (n.step who) (order ++ [who]) := by
  have hnew : who ∉ order := fun hmem => h.mem_iff.1 hmem hwaiting
  have hstep : n.step who =
      { count := n.count + 1, draws := fun i => if i = who then .counted n.count else n.draws i } := by
    rw [step, hwaiting]
  rw [hstep]
  refine ⟨by simp [h.count, UInt64.ofNat_add], ?_, fun place i hplace => ?_, fun i hi => ?_⟩
  · exact h.nodup.append (List.nodup_singleton who) (by simpa using hnew)
  · rw [List.getElem?_append] at hplace
    split at hplace
    case isTrue hearlier =>
      have hi : i ≠ who := by
        rintro rfl
        exact hnew (List.mem_of_getElem? hplace)
      simp only [if_neg hi]
      exact h.placed place i hplace
    case isFalse hpast =>
      obtain ⟨hlast, rfl⟩ : place - order.length = 0 ∧ i = who := by
        obtain ⟨hlt, heq⟩ := List.getElem?_eq_some_iff.1 hplace
        exact ⟨by simpa using hlt, by simpa using heq.symm⟩
      simp only [if_true]
      rw [h.count, show place = order.length by omega]
      exact .inl rfl
  · simp only [List.mem_append, List.mem_singleton, not_or] at hi
    simp only [if_neg hi.2]
    exact h.waiting i hi.1

/-- One who was counted gets its name, and the order stays as it is. -/
theorem Ordered.step_counted (h : Ordered n order) {before : UInt64} (hcounted : n.draws who = .counted before) :
    Ordered (n.step who) order := by
  have hstep : n.step who =
      { n with draws := fun i => if i = who then .named (RequestId.numbered (before + 1).toNat) else n.draws i } := by
    rw [step, hcounted]
  rw [hstep]
  refine ⟨h.count, h.nodup, fun place i hplace => ?_, fun i hi => ?_⟩
  · have hplaced := h.placed place i hplace
    by_cases hi : i = who
    · subst hi
      rw [hcounted] at hplaced
      rcases hplaced with hdraw | hdraw <;> cases hdraw
      exact .inr (if_pos rfl)
    · simpa only [if_neg hi] using hplaced
  · have hne : i ≠ who := by
      rintro rfl
      exact hi (h.mem_iff.2 (by simp [hcounted]))
    simp only [if_neg hne]
    exact h.waiting i hi

/-- Every step keeps an order, longer by the one who takes it if it waited. -/
theorem Ordered.step (h : Ordered n order) (who : Nat) : ∃ more, more ⊆ [who] ∧ Ordered (n.step who) (order ++ more) := by
  cases hdraw : n.draws who with
  | waiting => exact ⟨[who], List.Subset.refl _, h.step_waiting hdraw⟩
  | counted before => exact ⟨[], List.nil_subset _, by simpa using h.step_counted hdraw⟩
  | named id =>
    have hstep : n.step who = n := by rw [Numbering.step, hdraw]
    exact ⟨[], List.nil_subset _, by simpa [hstep] using h⟩

end

section
variable (steps : List Nat)

theorem run_concat (who : Nat) : run (steps ++ [who]) = (run steps).step who :=
  List.foldl_append

/-- After any steps those who were counted stand in an order; each of them took a step. -/
theorem ordered_run : ∃ order, Ordered (run steps) order ∧ order ⊆ steps := by
  induction steps using List.reverseRecOn with
  | nil => exact ⟨[], ⟨rfl, List.nodup_nil, nofun, fun _ _ => rfl⟩, List.Subset.refl _⟩
  | append_singleton steps who ih =>
    obtain ⟨order, hordered, hsub⟩ := ih
    obtain ⟨more, hmore, hordered'⟩ := hordered.step who
    rw [run_concat]
    exact ⟨order ++ more, hordered', List.append_subset.2
      ⟨List.Subset.trans hsub (List.subset_append_left _ _), List.Subset.trans hmore (List.subset_append_right _ _)⟩⟩

end

/-! ## Names -/

/-- The number at a place of an order that the count has room for. -/
theorem toNat_ofNat_add_one {place : Nat} (h : place + 1 < UInt64.size) : (UInt64.ofNat place + 1).toNat = place + 1 := by
  rw [← UInt64.ofNat_one, ← UInt64.ofNat_add, UInt64.toNat_ofNat_of_lt' h]

section
variable {steps : List Nat} {i j : Nat} {id : String}

/-- Where at most as many draw as the count has room for, everybody who has a name has that of its place in an order. -/
theorem exists_order (hfew : steps.toFinset.card < UInt64.size) : ∃ order : List Nat, ∀ i id,
    (run steps).draws i = .named id →
      ∃ place, order[place]? = some i ∧ place + 1 < UInt64.size ∧ id = RequestId.numbered (place + 1) := by
  obtain ⟨order, hordered, hsub⟩ := ordered_run steps
  have hlength : order.length < UInt64.size := by
    refine Nat.lt_of_le_of_lt ?_ hfew
    rw [← List.toFinset_card_of_nodup hordered.nodup]
    exact Finset.card_le_card fun i hi => List.mem_toFinset.2 (hsub (List.mem_toFinset.1 hi))
  refine ⟨order, fun i id hnamed => ?_⟩
  have hmem : i ∈ order := hordered.mem_iff.2 (by simp [hnamed])
  obtain ⟨place, hplace⟩ := List.mem_iff_getElem?.1 hmem
  have hlt : place + 1 < UInt64.size := by
    have := (List.getElem?_eq_some_iff.1 hplace).1
    omega
  rcases hordered.placed place i hplace with hdraw | hdraw <;> rw [hnamed] at hdraw
  · cases hdraw
  · rw [toNat_ofNat_add_one hlt] at hdraw
    exact ⟨place, hplace, hlt, Draw.named.inj hdraw⟩

/-- Every name that is drawn may become a file's. -/
theorem isSafeId_run (hfew : steps.toFinset.card < UInt64.size) (hi : (run steps).draws i = .named id) :
    InputDirectory.isSafeId id = true := by
  obtain ⟨order, horder⟩ := exists_order hfew
  obtain ⟨place, -, -, rfl⟩ := horder i id hi
  exact RequestId.isSafeId_numbered _

/-- No two of fewer than 2^64 draws get one name. -/
theorem run_distinct (hfew : steps.toFinset.card < UInt64.size) (hi : (run steps).draws i = .named id)
    (hj : (run steps).draws j = .named id) : i = j := by
  obtain ⟨order, horder⟩ := exists_order hfew
  obtain ⟨place, hplace, -, rfl⟩ := horder i id hi
  obtain ⟨place', hplace', -, hid⟩ := horder j _ hj
  obtain rfl : place = place' := Nat.succ.inj (RequestId.numbered_injective hid)
  exact Option.some.inj (hplace.symm.trans hplace')

end

/-- How far a draw has come. -/
def Draw.stage : Draw → Nat
  | .waiting => 0
  | .counted _ => 1
  | .named _ => 2

/-- Whoever takes a step comes one stage further, until it has its name; nobody else does. -/
theorem stage_step (n : Numbering) (who i : Nat) :
    Draw.stage ((n.step who).draws i) = if i = who then min 2 (Draw.stage (n.draws i) + 1) else Draw.stage (n.draws i) := by
  unfold Numbering.step
  by_cases hi : i = who
  · subst hi
    cases hdraw : n.draws i <;> simp [hdraw, Draw.stage]
  · cases hdraw : n.draws who <;> simp [hi]

/-- How far somebody has come is how many steps it took. -/
theorem stage_run (steps : List Nat) (i : Nat) : Draw.stage ((run steps).draws i) = min 2 (steps.count i) := by
  induction steps using List.reverseRecOn with
  | nil => rfl
  | append_singleton steps who ih =>
    rw [run_concat, stage_step, ih, List.count_append, List.count_singleton]
    by_cases hi : i = who
    · subst hi
      simp only [if_true, beq_self_eq_true]
      omega
    · have hne : (who == i) = false := by simpa using Ne.symm hi
      simp [hi, hne]

/-- Two steps are enough for a name. -/
theorem exists_named_of_count {steps : List Nat} {i : Nat} (h : 2 ≤ steps.count i) :
    ∃ id, (run steps).draws i = .named id := by
  have hstage := stage_run steps i
  rw [Nat.min_eq_left h] at hstage
  cases hdraw : (run steps).draws i with
  | waiting => rw [hdraw] at hstage; cases hstage
  | counted before => rw [hdraw] at hstage; cases hstage
  | named id => exact ⟨id, rfl⟩

/-- One who takes both steps at once draws what a supply of numbered names gives next, as long as the count has room. -/
theorem draws_alone {steps : List Nat} {i : Nat} (hwaiting : (run steps).draws i = .waiting)
    (hroom : (run steps).count.toNat + 1 < UInt64.size) :
    (run (steps ++ [i, i])).draws i = .named (Names.draw { drawn := (run steps).count.toNat }).1 := by
  have hnext : ((run steps).count + 1).toNat = (run steps).count.toNat + 1 := by
    rw [← UInt64.ofNat_toNat (x := (run steps).count), toNat_ofNat_add_one (by simpa using hroom), UInt64.ofNat_toNat]
  have hsteps : run (steps ++ [i, i]) = ((run steps).step i).step i := List.foldl_append
  rw [hsteps]
  simp [Numbering.step, hwaiting, Names.draw, hnext]

end Numbering
end QueryGateway
