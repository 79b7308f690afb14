import QueryGateway.Engine.Intake

/-!
# What an intake keeps

The reads of both channels, in the order in which they are taken, are one sequence of marked bytes: the arrival. An
intake under a limit keeps the first bytes of the arrival, as many as the limit, each on its channel, and is
overflowed exactly when the arrival is longer than the limit (`takeAll_eq_ofArrival`). How the arrival was cut into
reads leaves no trace.
-/

namespace QueryGateway

/-- A sequence of reads as bytes, each marked with its channel. -/
def arrival (reads : List (Channel × Bytes)) : List (Channel × UInt8) :=
  reads.flatMap fun (channel, chunk) => chunk.map (Prod.mk channel)

/-- The bytes of one channel. -/
def share (channel : Channel) (marked : List (Channel × UInt8)) : Bytes :=
  (marked.filter (·.1 = channel)).map Prod.snd

/-! ## Shares -/

theorem arrival_cons (channel : Channel) (chunk : Bytes) (reads : List (Channel × Bytes)) :
    arrival ((channel, chunk) :: reads) = chunk.map (Prod.mk channel) ++ arrival reads := by
  simp [arrival]

@[simp] theorem arrival_nil : arrival [] = [] := rfl

theorem arrival_append (a b : List (Channel × Bytes)) : arrival (a ++ b) = arrival a ++ arrival b :=
  List.flatMap_append

@[simp] theorem share_nil (channel : Channel) : share channel [] = [] := rfl

theorem share_append (channel : Channel) (a b : List (Channel × UInt8)) :
    share channel (a ++ b) = share channel a ++ share channel b := by
  simp [share]

/-- The share of one read: all of it on its own channel, nothing on the other. -/
theorem share_mark (channel c : Channel) (chunk : Bytes) :
    share channel (chunk.map (Prod.mk c)) = if c = channel then chunk else [] := by
  by_cases h : c = channel <;> simp [share, List.filter_map, Function.comp_def, h]

theorem share_mark_self (channel : Channel) (chunk : Bytes) : share channel (chunk.map (Prod.mk channel)) = chunk := by
  simp [share_mark]

theorem share_mark_other {channel c : Channel} (h : c ≠ channel) (chunk : Bytes) :
    share channel (chunk.map (Prod.mk c)) = [] := by
  simp [share_mark, h]

/-- What arrives on a channel is what its reads carry, one after the other. -/
theorem share_arrival (channel : Channel) (reads : List (Channel × Bytes)) :
    share channel (arrival reads) = (reads.filter (·.1 = channel)).flatMap Prod.snd := by
  induction reads with
  | nil => rfl
  | cons read rest ih =>
    obtain ⟨c, chunk⟩ := read
    rw [arrival_cons, share_append, ih, share_mark]
    by_cases hc : c = channel <;> simp [hc]

/-- Every byte belongs to one of the two channels. -/
theorem length_shares (marked : List (Channel × UInt8)) :
    (share .stdout marked).length + (share .stderr marked).length = marked.length := by
  induction marked with
  | nil => rfl
  | cons m marked ih =>
    obtain ⟨c, b⟩ := m
    cases c <;> simp [share] at ih ⊢ <;> omega

/-- The first bytes of an arrival give the first bytes of each channel. -/
theorem share_take_prefix (channel : Channel) (n : Nat) (marked : List (Channel × UInt8)) :
    share channel (marked.take n) <+: share channel marked :=
  ((List.take_prefix n marked).filter _).map _

/-! ## The intake of an arrival -/

namespace Intake

/-- The intake that kept the first bytes of an arrival, as many as the limit. -/
def ofArrival (limit : Nat) (marked : List (Channel × UInt8)) : Intake :=
  { stdout := share .stdout (marked.take limit),
    stderr := share .stderr (marked.take limit),
    overflowed := decide (limit < marked.length) }

theorem ofArrival_nil (limit : Nat) : ofArrival limit [] = {} := by
  simp [ofArrival, share]

theorem total_ofArrival (limit : Nat) (marked : List (Channel × UInt8)) :
    (ofArrival limit marked).total = min limit marked.length := by
  simp only [total, ofArrival, length_shares, List.length_take]

theorem kept_ofArrival (limit : Nat) (marked : List (Channel × UInt8)) (channel : Channel) :
    (ofArrival limit marked).kept channel = share channel (marked.take limit) := by
  cases channel <;> rfl

/-- What arrives past the limit changes nothing. -/
theorem ofArrival_append_of_lt {limit : Nat} {marked : List (Channel × UInt8)} (h : limit < marked.length)
    (more : List (Channel × UInt8)) : ofArrival limit (marked ++ more) = ofArrival limit marked := by
  have hlong : limit < (marked ++ more).length := by
    rw [List.length_append]
    omega
  simp only [ofArrival, List.take_append_of_le_length (Nat.le_of_lt h), h, hlong]

/-- One more read: what still fits below the limit joins what was kept. -/
theorem take_ofArrival (limit : Nat) (marked : List (Channel × UInt8)) (channel : Channel) (chunk : Bytes) :
    (ofArrival limit marked).take limit channel chunk =
      ofArrival limit (marked ++ chunk.map (Prod.mk channel)) := by
  have hroom : limit - (ofArrival limit marked).total = limit - marked.length := by
    rw [total_ofArrival]
    omega
  have hkept : ∀ c, share c ((marked ++ chunk.map (Prod.mk channel)).take limit) =
      share c (marked.take limit) ++ share c ((chunk.take (limit - marked.length)).map (Prod.mk channel)) := by
    intro c
    rw [List.take_append, share_append, List.map_take]
  have hflag : (decide (limit < marked.length) || decide (limit - marked.length < chunk.length)) =
      decide (limit < (marked ++ chunk.map (Prod.mk channel)).length) := by
    rw [← Bool.decide_or, decide_eq_decide, List.length_append, List.length_map]
    omega
  unfold take
  rw [hroom]
  cases channel <;>
    simp only [ofArrival, hkept, hflag, share_mark, reduceCtorEq, if_true, if_false, List.append_nil]

/-- An intake keeps the first bytes of what arrives, as many as the limit, and no other. -/
theorem takeAll_ofArrival (limit : Nat) (reads : List (Channel × Bytes)) :
    ∀ marked, (ofArrival limit marked).takeAll limit reads = ofArrival limit (marked ++ arrival reads) := by
  induction reads with
  | nil => intro marked; simp [takeAll, arrival]
  | cons read reads ih =>
    intro marked
    obtain ⟨channel, chunk⟩ := read
    have hread : (ofArrival limit marked).takeAll limit ((channel, chunk) :: reads) =
        ((ofArrival limit marked).take limit channel chunk).takeAll limit reads := rfl
    rw [hread, take_ofArrival, ih, arrival_cons, List.append_assoc]

/-- An intake under a limit is the intake of its arrival. -/
theorem takeAll_eq_ofArrival (limit : Nat) (reads : List (Channel × Bytes)) :
    takeAll limit {} reads = ofArrival limit (arrival reads) := by
  rw [← ofArrival_nil limit, takeAll_ofArrival, List.nil_append]

end Intake

end QueryGateway
