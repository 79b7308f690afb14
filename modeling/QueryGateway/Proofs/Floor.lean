import QueryGateway.Gateway.Lifecycle

/-!
# Many requests at once

Requests that share one outside take their steps in any order: a floor holds them, and a move lets a request arrive,
take one step, or be dropped while its engine runs. Each request keeps a list of what it did to the outside, written
down by the ports themselves (`Ports.recorded`); the requests behave as they do without it (`advance_recorded`).
-/

namespace QueryGateway

/-! ## What a request does -/

/-- What a request does to the outside, and the end of its run. -/
inductive Deed where
  /-- A name was drawn. -/
  | drew (id : String)
  /-- An input was asked for and not provided. -/
  | refusedInput (id document : String) (fault : StoreFault)
  /-- An input was provided. -/
  | acquired (id document : String) (lease : Lease)
  /-- A run was begun; `run` says how it will end. -/
  | invoked (call : Call) (run : Run)
  /-- The run has ended. -/
  | ended
  /-- The hold on the input was given back. -/
  | released (lease : Lease)
  /-- The hold on the input was dropped. -/
  | discarded (lease : Lease)
deriving DecidableEq, Repr

/-- The same ports, over an outside that comes with a list of what was done through them. -/
def Ports.recorded {σ : Type} (ports : Ports σ) : Ports (σ × List Deed) where
  drawId w :=
    let (id, s) := ports.drawId w.1
    (id, (s, w.2 ++ [.drew id]))
  acquire id document w :=
    match ports.acquire id document w.1 with
    | (.error fault, s) => (.error fault, (s, w.2 ++ [.refusedInput id document fault]))
    | (.ok lease, s) => (.ok lease, (s, w.2 ++ [.acquired id document lease]))
  release lease w := (ports.release lease w.1, w.2 ++ [.released lease])
  discard lease w := (ports.discard lease w.1, w.2 ++ [.discarded lease])
  available w program := ports.available w.1 program
  invoke call w :=
    let (run, s) := ports.invoke call w.1
    (run, (s, w.2 ++ [.invoked call run]))

namespace Stage

/-- A step does the same with and without the record. -/
theorem advance_recorded {σ : Type} (ports : Ports σ) (engines : Engines) (stage : Stage) (w : σ × List Deed) :
    stage.advance ports engines w.1 =
      ((stage.advance ports.recorded engines w).1, (stage.advance ports.recorded engines w).2.1) := by
  cases stage with
  | submitted engine submission =>
    have hsame : ports.recorded.available w engines.visualization = ports.available w.1 engines.visualization := rfl
    simp only [advance, hsame]
    cases submission.validate with
    | error refusal => rfl
    | ok query =>
      simp only
      split <;> rfl
  | admitted engine query => rfl
  | named engine query id =>
    simp only [advance, Ports.recorded]
    rcases ports.acquire id query.document w.1 with ⟨fault | lease, s⟩ <;> rfl
  | holding engine query lease => rfl
  | running engine lease run =>
    simp only [advance]
    split <;> rfl
  | settled lease outcome => rfl
  | finished outcome => rfl

/-- The end of a run, where a step is one. -/
def ending : Stage → Stage → List Deed
  | running _ _ _, settled _ _ => [.ended]
  | _, _ => []

end Stage

/-- A request on the floor. -/
structure Request where
  engine : Engine
  submission : Submission
  stage : Stage
  deeds : List Deed := []
  /-- Whether the visualization engine was there when the request was looked at. -/
  found : Bool := true

namespace Request

variable {σ : Type}

/-- A request that has just been sent. -/
def sent (engine : Engine) (submission : Submission) : Request :=
  { engine := engine, submission := submission, stage := .submitted engine submission }

/-- One step of a request. -/
def advance (ports : Ports σ) (engines : Engines) (r : Request) (s : σ) : Request × σ :=
  let (stage, (s', deeds)) := r.stage.advance ports.recorded engines (s, r.deeds)
  let found := match r.stage with
    | .submitted _ _ => ports.available s engines.visualization
    | _ => r.found
  ({ r with stage := stage, deeds := deeds ++ r.stage.ending stage, found := found }, s')

/-- A request is dropped, if its engine is running. -/
def drop (ports : Ports σ) (r : Request) (s : σ) : Request × σ :=
  match r.stage with
  | .running _ _ _ =>
    let (stage, (s, deeds)) := r.stage.giveUp ports.recorded (s, r.deeds)
    ({ r with stage := stage, deeds := deeds }, s)
  | _ => (r, s)

end Request

/-! ## The floor -/

/-- What may happen next. -/
inductive Move where
  /-- A request is sent. -/
  | arrive (engine : Engine) (submission : Submission)
  /-- A request takes a step. -/
  | advance (i : Nat)
  /-- A request is dropped. -/
  | drop (i : Nat)

/-- The outside and the requests, in the order in which they came. -/
structure Floor (σ : Type) where
  world : σ
  requests : List Request := []

namespace Floor

variable {σ : Type}

/-- Lets one request act. -/
def act (f : Floor σ) (i : Nat) (step : Request → σ → Request × σ) : Floor σ :=
  match f.requests[i]? with
  | none => f
  | some r => { world := (step r f.world).2, requests := f.requests.set i (step r f.world).1 }

/-- One move. -/
def move (ports : Ports σ) (engines : Engines) (f : Floor σ) : Move → Floor σ
  | .arrive engine submission => { f with requests := f.requests ++ [.sent engine submission] }
  | .advance i => f.act i (Request.advance ports engines)
  | .drop i => f.act i (Request.drop ports)

/-- A sequence of moves. -/
def run (ports : Ports σ) (engines : Engines) (f : Floor σ) (moves : List Move) : Floor σ :=
  moves.foldl (move ports engines) f

/-- Moves made in two parts. -/
theorem run_append (ports : Ports σ) (engines : Engines) (f : Floor σ) (moves moves' : List Move) :
    run ports engines f (moves ++ moves') = run ports engines (run ports engines f moves) moves' :=
  List.foldl_append

/-- What holds at first and is kept by every arrival and by every act of a request holds after any moves. -/
theorem run_induction {ports : Ports σ} {engines : Engines} {I : Floor σ → Prop}
    (harrive : ∀ f engine submission, I f → I { f with requests := f.requests ++ [.sent engine submission] })
    (hadvance : ∀ f i r, f.requests[i]? = some r → I f →
      I { world := (r.advance ports engines f.world).2,
          requests := f.requests.set i (r.advance ports engines f.world).1 })
    (hdrop : ∀ f i r, f.requests[i]? = some r → I f →
      I { world := (r.drop ports f.world).2, requests := f.requests.set i (r.drop ports f.world).1 })
    (moves : List Move) {f : Floor σ} (h : I f) : I (run ports engines f moves) := by
  induction moves generalizing f with
  | nil => exact h
  | cons m moves ih =>
    refine ih ?_
    cases m with
    | arrive engine submission => exact harrive f engine submission h
    | advance i =>
      simp only [move, act]
      split
      · exact h
      · rename_i r hr
        exact hadvance f i r hr h
    | drop i =>
      simp only [move, act]
      split
      · exact h
      · rename_i r hr
        exact hdrop f i r hr h

/-- What all requests have and a new one has, all have after it came. -/
theorem forall_arrived {P : Request → Prop} {requests : List Request} (h : ∀ r ∈ requests, P r) {r' : Request}
    (h' : P r') : ∀ r ∈ requests ++ [r'], P r :=
  List.forall_mem_append.2 ⟨h, List.forall_mem_singleton.2 h'⟩

/-- What all requests have and one has after its act, all have after that act. -/
theorem forall_set {P : Request → Prop} {requests : List Request} (h : ∀ r ∈ requests, P r) (i : Nat) {r' : Request}
    (h' : P r') : ∀ r ∈ requests.set i r', P r := by
  intro r hr
  rcases List.mem_or_eq_of_mem_set hr with hr | rfl
  · exact h r hr
  · exact h'

/-- What every new request has and no act of a request takes from it, every request has after any moves. -/
theorem forall_requests {ports : Ports σ} {engines : Engines} {P : Request → Prop}
    (hsent : ∀ engine submission, P (.sent engine submission))
    (hadvance : ∀ r s, P r → P (r.advance ports engines s).1) (hdrop : ∀ r s, P r → P (r.drop ports s).1)
    (moves : List Move) {f : Floor σ} (h : ∀ r ∈ f.requests, P r) :
    ∀ r ∈ (run ports engines f moves).requests, P r := by
  refine run_induction (I := fun f => ∀ r ∈ f.requests, P r) ?_ ?_ ?_ moves h
  · intro f engine submission hf
    exact forall_arrived hf (hsent engine submission)
  · intro f i r hr hf
    exact forall_set hf i (hadvance r _ (hf r (List.mem_of_getElem? hr)))
  · intro f i r hr hf
    exact forall_set hf i (hdrop r _ (hf r (List.mem_of_getElem? hr)))

end Floor

end QueryGateway
