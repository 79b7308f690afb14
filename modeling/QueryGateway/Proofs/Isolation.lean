import QueryGateway.Proofs.Decoding
import QueryGateway.Proofs.Holdings
import QueryGateway.Proofs.Lifecycle

/-!
# Inputs of requests that run at once

Where inputs are files of a directory (`Ports.KeepInputs`), requests that take their steps in any order never come
into each other's way: at every moment the files are those that were there at first and one for each request that
holds its input, each with that request's document in it (`Isolated`, `inputs_isolated`). An act of a request is an
act of a holder (`advance_handles`, `drop_handles`), and those keep everybody's files (`Kept.handles`). One that is
dropped holds nothing any more (`Floor.not_holds_dropped`).
-/

namespace QueryGateway

open QueryGateway.Tree (AddsDirectories)

/-! ## Inputs that are files -/

/-- The inputs are files of a directory. `tree` shows that directory and the way to it; nothing but the acts of the
requests on their inputs changes what it shows. The operating system may refuse whatever it likes while an input is
made, but not the removal of a file that is there. -/
structure Ports.KeepInputs {σ : Type} (ports : Ports σ) (Ready : σ → Prop) (tree : σ → Tree) (cwd : Place)
    (d : InputDirectory) : Prop where
  drawId : ∀ {s}, Ready s → Ready (ports.drawId s).2 ∧ tree (ports.drawId s).2 = tree s
  acquire : ∀ {s} (id document : String), Ready s → Ready (ports.acquire id document s).2 ∧
    ∃ trouble, d.acquire cwd trouble id document (tree s) =
      ((ports.acquire id document s).1, tree (ports.acquire id document s).2)
  release : ∀ {s} (lease : Lease), Ready s → Ready (ports.release lease s) ∧
    tree (ports.release lease s) = (InputDirectory.release cwd lease (tree s)).2
  discard : ∀ {s} (lease : Lease), Ready s → Ready (ports.discard lease s) ∧
    tree (ports.discard lease s) = lease.drop cwd (tree s)
  invoke : ∀ {s} (call : Call), Ready s → Ready (ports.invoke call s).2 ∧ tree (ports.invoke call s).2 = tree s

/-- A bench with a directory keeps its inputs there. -/
theorem Script.keepInputs (d : InputDirectory) :
    Script.ports.KeepInputs (fun b => b.store = .directory d) Bench.tree [] d where
  drawId h := ⟨h, rfl⟩
  acquire id document h := by
    simp only [Script.ports, Bench.acquire, h]
    exact ⟨trivial, {}, rfl⟩
  release lease h := by
    simp only [Script.ports, Bench.release, h]
    exact ⟨trivial, trivial⟩
  discard lease h := ⟨h, rfl⟩
  invoke call h := ⟨h, rfl⟩

namespace Request

/-! ## What a request holds -/

/-- A request holds an input: it acquired it, and has neither released nor dropped it. -/
def Holds (r : Request) (document : String) (lease : Lease) : Prop :=
  (∃ id, .acquired id document lease ∈ r.deeds) ∧ .released lease ∉ r.deeds ∧ .discarded lease ∉ r.deeds

/-- The input that a request holds, told from where it stands. -/
def held? (r : Request) : Option (String × Lease) :=
  match r.stage.lease?, r.submission.document with
  | some lease, some document => some (document, lease)
  | _, _ => none

end Request

/-- The document of a query is the one that was sent. -/
theorem Submission.document_of_validate {submission : Submission} {query : Query}
    (h : submission.validate = .ok query) : submission.document = some query.document := by
  unfold validate at h
  split at h
  · rename_i document expression hdocument _
    split at h
    · cases h
    split at h
    · cases h
    rw [hdocument, ← Except.ok.inj h]
  · cases h

namespace Request

variable {σ : Type} {ports : Ports σ} {engines : Engines}

/-- The input of a request that holds a lease. -/
theorem held?_eq_some {r : Request} {lease : Lease} {document : String} (hlease : r.stage.lease? = some lease)
    (hdocument : r.submission.document = some document) : r.held? = some (document, lease) := by
  simp only [held?, hlease, hdocument]

/-- What a request holds, told from its deeds and from where it stands. -/
theorem holds_iff {r : Request} (h : r.OnTrail engines) (document : String) (lease : Lease) :
    r.Holds document lease ↔ r.held? = some (document, lease) := by
  obtain ⟨engine, submission, stage, deeds, found⟩ := r
  change Trail engines engine submission found deeds stage at h
  cases h with
  | submitted _ => simp [Holds, held?, Stage.lease?]
  | admitted query hfit => simp [Holds, held?, Stage.lease?]
  | named query id hfit => simp [Holds, held?, Stage.lease?]
  | holding query id lease hfit =>
    simp [Holds, held?, Stage.lease?, Submission.document_of_validate hfit.1, eq_comm]
  | running query id lease run hfit =>
    simp [Holds, held?, Stage.lease?, Submission.document_of_validate hfit.1, eq_comm]
  | settled query id lease run outcome hfit hrun =>
    simp [Holds, held?, Stage.lease?, Submission.document_of_validate hfit.1, eq_comm]
  | finished deeds outcome hword =>
    cases hword <;> simp [Holds, held?, Stage.lease?]

/-- What a request holds is its own document. -/
theorem document_of_holds {r : Request} (h : r.OnTrail engines) {document : String} {lease : Lease}
    (hholds : r.Holds document lease) : r.submission.document = some document := by
  have hheld := (holds_iff h document lease).1 hholds
  unfold held? at hheld
  split at hheld
  · rename_i hdocument
    obtain ⟨rfl, rfl⟩ := Prod.mk.inj (Option.some.inj hheld)
    exact hdocument
  · nomatch hheld

/-- A request that is over holds nothing. -/
theorem not_holds_of_finished {r : Request} (h : r.OnTrail engines) {outcome : Outcome}
    (hdone : r.stage = .finished outcome) (document : String) (lease : Lease) : ¬r.Holds document lease := by
  rw [holds_iff h, held?, hdone]
  nofun

/-- One whose engine runs holds its input. -/
theorem exists_holds_of_running {r : Request} (h : r.OnTrail engines) {engine : Engine} {lease : Lease} {run : Run}
    (hruns : r.stage = .running engine lease run) : ∃ document, r.Holds document lease := by
  have hlease : r.stage.lease? = some lease := by rw [hruns, Stage.lease?]
  have hdocument : ∃ document, r.submission.document = some document := by
    obtain ⟨engine', submission, stage, deeds, found⟩ := r
    change Trail engines engine' submission found deeds stage at h
    cases h with
    | running query id lease run hfit => exact ⟨_, Submission.document_of_validate hfit.1⟩
    | _ => cases hruns
  obtain ⟨document, hdocument⟩ := hdocument
  exact ⟨document, (holds_iff h document lease).2 (held?_eq_some hlease hdocument)⟩

/-- A request that holds nothing, or the same as before, did nothing to the files. -/
theorem handles_still {d : InputDirectory} {cwd : Place} {t t' : Tree} {input? input?' : Option (String × Lease)}
    (ht : t' = t) (hinput : input?' = input?) : Handles d cwd t input? t' input?' := by
  rw [ht, hinput]
  exact .untouched _ _ (.refl t)

variable {Ready : σ → Prop} {tree : σ → Tree} {cwd : Place} {d : InputDirectory}

/-- A step of a request is an act of a holder. -/
theorem advance_handles (hports : ports.KeepInputs Ready tree cwd d) {r : Request} (h : r.OnTrail engines) {s : σ}
    (hready : Ready s) : Ready (r.advance ports engines s).2 ∧
      Handles d cwd (tree s) r.held? (tree (r.advance ports engines s).2) (r.advance ports engines s).1.held? := by
  obtain ⟨engine, submission, stage, deeds, found⟩ := r
  change Trail engines engine submission found deeds stage at h
  cases h with
  | submitted _ =>
    simp only [advance, Stage.advance]
    split
    · exact ⟨hready, handles_still rfl rfl⟩
    · split
      · exact ⟨hready, handles_still rfl rfl⟩
      · exact ⟨hready, handles_still rfl rfl⟩
  | admitted query hfit =>
    obtain ⟨hready', htree⟩ := hports.drawId hready
    exact ⟨hready', handles_still htree rfl⟩
  | named query id hfit =>
    obtain ⟨hready', trouble, hacquire⟩ := hports.acquire id query.document hready
    have hacquires := d.acquire_cases cwd trouble id query.document (tree s)
    rw [hacquire] at hacquires
    simp only [advance, Stage.advance, Ports.recorded]
    generalize ports.acquire id query.document s = outcome at hready' hacquires
    obtain ⟨fault | lease, s'⟩ := outcome
    · cases hacquires with
      | failed _ _ hadds => exact ⟨hready', .untouched _ _ hadds⟩
    · refine ⟨hready', ?_⟩
      change Handles d cwd (tree s) none _ _
      rw [held?_eq_some rfl (Submission.document_of_validate hfit.1)]
      exact .acquired id query.document lease _ hacquires
  | holding query id lease hfit =>
    obtain ⟨hready', htree⟩ := hports.invoke (engines.call engine query.expression lease.path) hready
    exact ⟨hready', handles_still htree rfl⟩
  | running query id lease run hfit =>
    simp only [advance, Stage.advance]
    split
    · exact ⟨hready, handles_still rfl rfl⟩
    · exact ⟨hready, handles_still rfl rfl⟩
  | settled query id lease run outcome hfit hrun =>
    obtain ⟨hready', htree⟩ := hports.release lease hready
    refine ⟨hready', ?_⟩
    rw [held?_eq_some rfl (Submission.document_of_validate hfit.1)]
    simp only [advance, Stage.advance, Ports.recorded, htree]
    exact .released query.document lease
  | finished deeds outcome hword => exact ⟨hready, handles_still rfl rfl⟩

/-- A drop of a request is an act of a holder. -/
theorem drop_handles (hports : ports.KeepInputs Ready tree cwd d) {r : Request} (h : r.OnTrail engines) {s : σ}
    (hready : Ready s) : Ready (r.drop ports s).2 ∧
      Handles d cwd (tree s) r.held? (tree (r.drop ports s).2) (r.drop ports s).1.held? := by
  obtain ⟨engine, submission, stage, deeds, found⟩ := r
  change Trail engines engine submission found deeds stage at h
  cases h with
  | running query id lease run hfit =>
    obtain ⟨hready', htree⟩ := hports.discard lease hready
    refine ⟨hready', ?_⟩
    rw [held?_eq_some rfl (Submission.document_of_validate hfit.1)]
    simp only [drop, Stage.giveUp, Stage.lease?, Ports.recorded, htree]
    exact .dropped query.document lease
  | _ => exact ⟨hready, handles_still rfl rfl⟩

/-! ## The names of inputs -/

/-- The inputs of a request were acquired under safe names and lie in the directory. -/
def Named (d : InputDirectory) (r : Request) : Prop :=
  ∀ id document lease, .acquired id document lease ∈ r.deeds →
    InputDirectory.isSafeId id = true ∧ lease.id = id ∧ lease.path = d.pathFor id

/-- What a step adds to the inputs that a request acquired is what the ports provided. -/
theorem acquired_of_advance {r : Request} {s : σ} {id document : String} {lease : Lease}
    (h : .acquired id document lease ∈ (r.advance ports engines s).1.deeds) :
    .acquired id document lease ∈ r.deeds ∨ (ports.acquire id document s).1 = .ok lease := by
  obtain ⟨engine, submission, stage, deeds, found⟩ := r
  cases stage with
  | submitted engine' submission' =>
    refine .inl ?_
    simp only [advance, Stage.advance] at h
    split at h
    · simpa [Stage.ending] using h
    · split at h <;> simpa [Stage.ending] using h
  | named engine' query id' =>
    simp only [advance, Stage.advance, Ports.recorded] at h
    rcases hacquire : ports.acquire id' query.document s with ⟨fault | lease', s'⟩
    · exact .inl (by simpa [hacquire, Stage.ending] using h)
    · have hcases : .acquired id document lease ∈ deeds ∨ id = id' ∧ document = query.document ∧ lease = lease' := by
        simpa [hacquire, Stage.ending] using h
      rcases hcases with h | ⟨rfl, rfl, rfl⟩
      · exact .inl h
      · exact .inr (by rw [hacquire])
  | running engine' lease' run =>
    refine .inl ?_
    simp only [advance, Stage.advance] at h
    split at h <;> simpa [Stage.ending] using h
  | _ => exact .inl (by simpa [advance, Stage.advance, Ports.recorded, Stage.ending] using h)

/-- A drop adds nothing to the inputs that a request acquired. -/
theorem acquired_of_drop {r : Request} {s : σ} {id document : String} {lease : Lease}
    (h : .acquired id document lease ∈ (r.drop ports s).1.deeds) : .acquired id document lease ∈ r.deeds := by
  obtain ⟨engine, submission, stage, deeds, found⟩ := r
  cases stage with
  | running engine' lease' run => simpa [drop, Stage.giveUp, Stage.lease?, Ports.recorded] using h
  | _ => exact h

theorem named_sent (engine : Engine) (submission : Submission) : (sent engine submission).Named d := by
  intro id document lease h
  nomatch h

theorem named_advance (hports : ports.KeepInputs Ready tree cwd d) {r : Request} (h : r.Named d) {s : σ}
    (hready : Ready s) : (r.advance ports engines s).1.Named d := by
  intro id document lease hacquired
  rcases acquired_of_advance hacquired with hold | hnew
  · exact h id document lease hold
  · obtain ⟨-, trouble, hacquire⟩ := hports.acquire id document hready
    have hacquires := d.acquire_cases cwd trouble id document (tree s)
    rw [hacquire, hnew] at hacquires
    cases hacquires with
    | provided _ _ _ hsafe => exact ⟨hsafe, rfl, rfl⟩

theorem named_drop {r : Request} (h : r.Named d) {s : σ} : (r.drop ports s).1.Named d :=
  fun id document lease hacquired => h id document lease (acquired_of_drop hacquired)

/-! ## Facts that the trail tells -/

/-- The last argument of a request's call is the path of its input. -/
theorem argument_of_onTrail {r : Request} (h : r.OnTrail engines) {id document : String} {lease : Lease} {call : Call}
    {run : Run} (hacquired : .acquired id document lease ∈ r.deeds) (hinvoked : .invoked call run ∈ r.deeds) :
    call.arguments.getLast? = some lease.path.display := by
  have hlast : ∀ engine expression, (engines.call engine expression lease.path).arguments.getLast? =
      some lease.path.display := by
    intro engine expression
    cases engine <;> rfl
  obtain ⟨engine, submission, stage, deeds, found⟩ := r
  change Trail engines engine submission found deeds stage at h
  cases h with
  | finished deeds outcome hword => cases hword <;> simp_all
  | _ => simp_all

/-- A request whose input is refused does nothing more. -/
theorem refused_of_onTrail {r : Request} (h : r.OnTrail engines) {id document : String} {fault : StoreFault}
    (hrefused : .refusedInput id document fault ∈ r.deeds) :
    r.stage = .finished (.failed (.store fault)) ∧ r.deeds = [.drew id, .refusedInput id document fault] := by
  obtain ⟨engine, submission, stage, deeds, found⟩ := r
  change Trail engines engine submission found deeds stage at h
  cases h with
  | finished deeds outcome hword => cases hword <;> simp_all
  | _ => simp at hrefused

end Request

/-! ## The floor -/

/-- The files are kept, and what the requests hold is what their stages say. -/
structure Floor.Orderly {σ : Type} (Ready : σ → Prop) (tree : σ → Tree) (cwd : Place) (d : InputDirectory)
    (engines : Engines) (initial : Tree) (f : Floor σ) : Prop where
  ready : Ready f.world
  kept : ∃ held, Kept cwd initial (tree f.world) held ∧
    ∀ i, (held i).map Holding.input = f.requests[i]?.bind Request.held?
  trail : ∀ r ∈ f.requests, r.OnTrail engines
  named : ∀ r ∈ f.requests, r.Named d

namespace Floor

variable {σ : Type} {Ready : σ → Prop} {tree : σ → Tree} {cwd : Place} {d : InputDirectory} {engines : Engines}
  {initial : Tree} {f : Floor σ}

/-- A request that arrives holds nothing. -/
theorem orderly_arrive (h : f.Orderly Ready tree cwd d engines initial) (engine : Engine) (submission : Submission) :
    Orderly Ready tree cwd d engines initial { f with requests := f.requests ++ [.sent engine submission] } := by
  obtain ⟨held, hkept, hheld⟩ := h.kept
  refine ⟨h.ready, ⟨held, hkept, ?_⟩, forall_arrived h.trail (Request.trail_sent engines engine submission),
    forall_arrived h.named (Request.named_sent engine submission)⟩
  intro i
  rw [hheld, List.getElem?_append]
  split
  · rfl
  · rename_i hi
    rw [List.getElem?_eq_none (by omega)]
    cases i - f.requests.length <;> rfl

/-- A request that acts like a holder keeps the order. -/
theorem orderly_act (h : f.Orderly Ready tree cwd d engines initial) {i : Nat} {r r' : Request} {s : σ}
    (hr : f.requests[i]? = some r) (hready : Ready s)
    (hhandles : Handles d cwd (tree f.world) r.held? (tree s) r'.held?) (htrail : r'.OnTrail engines)
    (hnamed : r'.Named d) :
    Orderly Ready tree cwd d engines initial { world := s, requests := f.requests.set i r' } := by
  obtain ⟨held, hkept, hheld⟩ := h.kept
  obtain ⟨x?, hkept', hx⟩ := hkept.handles i (by rw [hheld, hr]; rfl) hhandles
  refine ⟨hready, ⟨_, hkept', ?_⟩, forall_set h.trail i htrail, forall_set h.named i hnamed⟩
  intro j
  by_cases hj : j = i
  · rw [hj, Function.update_self, hx, List.getElem?_set_self (List.getElem?_eq_some_iff.1 hr).1]
    rfl
  · rw [Function.update_of_ne hj, hheld, List.getElem?_set_ne (Ne.symm hj)]

/-- After any moves the floor is in order. -/
theorem orderly_run {ports : Ports σ} (hports : ports.KeepInputs Ready tree cwd d) {world : σ} (hready : Ready world)
    (moves : List Move) :
    (run ports engines { world := world } moves).Orderly Ready tree cwd d engines (tree world) := by
  refine run_induction (I := Orderly Ready tree cwd d engines (tree world)) ?_ ?_ ?_ moves ?_
  · intro f engine submission h
    exact orderly_arrive h engine submission
  · intro f i r hr h
    have hmem := List.mem_of_getElem? hr
    obtain ⟨hready', hhandles⟩ := Request.advance_handles hports (h.trail r hmem) h.ready
    exact orderly_act h hr hready' hhandles (Request.trail_advance ports engines r _ (h.trail r hmem))
      (Request.named_advance hports (h.named r hmem) h.ready)
  · intro f i r hr h
    have hmem := List.mem_of_getElem? hr
    obtain ⟨hready', hhandles⟩ := Request.drop_handles hports (h.trail r hmem) h.ready
    exact orderly_act h hr hready' hhandles (Request.trail_drop ports engines r _ (h.trail r hmem))
      (Request.named_drop (h.named r hmem))
  · exact ⟨hready, ⟨_, Kept.start, fun _ => rfl⟩, by simp, by simp⟩

/-- A request that is dropped while its engine runs, and so while it holds its input, is over and holds nothing. -/
theorem not_holds_dropped (ports : Ports σ) (engines : Engines) (world : σ) (moves : List Move) {i : Nat} {r : Request}
    (hr : (run ports engines { world := world } moves).requests[i]? = some r) {engine : Engine} {lease : Lease}
    {course : Run} (hruns : r.stage = .running engine lease course) :
    (∃ document, r.Holds document lease) ∧
      ∃ r', (run ports engines { world := world } (moves ++ [.drop i])).requests[i]? = some r' ∧
        r'.stage = .finished .cancelled ∧ ∀ document lease', ¬r'.Holds document lease' := by
  have hdropped : (run ports engines { world := world } (moves ++ [.drop i])).requests[i]? =
      some (r.drop ports (run ports engines { world := world } moves).world).1 := by
    rw [run_append]
    simp only [run, List.foldl_cons, List.foldl_nil, move, act]
    simp only [run] at hr
    rw [hr]
    exact List.getElem?_set_self (List.getElem?_eq_some_iff.1 hr).1
  have hdone : (r.drop ports (run ports engines { world := world } moves).world).1.stage = .finished .cancelled := by
    rw [Request.drop, hruns]
    rfl
  have htrail := onTrail_run ports engines world moves r (List.mem_of_getElem? hr)
  have htrail' := onTrail_run ports engines world (moves ++ [.drop i]) _ (List.mem_of_getElem? hdropped)
  exact ⟨Request.exists_holds_of_running htrail hruns, _, hdropped, hdone, Request.not_holds_of_finished htrail' hdone⟩

/-- What a request holds is held, and whatever is held a request holds. -/
theorem Orderly.holdings (h : f.Orderly Ready tree cwd d engines initial) :
    ∃ held, Kept cwd initial (tree f.world) held ∧
      (∀ i r document lease, f.requests[i]? = some r → r.Holds document lease →
        ∃ x, held i = some x ∧ x.document = document ∧ x.lease = lease) ∧
      ∀ i x, held i = some x → ∃ r ∈ f.requests, r.Holds x.document x.lease := by
  obtain ⟨held, hkept, hheld⟩ := h.kept
  refine ⟨held, hkept, ?_, ?_⟩
  · intro i r document lease hr hholds
    have hinput := hheld i
    have htrail := h.trail r (List.mem_of_getElem? hr)
    rw [hr, Option.bind_some, (Request.holds_iff htrail document lease).1 hholds] at hinput
    obtain ⟨x, hx, heq⟩ := Option.map_eq_some_iff.1 hinput
    exact ⟨x, hx, congrArg Prod.fst heq, congrArg Prod.snd heq⟩
  · intro i x hx
    have hinput := hheld i
    rw [hx, Option.map_some] at hinput
    obtain ⟨r, hr, hinput⟩ := Option.bind_eq_some_iff.1 hinput.symm
    have hmem := List.mem_of_getElem? hr
    exact ⟨r, hmem, (Request.holds_iff (h.trail r hmem) _ _).2 hinput⟩

end Floor

/-! ## Isolation -/

/-- Requests that share a directory of inputs do not come into each other's way. -/
structure Isolated (cwd : Place) (d : InputDirectory) (initial now : Tree) (requests : List Request) : Prop where
  /-- Beside directories there is what was there at first, and the files of the inputs that requests hold. -/
  files : ∀ place node, node ≠ .directory → (now.at? place = some node ↔
    initial.at? place = some node ∨ ∃ r ∈ requests, ∃ document lease, r.Holds document lease ∧
      now.locate cwd false lease.path = .ok place ∧ node = .file (Text.encode document) Tree.fileMode)
  /-- No directory goes away. -/
  directories : ∀ place, initial.at? place = some .directory → now.at? place = some .directory
  /-- No two requests hold inputs with the same path. -/
  apart : ∀ (i j : Nat) (r r' : Request) document document' (lease lease' : Lease), requests[i]? = some r →
    requests[j]? = some r' → r.Holds document lease → r'.Holds document' lease' → lease.path = lease'.path → i = j
  /-- What a request holds is its own document; the file is a new one, and reading it gives that document's bytes. -/
  content : ∀ r ∈ requests, ∀ document lease, r.Holds document lease → r.submission.document = some document ∧
    (∃ place, now.locate cwd false lease.path = .ok place ∧ initial.at? place = none) ∧
      now.read cwd lease.path = .ok (Text.encode document)
  /-- The path of an input lies in the directory, under a safe name. -/
  named : ∀ r ∈ requests, r.Named d
  /-- The last argument of a request's call is the path of its input. -/
  argument : ∀ r ∈ requests, ∀ id document lease call run, .acquired id document lease ∈ r.deeds →
    .invoked call run ∈ r.deeds →
      ∃ argument, call.arguments.getLast? = some argument ∧ Path.ofString argument = lease.path
  /-- A request whose input is refused answers with that, and has done nothing else. -/
  refused : ∀ r ∈ requests, ∀ id document fault, .refusedInput id document fault ∈ r.deeds →
    r.stage = .finished (.failed (.store fault)) ∧ r.deeds = [.drew id, .refusedInput id document fault]

/-- A file in a directory whose path is a text has a path that is one. -/
theorem InputDirectory.pathFor_ofString (dir id : String) :
    ∃ s, (⟨.ofString dir⟩ : InputDirectory).pathFor id = .ofString s := by
  have hrelative : (Path.ofString (fileName id)).isAbsolute = false := by
    rw [Path.ofString, fileName, Text.encode_append, Text.encode_append]
    rfl
  unfold pathFor Path.join
  rw [if_neg (by simp [hrelative])]
  split
  · exact ⟨dir ++ fileName id, by simp [Path.ofString, Text.encode_append]⟩
  · refine ⟨dir ++ ("/" ++ fileName id), ?_⟩
    simp only [Path.ofString, Text.encode_append]
    rfl

/-- However requests that keep their inputs in one directory take their steps, they are isolated from each other. -/
theorem inputs_isolated {σ : Type} {ports : Ports σ} {Ready : σ → Prop} {tree : σ → Tree} {cwd : Place} {dir : String}
    (hports : ports.KeepInputs Ready tree cwd ⟨.ofString dir⟩) (engines : Engines) (world : σ) (hready : Ready world)
    (moves : List Move) :
    Isolated cwd ⟨.ofString dir⟩ (tree world) (tree (Floor.run ports engines { world := world } moves).world)
      (Floor.run ports engines { world := world } moves).requests := by
  have horder : (Floor.run ports engines { world := world } moves).Orderly Ready tree cwd _ engines (tree world) :=
    Floor.orderly_run hports hready moves
  generalize Floor.run ports engines { world := world } moves = f at horder
  obtain ⟨held, hkept, hholds, hheld⟩ := horder.holdings
  refine ⟨?_, ?_, ?_, ?_, horder.named, ?_, ?_⟩
  · intro place node hnode
    rw [hkept.at?_iff hnode]
    refine or_congr Iff.rfl ⟨?_, ?_⟩
    · rintro ⟨i, x, hx, rfl, rfl⟩
      obtain ⟨r, hr, hrholds⟩ := hheld i x hx
      exact ⟨r, hr, _, _, hrholds, (hkept.stands hx).1.located, rfl⟩
    · rintro ⟨r, hr, document, lease, hrholds, hlocated, rfl⟩
      obtain ⟨i, hi⟩ := List.mem_iff_getElem?.1 hr
      obtain ⟨x, hx, rfl, rfl⟩ := hholds i r document lease hi hrholds
      rw [(hkept.stands hx).1.located] at hlocated
      exact ⟨i, x, hx, Except.ok.inj hlocated, rfl⟩
  · intro place hplace
    exact hkept.at?_of_initial hplace
  · intro i j r r' document document' lease lease' hr hr' hrholds hrholds' hpath
    obtain ⟨x, hx, rfl, rfl⟩ := hholds i r document lease hr hrholds
    obtain ⟨y, hy, rfl, rfl⟩ := hholds j r' document' lease' hr' hrholds'
    have hplace := (hkept.stands hx).1.located
    rw [hpath, (hkept.stands hy).1.located] at hplace
    exact hkept.apart hx hy (Except.ok.inj hplace).symm
  · intro r hr document lease hrholds
    obtain ⟨i, hi⟩ := List.mem_iff_getElem?.1 hr
    obtain ⟨x, hx, rfl, rfl⟩ := hholds i r document lease hi hrholds
    obtain ⟨hstands, hnew⟩ := hkept.stands hx
    exact ⟨Request.document_of_holds (horder.trail r hr) hrholds, ⟨x.place, hstands.located, hnew⟩,
      Tree.read_file hstands.located hstands.there⟩
  · intro r hr id document lease call run hacquired hinvoked
    refine ⟨_, Request.argument_of_onTrail (horder.trail r hr) hacquired hinvoked, ?_⟩
    obtain ⟨s, hs⟩ := InputDirectory.pathFor_ofString dir id
    rw [(horder.named r hr id document lease hacquired).2.2, hs, Path.display_ofString]
  · intro r hr id document fault hrefused
    exact Request.refused_of_onTrail (horder.trail r hr) hrefused

/-- Three requests in one directory: the first holds its input while its engine hangs, the second is refused because the
file of its name is there, and the third because its name is not safe. -/
theorem inputs_isolated_collision :
    ∃ (world : Bench Script) (f : Floor (Bench Script)),
      world = { names := { given := ["a", "a", "../a"] }, store := .directory ⟨.ofString "/in"⟩,
                tree := { nodes := [([[0x69, 0x6E]], .directory), ([[0x62], [0x69, 0x6E]], .file [0x31] 0o600)] },
                engines := { endings := [.hanging] } } ∧
      f = Floor.run Script.ports ⟨.ofString "jqlite", .ofString "viz", .standard⟩ { world := world }
        [.arrive .query ⟨some "[]", some "."⟩, .arrive .query ⟨some "42", some "."⟩,
          .arrive .visualization ⟨some "0", some "."⟩, .advance 0, .advance 0, .advance 1, .advance 2, .advance 1,
          .advance 0, .advance 0, .advance 1, .advance 2, .advance 2] ∧
      f.requests.map (fun r => r.stage.lease?.isSome) = [true, false, false] ∧
      Isolated [] ⟨.ofString "/in"⟩ world.tree f.world.tree f.requests :=
  ⟨_, _, rfl, rfl, by decide, inputs_isolated (Script.keepInputs _) _ _ rfl _⟩

end QueryGateway
