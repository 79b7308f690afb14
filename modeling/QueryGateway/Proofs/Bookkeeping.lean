import QueryGateway.Gateway.Bench
import QueryGateway.Proofs.Floor

/-!
# What the books of a ledger tell

A ledger enters acquisitions and releases in the order in which they come (`Ledger.enterAll`), and the requests of a floor
that share one make just such entries, each request its own (`Floor.books_run`). What is outstanding is told name by name:
under a name that was never released there is one entry for each acquisition, under any other there is none
(`Ledger.outstanding_tells`). So where names repeat a release may hide an input that nobody released
(`Floor.outstanding_forgets`).
-/

namespace QueryGateway

/-! ## Entries -/

/-- What may be entered in the books. -/
inductive Entry where
  | acquired (id document : String)
  | released (lease : Lease)
deriving DecidableEq, Repr

namespace Entry

/-- The name of an acquisition. -/
def acquiredName? : Entry → Option String
  | acquired id _ => some id
  | released _ => none

/-- The name of a release. -/
def releasedName? : Entry → Option String
  | acquired _ _ => none
  | released lease => some lease.id

/-- How often an input was acquired under a name. -/
def acquisitions (id : String) (entries : List Entry) : Nat :=
  (entries.filterMap acquiredName?).count id

/-- How often an input was released under a name. -/
def releases (id : String) (entries : List Entry) : Nat :=
  (entries.filterMap releasedName?).count id

/-- The order of entries does not change how many there are under a name. -/
theorem acquisitions_perm {entries entries' : List Entry} (h : entries.Perm entries') (id : String) :
    acquisitions id entries = acquisitions id entries' :=
  (h.filterMap acquiredName?).count_eq id

theorem releases_perm {entries entries' : List Entry} (h : entries.Perm entries') (id : String) :
    releases id entries = releases id entries' :=
  (h.filterMap releasedName?).count_eq id

end Entry

namespace Ledger

open Entry (acquisitions releases)

/-- Makes an entry. -/
def enter (l : Ledger) : Entry → Ledger
  | .acquired id document => (l.acquire id document).2
  | .released lease => (l.release lease).2

/-- Makes entries one after the other. -/
def enterAll (l : Ledger) (entries : List Entry) : Ledger :=
  entries.foldl enter l

theorem enterAll_append (l : Ledger) (entries entries' : List Entry) :
    l.enterAll (entries ++ entries') = (l.enterAll entries).enterAll entries' :=
  List.foldl_append

/-- A ledger that refuses nothing has a line for every entry. -/
theorem lines_enterAll (entries : List Entry) : ∀ l : Ledger, l.refusing = false →
    (l.enterAll entries).acquired.map Prod.fst = l.acquired.map Prod.fst ++ entries.filterMap Entry.acquiredName? ∧
      (l.enterAll entries).released = l.released ++ entries.filterMap Entry.releasedName? := by
  induction entries with
  | nil => intro l _; simp [enterAll]
  | cons entry rest ih =>
    intro l hl
    cases entry with
    | acquired id document =>
      have henter : l.enter (.acquired id document) = { l with acquired := l.acquired ++ [(id, document)] } := by
        simp [enter, acquire, hl]
      obtain ⟨hacquired, hreleased⟩ := ih (l.enter (.acquired id document)) (by rw [henter]; exact hl)
      rw [henter] at hacquired hreleased
      rw [enterAll, List.foldl_cons, henter]
      exact ⟨hacquired.trans (by simp [Entry.acquiredName?]),
        hreleased.trans (by simp [List.filterMap_cons, Entry.releasedName?])⟩
    | released lease =>
      obtain ⟨hacquired, hreleased⟩ := ih (l.enter (.released lease)) hl
      exact ⟨hacquired.trans (by simp [enter, release, List.filterMap_cons, Entry.acquiredName?]),
        hreleased.trans (by simp [enter, release, Entry.releasedName?])⟩

/-- Under a name that was released nothing is outstanding, under any other every acquisition is. -/
theorem count_outstanding (l : Ledger) (id : String) :
    l.outstanding.count id = if id ∈ l.released then 0 else (l.acquired.map Prod.fst).count id := by
  by_cases hreleased : id ∈ l.released
  · rw [if_pos hreleased, List.count_eq_zero]
    intro hmem
    have hkept := (List.mem_filter.1 hmem).2
    simp [hreleased] at hkept
  · rw [if_neg hreleased]
    exact List.count_filter (by simpa using hreleased)

/-- So it is told from the entries alone. -/
theorem count_outstanding_enterAll (entries : List Entry) (id : String) :
    (enterAll {} entries).outstanding.count id =
      if releases id entries = 0 then acquisitions id entries else 0 := by
  obtain ⟨hacquired, hreleased⟩ := lines_enterAll entries {} rfl
  rw [count_outstanding, hacquired, hreleased, List.map_nil, List.nil_append, List.nil_append]
  by_cases hnone : releases id entries = 0
  · rw [if_pos hnone, if_neg (List.count_eq_zero.1 hnone)]
    rfl
  · rw [if_neg hnone, if_pos (List.count_pos_iff.1 (Nat.pos_of_ne_zero hnone))]

/-- Under each name there is one entry outstanding for each acquisition if the name was never released, and none
otherwise. That is as many as were acquired and not released exactly when none was released or all were. Nothing is
outstanding exactly when every name that was acquired has been released at least once. -/
theorem outstanding_tells (entries : List Entry) :
    (∀ id, (enterAll {} entries).outstanding.count id =
        if releases id entries = 0 then acquisitions id entries else 0) ∧
      (∀ id, (enterAll {} entries).outstanding.count id = acquisitions id entries - releases id entries ↔
        releases id entries = 0 ∨ acquisitions id entries ≤ releases id entries) ∧
      ((enterAll {} entries).outstanding = [] ↔ ∀ id, 0 < acquisitions id entries → 0 < releases id entries) := by
  have hcount := count_outstanding_enterAll entries
  refine ⟨hcount, fun id => ?_, ?_⟩
  · rw [hcount]
    split <;> omega
  · rw [List.eq_nil_iff_forall_not_mem]
    refine forall_congr' fun id => ?_
    rw [← List.count_eq_zero, hcount]
    split <;> omega

end Ledger

/-! ## The books of requests that share a ledger -/

/-- The outside keeps its inputs in the books of a ledger, and enters nothing else there. -/
structure Ports.KeepBooks {σ : Type} (ports : Ports σ) (books : σ → Ledger → Prop) : Prop where
  drawId : ∀ {s l}, books s l → books (ports.drawId s).2 l
  acquire : ∀ {s l} (id document : String), books s l →
    (ports.acquire id document s).1 = (l.acquire id document).1 ∧
      books (ports.acquire id document s).2 (l.acquire id document).2
  release : ∀ {s l} (lease : Lease), books s l → books (ports.release lease s) (l.release lease).2
  discard : ∀ {s l} (lease : Lease), books s l → books (ports.discard lease s) l
  invoke : ∀ {s l} (call : Call), books s l → books (ports.invoke call s).2 l

/-- A bench with a ledger keeps its inputs in the books of it. -/
theorem Script.keepBooks : Script.ports.KeepBooks fun b l => b.store = .ledger l where
  drawId h := h
  acquire id document h := by
    simp only [Script.ports, Bench.acquire, h]
    exact ⟨trivial, trivial⟩
  release lease h := by simp only [Script.ports, Bench.release, h]
  discard lease h := h
  invoke call h := h

/-- What a deed enters in the books. -/
def Deed.entry? : Deed → Option Entry
  | acquired id document _ => some (.acquired id document)
  | released lease => some (.released lease)
  | _ => none

namespace Request

/-- What a request has entered in the books. -/
def entries (r : Request) : List Entry :=
  r.deeds.filterMap Deed.entry?

variable {σ : Type} {ports : Ports σ} {books : σ → Ledger → Prop} {s : σ} {l : Ledger}

/-- A step of a request enters in the books what it adds to the entries of the request. Books that refuse stay as they
are. -/
theorem books_advance (hports : ports.KeepBooks books) (engines : Engines) (r : Request) (h : books s l) :
    ∃ more, (r.advance ports engines s).1.entries = r.entries ++ more ∧
      books (r.advance ports engines s).2 (l.enterAll more) := by
  obtain ⟨engine, submission, stage, deeds, found⟩ := r
  cases stage with
  | submitted engine submission =>
    refine ⟨[], ?_⟩
    simp only [advance, Stage.advance]
    split
    · exact ⟨by simp [entries, Stage.ending], h⟩
    · split <;> exact ⟨by simp [entries, Stage.ending], h⟩
  | admitted engine query =>
    refine ⟨[], ?_, hports.drawId h⟩
    simp [advance, Stage.advance, Ports.recorded, entries, Stage.ending, Deed.entry?]
  | named engine query id =>
    obtain ⟨hprovided, hbooks⟩ := hports.acquire id query.document h
    simp only [advance, Stage.advance, Ports.recorded]
    rcases hacquire : ports.acquire id query.document s with ⟨fault | lease, s'⟩
    · rw [hacquire] at hprovided hbooks
      have hsame : (l.acquire id query.document).2 = l := by
        unfold Ledger.acquire at hprovided ⊢
        split
        · rfl
        case isFalse hopen => simp [hopen] at hprovided
      rw [hsame] at hbooks
      exact ⟨[], by simp [entries, Stage.ending, Deed.entry?], hbooks⟩
    · rw [hacquire] at hbooks
      exact ⟨[.acquired id query.document], by simp [entries, Stage.ending, Deed.entry?], hbooks⟩
  | holding engine query lease =>
    refine ⟨[], ?_, hports.invoke _ h⟩
    simp [advance, Stage.advance, Ports.recorded, entries, Stage.ending, Deed.entry?]
  | running engine lease run =>
    refine ⟨[], ?_⟩
    simp only [advance, Stage.advance]
    split <;> exact ⟨by simp [entries, Stage.ending, Deed.entry?], h⟩
  | settled lease outcome =>
    refine ⟨[.released lease], ?_, hports.release lease h⟩
    simp [advance, Stage.advance, Ports.recorded, entries, Stage.ending, Deed.entry?]
  | finished outcome => exact ⟨[], by simp [advance, Stage.advance, entries, Stage.ending], h⟩

/-- Dropping a request enters nothing. -/
theorem books_drop (hports : ports.KeepBooks books) (r : Request) (h : books s l) :
    (r.drop ports s).1.entries = r.entries ∧ books (r.drop ports s).2 l := by
  obtain ⟨engine, submission, stage, deeds, found⟩ := r
  cases stage with
  | running engine lease run =>
    refine ⟨?_, hports.discard lease h⟩
    simp [drop, Stage.giveUp, Stage.lease?, Ports.recorded, entries, Deed.entry?]
  | _ => exact ⟨rfl, h⟩

end Request

namespace Floor

/-- What the requests have entered, one request after the other. -/
def entries {σ : Type} (f : Floor σ) : List Entry :=
  f.requests.flatMap Request.entries

/-- When one request makes more entries, all of them together are those from before and these. -/
theorem entries_set {requests : List Request} {i : Nat} {r r' : Request} {more : List Entry}
    (hr : requests[i]? = some r) (hmore : r'.entries = r.entries ++ more) :
    ((requests.set i r').flatMap Request.entries).Perm (requests.flatMap Request.entries ++ more) := by
  induction requests generalizing i with
  | nil => cases hr
  | cons q rest ih =>
    cases i with
    | zero =>
      obtain rfl : q = r := Option.some.inj hr
      rw [List.set_cons_zero, List.flatMap_cons, List.flatMap_cons, hmore, List.append_assoc, List.append_assoc]
      exact List.perm_append_comm.append_left q.entries
    | succ i =>
      rw [List.set_cons_succ, List.flatMap_cons, List.flatMap_cons, List.append_assoc]
      exact (ih hr).append_left q.entries

/-- Whatever requests that share a ledger do, its books hold what they have entered and nothing else. -/
theorem books_run {σ : Type} {ports : Ports σ} {books : σ → Ledger → Prop} (hports : ports.KeepBooks books)
    (engines : Engines) {world : σ} {l : Ledger} (h : books world l) (moves : List Move) :
    ∃ entries, books (run ports engines { world := world } moves).world (l.enterAll entries) ∧
      entries.Perm (run ports engines { world := world } moves).entries := by
  refine run_induction (I := fun f => ∃ entries, books f.world (l.enterAll entries) ∧ entries.Perm f.entries)
    ?_ ?_ ?_ moves ⟨[], h, .nil⟩
  · rintro f engine submission ⟨entries, hbooks, hperm⟩
    refine ⟨entries, hbooks, ?_⟩
    simpa [Floor.entries, Request.sent, Request.entries] using hperm
  · rintro f i r hr ⟨entries, hbooks, hperm⟩
    obtain ⟨more, hmore, hnext⟩ := r.books_advance hports engines hbooks
    refine ⟨entries ++ more, ?_, (hperm.append_right more).trans (entries_set hr hmore).symm⟩
    rw [Ledger.enterAll_append]
    exact hnext
  · rintro f i r hr ⟨entries, hbooks, hperm⟩
    obtain ⟨hsame, hnext⟩ := r.books_drop hports hbooks
    refine ⟨entries, hnext, hperm.trans ?_⟩
    have hset := entries_set hr (hsame.trans (List.append_nil _).symm)
    rw [List.append_nil] at hset
    exact hset.symm

/-- So what is outstanding after any run is told by what its requests have acquired and released. -/
theorem count_outstanding_run {σ : Type} {ports : Ports σ} {books : σ → Ledger → Prop} (hports : ports.KeepBooks books)
    (engines : Engines) {world : σ} (h : books world {}) (moves : List Move) :
    ∃ l, books (run ports engines { world := world } moves).world l ∧
      ∀ id, l.outstanding.count id =
        if Entry.releases id (run ports engines { world := world } moves).entries = 0 then
          Entry.acquisitions id (run ports engines { world := world } moves).entries
        else 0 := by
  obtain ⟨entries, hbooks, hperm⟩ := books_run hports engines h moves
  refine ⟨_, hbooks, fun id => ?_⟩
  rw [Ledger.count_outstanding_enterAll, Entry.acquisitions_perm hperm, Entry.releases_perm hperm]

/-- Where names repeat, books may show nothing outstanding while an input has not been released: of two requests with one
name the first is dropped while its engine hangs, and the second releases what it acquired. -/
theorem outstanding_forgets :
    ¬∀ (engines : Engines) (world : Bench Script) (moves : List Move) (l : Ledger), world.store = .ledger {} →
      (run Script.ports engines { world := world } moves).world.store = .ledger l →
        ∀ id, l.outstanding.count id =
          Entry.acquisitions id (run Script.ports engines { world := world } moves).entries -
            Entry.releases id (run Script.ports engines { world := world } moves).entries := by
  intro h
  let engines : Engines := ⟨.ofString "jqlite", .ofString "viz", .standard⟩
  let world : Bench Script :=
    { names := { given := ["a"] }, engines := { endings := [.hanging, .finished (.exited "42" "")] } }
  let moves : List Move := [.arrive .query ⟨some "[]", some "."⟩] ++ List.replicate 4 (.advance 0) ++ [.drop 0] ++
    [.arrive .query ⟨some "42", some "."⟩] ++ List.replicate 6 (.advance 1)
  have hempty : world.store = .ledger {} := rfl
  obtain ⟨l, hbooks, htold⟩ := count_outstanding_run Script.keepBooks engines hempty moves
  have hsaid := h engines world moves l hempty hbooks "a"
  rw [htold] at hsaid
  revert hsaid
  decide

end Floor
end QueryGateway
