import Mathlib
import RegisterMap.Proofs.Device.ArrayElements
import RegisterMap.Proofs.Device.ElementLocks
import RegisterMap.Proofs.Device.Flavours
import RegisterMap.Proofs.Device.Footprints
import RegisterMap.Proofs.Session.Interleaving

/-!
# Sessions on the elements of an array

Sessions on different elements of an array go side by side.  Each is opened, edited in memory, and
in the end finished or dropped (`ElementSession`).  It keeps to the words of its element and to the
lock of its element (`elementParts`): the words of different elements are apart, and the locks of
elements do not stand in each other's way, since what an open session changes elsewhere is a counter
at the lock of the array, and that is looked at by sessions on the array alone.

So in whatever way the steps of the sessions are mixed, and even where the steps themselves are
broken up into single requests, every session ends as it does alone, and the bus holds what it holds
when the sessions are run one after another (`element_sessions_commute`).

A session opens unless it asks for verification and the array cannot be read.  All of this is about
arrays whose words lie in the address space, where different elements have different words.
-/

namespace RegisterMap

open Suspended

/-! ## Sessions -/

/-- A session on an element: how it is opened, the edits of its copy, and how it is closed. -/
structure ElementSession (a : RegisterArray) (α : Type) where
  position : Fin a.size
  options : SessionOptions
  edits : List (ℕ → Except Fault (ℕ × α))
  /-- The session is finished in the end, and dropped otherwise. -/
  finishes : Bool

/-- What becomes of a session.  A session that does not open is not edited and has nothing to
close. -/
structure SessionReport (α : Type) where
  /-- The first copy. -/
  opening : Except Fault ℕ
  results : List (Except Fault α)
  closing : Except Fault Unit

namespace ElementSession

variable {a : RegisterArray} {α : Type}

variable (e : ElementSession a α)

/-- The element as an object of sessions. -/
abbrev object : Copied := .register (a.element e.position)

def lock : LockId := a.elementLock e.position

/-- Where a session stands. -/
inductive Stage (e : ElementSession a α) where
  | waiting
  /-- The session is open; its first copy, what its edits gave so far, and the edits to come. -/
  | held (s : Handle e.object) (first : ℕ) (results : List (Except Fault α))
      (left : List (ℕ → Except Fault (ℕ × α)))
  | closed (report : SessionReport α)

variable {e} in
/-- An edit; if it is refused, the session stays as it was. -/
def editOnce (s : Handle e.object) (f : ℕ → Except Fault (ℕ × α)) :
    Handle e.object × Except Fault α :=
  match s.edit f with
  | .ok (edited, result) => (edited, .ok result)
  | .error fault => (s, .error fault)

def opened : Except Fault (Handle e.object) → Stage e
  | .ok s => .held s s.copy [] e.edits
  | .error fault => .closed ⟨.error fault, [], .ok ()⟩

/-- Ends the session. -/
def close (s : Handle e.object) : Suspended Unit := if e.finishes then s.finish else s.drop

/-- The next step of the session: to open it, to make an edit, or to close it. -/
def step {σ : Type} (bus : Bus σ) : Stage e → World σ → Stage e × World σ
  | .waiting, w =>
    let (outcome, w') := Suspended.run bus (e.object.openAsync e.options) w
    (e.opened outcome, w')
  | .held s first results (f :: left), w =>
    (.held (editOnce s f).1 first (results ++ [(editOnce s f).2]) left, w)
  | .held s first results [], w =>
    let (outcome, w') := Suspended.run bus (e.close s) w
    (.closed ⟨.ok first, results, outcome⟩, w')
  | .closed report, w => (.closed report, w)

/-- The edits that are left and the end of a session that is open. -/
def conclude (first : ℕ) : (s : Handle e.object) → (results : List (Except Fault α)) →
    (left : List (ℕ → Except Fault (ℕ × α))) → Suspended (SessionReport α)
  | s, results, [] =>
    (e.close s).onDone fun outcome => .done (.ok ⟨.ok first, results, outcome⟩)
  | s, results, f :: left =>
    conclude first (editOnce s f).1 (results ++ [(editOnce s f).2]) left

/-- What is left of a session. -/
def rest : Stage e → Suspended (SessionReport α)
  | .waiting => (e.object.openAsync e.options).onDone fun outcome =>
    match outcome with
    | .ok s => e.conclude s.copy s [] e.edits
    | .error fault => .done (.ok ⟨.error fault, [], .ok ()⟩)
  | .held s first results left => e.conclude first s results left
  | .closed report => .done (.ok report)

/-- The whole session as a program. -/
def program : Suspended (SessionReport α) := e.rest .waiting

lemma rest_waiting : e.rest .waiting =
    (e.object.openAsync e.options).onDone fun outcome => e.rest (e.opened outcome) := by
  refine congrArg (onDone · (e.object.openAsync e.options)) (funext fun outcome => ?_)
  cases outcome <;> rfl

end ElementSession

/-! ## Steps -/

/-- Sessions that share a world. -/
structure SessionPool {a : RegisterArray} {ι α : Type} (sessions : ι → ElementSession a α)
    (σ : Type) where
  stages : (i : ι) → (sessions i).Stage
  world : World σ

namespace SessionPool

variable {a : RegisterArray} {σ ι α : Type} [DecidableEq ι] (bus : Bus σ)
  (sessions : ι → ElementSession a α)

/-- A session makes its next step. -/
def advance (p : SessionPool sessions σ) (i : ι) : SessionPool sessions σ where
  stages := Function.update p.stages i ((sessions i).step bus (p.stages i) p.world).1
  world := ((sessions i).step bus (p.stages i) p.world).2

/-- The steps that a schedule lists. -/
def run (schedule : List ι) (p : SessionPool sessions σ) : SessionPool sessions σ :=
  schedule.foldl (advance bus sessions) p

variable {sessions} in
/-- All sessions are closed. -/
def Closed (p : SessionPool sessions σ) : Prop := ∀ i, ∃ report, p.stages i = .closed report

variable {sessions} in
/-- The steps that a session still has to make: to open, every edit, and to close. -/
def stepsLeft (p : SessionPool sessions σ) (i : ι) : ℕ :=
  match p.stages i with
  | .waiting => (sessions i).edits.length + 2
  | .held _ _ _ left => left.length + 1
  | .closed _ => 0

variable {sessions} in
/-- What is left of the sessions, as programs. -/
def programs (p : SessionPool sessions σ) : Pool σ ι (SessionReport α) where
  programs i := (sessions i).rest (p.stages i)
  world := p.world

/-- No step is made in vain. -/
lemma stepsLeft_advance (p : SessionPool sessions σ) (i j : ι) :
    (p.advance bus sessions i).stepsLeft j ≤
      p.stepsLeft j - if i = j then 1 else 0 := by
  by_cases hij : i = j
  · subst hij
    rw [if_pos rfl]
    unfold stepsLeft advance
    dsimp only
    rw [Function.update_self]
    rcases p.stages i with _ | ⟨s, first, results, left⟩ | report
    · dsimp only [ElementSession.step]
      rcases (Suspended.run bus ((sessions i).object.openAsync (sessions i).options) p.world).1 with
        fault | s
      · exact Nat.zero_le _
      · exact le_rfl
    · cases left <;> exact le_rfl
    · exact le_rfl
  · rw [if_neg hij, Nat.sub_zero]
    unfold stepsLeft advance
    dsimp only
    rw [Function.update_of_ne (Ne.symm hij)]

lemma stepsLeft_run (steps : List ι) (p : SessionPool sessions σ) (i : ι) :
    (p.run bus sessions steps).stepsLeft i ≤ p.stepsLeft i - steps.count i := by
  induction steps generalizing p with
  | nil => exact le_rfl
  | cons j rest ih =>
    refine (ih (p.advance bus sessions j)).trans ?_
    have hstep := stepsLeft_advance bus sessions p j i
    rw [List.count_cons]
    simp only [beq_iff_eq]
    omega

variable {bus sessions}

/-- Sessions that had all their steps are closed. -/
theorem closed_run {steps : List ι} {p : SessionPool sessions σ}
    (h : ∀ i, p.stepsLeft i ≤ steps.count i) : (p.run bus sessions steps).Closed := by
  intro i
  have hleft := stepsLeft_run bus sessions steps p i
  rw [Nat.sub_eq_zero_of_le (h i)] at hleft
  unfold stepsLeft at hleft
  split at hleft
  · omega
  · omega
  · next report hstage => exact ⟨report, hstage⟩

omit [DecidableEq ι] in
lemma Closed.finished {p : SessionPool sessions σ} (h : p.Closed) : p.programs.Finished := by
  intro i
  obtain ⟨report, hreport⟩ := h i
  exact ⟨.ok report, congrArg (sessions i).rest hreport⟩

lemma programs_advance (p : SessionPool sessions σ) (i : ι) :
    (p.advance bus sessions i).programs =
      ⟨Function.update (p.programs).programs i
        ((sessions i).rest ((sessions i).step bus (p.stages i) p.world).1),
        ((sessions i).step bus (p.stages i) p.world).2⟩ := by
  unfold programs advance
  congr 1
  funext j
  by_cases hj : j = i
  · subst hj
    dsimp only
    rw [Function.update_self, Function.update_self]
  · dsimp only
    rw [Function.update_of_ne hj, Function.update_of_ne hj]

/-- A step of a session is a number of turns of its program. -/
lemma exists_schedule_advance (bus : Bus σ)
    (p : SessionPool sessions σ) (i : ι) :
    ∃ schedule, Pool.run bus schedule (p.programs) =
      (p.advance bus sessions i).programs := by
  rw [programs_advance]
  cases hstage : p.stages i with
  | waiting =>
    have hprogram : (p.programs).programs i =
        ((sessions i).object.openAsync (sessions i).options).onDone fun outcome =>
          (sessions i).rest ((sessions i).opened outcome) :=
      (congrArg (sessions i).rest hstage).trans (sessions i).rest_waiting
    exact Pool.exists_schedule bus hprogram
  | held s first results left =>
    cases left with
    | nil =>
      have hprogram : (p.programs).programs i =
          ((sessions i).close s).onDone fun outcome =>
            (sessions i).rest (.closed ⟨.ok first, results, outcome⟩) :=
        congrArg (sessions i).rest hstage
      exact Pool.exists_schedule bus hprogram
    | cons f left =>
      -- an edit takes no turn
      refine ⟨[], ?_⟩
      have hprogram : (sessions i).rest ((sessions i).step bus
          (.held s first results (f :: left)) p.world).1 = (p.programs).programs i :=
        (congrArg (sessions i).rest hstage).symm
      rw [hprogram, Function.update_eq_self]
      rfl
  | closed report =>
    refine ⟨[], ?_⟩
    have hprogram : (sessions i).rest ((sessions i).step bus (.closed report) p.world).1 =
        (p.programs).programs i := (congrArg (sessions i).rest hstage).symm
    rw [hprogram, Function.update_eq_self]
    rfl

/-- The steps of sessions are turns of their programs. -/
theorem exists_schedule_run (bus : Bus σ) (steps : List ι)
    (p : SessionPool sessions σ) :
    ∃ schedule, Pool.run bus schedule (p.programs) =
      (p.run bus sessions steps).programs := by
  induction steps generalizing p with
  | nil => exact ⟨[], rfl⟩
  | cons i rest ih =>
    obtain ⟨first, hfirst⟩ := exists_schedule_advance bus p i
    obtain ⟨later, hlater⟩ := ih (p.advance bus sessions i)
    refine ⟨first ++ later, ?_⟩
    rw [Pool.run_append, hfirst, hlater]
    rfl

end SessionPool

/-! ## Parts of the world -/

namespace ElementSession

variable {a : RegisterArray} {α ι : Type} {w w' : World Simulator}

/-- The addresses of the words of the element. -/
def words (e : ElementSession a α) : List ℕ := (a.elementLayout e.position).wordAddresses

/-- The requests that a session issues: calls that keep to the words of its element, and requests
for the lock of its element. -/
def MayAsk (e : ElementSession a α) : Request → Prop
  | .call c => c.Within e.words
  | .blockReads | .blockWrites => True
  | .acquire lock | .release lock => lock = e.lock

/-- What a session sees of the world. -/
def view (e : ElementSession a α) (w : World Simulator) : List ℕ × Bool :=
  (e.words.map w.bus.contents.stored, w.locks.isActive e.lock)

/-- What sessions on elements leave as it is. -/
structure Steady (a : RegisterArray) (forced : ℕ → Option ℕ) (offered : Bool)
    (w : World Simulator) : Prop where
  forced : w.bus.contents.forced = forced
  offered : w.bus.blockAccess = offered
  locks : a.Tended w.locks

section Parts

variable {e e' : ElementSession a α} {forced : ℕ → Option ℕ} {offered : Bool} {q : Request}

lemma Steady.perform (h : Steady a forced offered w) (hq : e.MayAsk q) :
    Steady a forced offered (q.perform Simulator.toBus w).2 := by
  cases q with
  | call c =>
    obtain ⟨-, hcontents, hblock⟩ := Simulator.answer_eq c w.bus
    refine ⟨?_, hblock.trans h.offered, h.locks⟩
    exact (congrArg Contents.forced hcontents).trans ((Contents.forced_setAll ..).trans h.forced)
  | blockReads => exact h
  | blockWrites => exact h
  | acquire lock =>
    rw [show lock = e.lock from hq]
    exact ⟨h.forced, h.offered, (h.locks.acquire e.position.2).2.1⟩
  | release lock =>
    rw [show lock = e.lock from hq]
    exact ⟨h.forced, h.offered, (h.locks.release e.position.2).1⟩

/-- Worlds that a session sees alike give it the same reply, and it still sees them alike. -/
lemma perform_own (hq : e.MayAsk q) (h : Steady a forced offered w)
    (h' : Steady a forced offered w') (hview : e.view w = e.view w') :
    (q.perform Simulator.toBus w).1 = (q.perform Simulator.toBus w').1 ∧
      e.view (q.perform Simulator.toBus w).2 = e.view (q.perform Simulator.toBus w').2 := by
  obtain ⟨hwords, hactive⟩ := Prod.mk.inj hview
  have hstored := List.map_inj_left.1 hwords
  cases q with
  | call c =>
    obtain ⟨hreply, hcontents, -⟩ := Simulator.answer_eq c w.bus
    obtain ⟨hreply', hcontents', -⟩ := Simulator.answer_eq c w'.bus
    constructor
    · refine hreply.trans (Eq.trans (congrArg Except.ok ?_) hreply'.symm)
      refine Call.Within.replyIn_congr hq fun address haddress => ?_
      exact Contents.seen_congr (h.forced.trans h'.forced.symm) (hstored address haddress)
    · refine Prod.ext (List.map_congr_left fun address haddress => ?_) hactive
      change (Simulator.toBus.answer c w.bus).2.contents.stored address =
        (Simulator.toBus.answer c w'.bus).2.contents.stored address
      rw [hcontents, hcontents']
      exact Contents.stored_setAll_congr (hstored address haddress)
  | blockReads => exact ⟨h.offered.trans h'.offered.symm, hview⟩
  | blockWrites => exact ⟨h.offered.trans h'.offered.symm, hview⟩
  | acquire lock =>
    rw [show lock = e.lock from hq]
    obtain ⟨hreply, -, hmark, -⟩ := h.locks.acquire e.position.2
    obtain ⟨hreply', -, hmark', -⟩ := h'.locks.acquire e.position.2
    constructor
    · exact hreply.trans ((congrArg _ hactive).trans hreply'.symm)
    · exact Prod.ext hwords (hmark.trans hmark'.symm)
  | release lock =>
    rw [show lock = e.lock from hq]
    obtain ⟨-, hmark, -⟩ := h.locks.release e.position.2
    obtain ⟨-, hmark', -⟩ := h'.locks.release e.position.2
    exact ⟨rfl, Prod.ext hwords (hmark.trans hmark'.symm)⟩

/-- Words elsewhere stay as they are. -/
lemma stored_perform (hq : e.MayAsk q) {address : ℕ} (haddress : address ∉ e.words) :
    (q.perform Simulator.toBus w).2.bus.contents.stored address =
      w.bus.contents.stored address := by
  cases q with
  | call c =>
    obtain ⟨-, hcontents, -⟩ := Simulator.answer_eq c w.bus
    refine (congrArg (Contents.stored · address) hcontents).trans ?_
    exact Contents.stored_setAll_of_notMem fun hmem =>
      haddress (Call.Within.mem_of_stores hq hmem)
  | blockReads => rfl
  | blockWrites => rfl
  | acquire lock => rfl
  | release lock => rfl

/-- A session on another element sees nothing of it. -/
lemma perform_other (hwords : e.words.Disjoint e'.words) (hne : e.position ≠ e'.position)
    (hq : e'.MayAsk q) (h : Steady a forced offered w) :
    e.view (q.perform Simulator.toBus w).2 = e.view w := by
  have hstored : e.words.map (q.perform Simulator.toBus w).2.bus.contents.stored =
      e.words.map w.bus.contents.stored :=
    List.map_congr_left fun address haddress => stored_perform hq (hwords haddress)
  refine Prod.ext hstored ?_
  have hplace : (e.position : ℕ) ≠ e'.position := fun heq => hne (Fin.ext heq)
  cases q with
  | call c => rfl
  | blockReads => rfl
  | blockWrites => rfl
  | acquire lock =>
    rw [show lock = e'.lock from hq]
    exact (h.locks.acquire e'.position.2).2.2.2 e.position hplace
  | release lock =>
    rw [show lock = e'.lock from hq]
    exact (h.locks.release e'.position.2).2.2 e.position hplace

end Parts

section Programs

variable (h : RegisterDetail.PowersOfTwo ⟨a.layout.width, a.layout.accessWidth⟩)
include h

/-- Sessions on different elements have no word in common. -/
lemma words_disjoint (hstride : a.layout.width / 8 ≤ a.stride) {e e' : ElementSession a α}
    (hne : e.position ≠ e'.position) : e.words.Disjoint e'.words := by
  have hplace : (e.position : ℕ) ≠ e'.position := fun heq => hne (Fin.ext heq)
  have hdisjoint := (RegisterArray.apart_transfer h hstride).disjoint e.position.2 e'.position.2
    hplace
  rwa [RegisterArray.wordAddresses_transfer h, RegisterArray.wordAddresses_transfer h] at hdisjoint

variable (e : ElementSession a α)

lemma asks_load : Asks e.MayAsk (fun _ => True) (e.object.target (m := Suspended)).load :=
  Register.asks_physicalRead trivial fun _ _ hc => Register.within_readCalls h.admitted hc

lemma asks_store (copy : ℕ) :
    Asks e.MayAsk (fun _ => True) ((e.object.target (m := Suspended)).store copy) := by
  refine .bind (.decide fun _ _ => trivial) fun _ _ => ?_
  refine .bind (.decide fun _ _ => trivial) fun _ _ => ?_
  exact Register.asks_physicalWrite trivial fun _ _ hc => Register.within_writeCalls h.admitted hc

lemma asks_close (s : Handle e.object) : Asks e.MayAsk (fun _ => True) (e.close s) := by
  have hrelease : e.MayAsk (.release e.object.lock) := rfl
  unfold close
  split
  · rw [Copied.finish_eq]
    refine asks_unlocking hrelease ?_
    exact SessionTarget.asks_writeBack _ (e.asks_store h) (fun _ => e.asks_load h) s.copy
  · exact .ask hrelease

lemma asks_conclude {first : ℕ} {s : Handle e.object} {results : List (Except Fault α)}
    {left : List (ℕ → Except Fault (ℕ × α))} :
    Asks e.MayAsk (fun _ => True) (e.conclude first s results left) := by
  induction left generalizing s results with
  | nil => exact (e.asks_close h s).onDone (fun _ _ _ _ => trivial) fun _ _ _ => trivial
  | cons f left ih => exact ih

/-- A session keeps to the words and the lock of its element. -/
theorem asks_program : Asks e.MayAsk (fun _ => True) e.program := by
  have hsnapshot : Asks e.MayAsk (fun _ => True) (e.object.target.snapshot e.options) :=
    (SessionTarget.asks_snapshot e.options fun _ => e.asks_load h).mono (fun _ => id)
      fun _ _ => trivial
  have hopen : Asks e.MayAsk (fun _ => True) (e.object.openAsync e.options) := by
    have hacquire : e.MayAsk (.acquire e.object.lock) := rfl
    have hrelease : e.MayAsk (.release e.object.lock) := rfl
    rw [e.object.openAsync_eq, map_eq_pure_bind]
    exact asks_locking hacquire hrelease (hsnapshot.bind fun _ _ => .pure trivial)
  exact hopen.onDone (fun s _ => e.asks_conclude h) fun _ _ _ => trivial

end Programs

/-- The parts of the world that sessions on different elements keep to. -/
def elementParts (h : RegisterDetail.PowersOfTwo ⟨a.layout.width, a.layout.accessWidth⟩)
    (hstride : a.layout.width / 8 ≤ a.stride) {sessions : ι → ElementSession a α}
    (hdistinct : Function.Injective fun i => (sessions i).position) (w : World Simulator) :
    Parts Simulator.toBus ι (List ℕ × Bool)
      ({address : ℕ // ∀ i, address ∉ (sessions i).words} → ℕ) where
  asks i := (sessions i).MayAsk
  inv := Steady a w.bus.contents.forced w.bus.blockAccess
  view i := (sessions i).view
  rest w := fun address => w.bus.contents.stored address
  inv_perform hq hinv := hinv.perform hq
  own hq hinv hinv' hview := perform_own hq hinv hinv' hview
  other hij hq hinv := by
    have hne := hdistinct.ne hij
    exact perform_other (words_disjoint h hstride hne) hne hq hinv
  rest_perform hq _ := funext fun address => stored_perform hq (address.2 _)

/-- Worlds that all sessions see alike, and that are alike elsewhere, hold the same. -/
lemma contents_eq (sessions : ι → ElementSession a α) {w w' : World Simulator}
    (hforced : w.bus.contents.forced = w'.bus.contents.forced)
    (hview : ∀ i, (sessions i).view w = (sessions i).view w')
    (hrest : ∀ address : {address : ℕ // ∀ i, address ∉ (sessions i).words},
      w.bus.contents.stored address = w'.bus.contents.stored address) :
    w.bus.contents = w'.bus.contents := by
  have hstored : w.bus.contents.stored = w'.bus.contents.stored := by
    funext address
    by_cases hwords : ∀ i, address ∉ (sessions i).words
    · exact hrest ⟨address, hwords⟩
    · push Not at hwords
      obtain ⟨i, hi⟩ := hwords
      exact List.map_inj_left.1 (Prod.mk.inj (hview i)).1 address hi
  exact congrArg₂ Contents.mk hstored hforced

/-! ## Openings -/

/-- What the opening of a session gives: the value of the element, or its reset value if software
may not read it; and in that case verification is refused. -/
def opening (e : ElementSession a α) (c : Contents) : Except Fault ℕ :=
  if a.layout.readable then .ok ((a.elementLayout e.position).valueIn c)
  else if e.options.verify then .error (.accessDenied (a.elementLayout e.position).name .read)
  else .ok (a.elementLayout e.position).resetValue

section Openings

variable (h : RegisterDetail.PowersOfTwo ⟨a.layout.width, a.layout.accessWidth⟩)
include h

lemma run_snapshot (e : ElementSession a α) (w : World Simulator) :
    (Suspended.run Simulator.toBus (e.object.target.snapshot e.options) w).1 =
      e.opening w.bus.contents := by
  have hcheck : (e.object.target (m := Suspended)).readable = if a.layout.readable then .ok ()
      else .error (.accessDenied (a.elementLayout e.position).name .read) := rfl
  unfold SessionTarget.snapshot opening
  rw [hcheck]
  cases a.layout.readable with
  | true =>
    obtain ⟨w', hrun, -⟩ := Register.yields_physicalRead
      (r := ⟨(a.elementLayout e.position).withoutFields, (a.element e.position).lock⟩)
      (RegisterArray.admitted_element h e.position) w.bus.contents w rfl
    have hload := ((movesWords_driven Simulator.toBus).physicalRead (a.element e.position) w).trans
      hrun
    cases e.options.verify <;> exact congrArg Prod.fst hload
  | false => cases e.options.verify <;> rfl

omit h in
lemma run_conclude (e : ElementSession a α) (first : ℕ) (s : Handle e.object)
    (results : List (Except Fault α)) (left : List (ℕ → Except Fault (ℕ × α)))
    (w : World Simulator) :
    ∃ report, (Suspended.run Simulator.toBus (e.conclude first s results left) w).1 = .ok report ∧
      report.opening = .ok first := by
  induction left generalizing s results with
  | nil =>
    unfold conclude
    rw [Suspended.run_onDone]
    exact ⟨_, rfl, rfl⟩
  | cons f left ih => exact ih _ _

/-- A session whose lock is free opens as it should. -/
theorem run_program (e : ElementSession a α) {w : World Simulator} (hidle : a.Idle w.locks) :
    ∃ report, (Suspended.run Simulator.toBus e.program w).1 = .ok report ∧
      report.opening = e.opening w.bus.contents := by
  have hfree : w.locks.Free e.object.lock :=
    (hidle.free_iff e.position.2).2 (hidle.inactive _ e.position.2)
  unfold program rest
  rw [Suspended.run_onDone, e.object.openAsync_eq, run_locking, LockForest.acquire_of_free hfree]
  dsimp only
  have hsnapshot := e.run_snapshot h
    { w with locks := (w.locks.announce e.object.lock).setActive e.object.lock true }
  dsimp only at hsnapshot
  rw [← hsnapshot, map_eq_pure_bind, Suspended.run_bind]
  rcases Suspended.run Simulator.toBus (e.object.target.snapshot e.options) _ with ⟨fault | copy, w'⟩
  · exact ⟨_, rfl, rfl⟩
  · exact e.run_conclude copy _ _ _ _

end Openings

end ElementSession

/-! ## Interleavings -/

open ElementSession in
/-- Sessions on different elements of an array, on a simulated bus.  Computed with 64 bits, the words
of an element are its own.  In whatever way the steps of the sessions are mixed, or even their single
requests, every session reports what it reports when the sessions are run one after another, in any
order, and the bus then holds the same.  Every session opens, unless it asks for verification and
software may not read the array. -/
theorem element_sessions_commute {a : RegisterArray} {α ι : Type} [DecidableEq ι] {path : String}
    {attributes : Attributes}
    (hsizes : attributes.toRegister path = .ok ⟨a.layout.width, a.layout.accessWidth⟩)
    (hstride : a.layout.width / 8 ≤ a.stride) (hwords : a.Addressable)
    (sessions : ι → ElementSession a α)
    (hdistinct : Function.Injective fun i => (sessions i).position) (w : World Simulator)
    (hidle : a.Idle w.locks) (order : List ι) (horder : ∀ i, i ∈ order) :
    let start : Pool Simulator ι (SessionReport α) := ⟨fun i => (sessions i).program, w⟩
    let last := Pool.inTurn Simulator.toBus order start
    (∀ i, a.checkedElementWords (sessions i).position = .ok (sessions i).words) ∧
    (∀ i, ∃ report, last.programs i = .done (.ok report) ∧
      report.opening = (sessions i).opening w.bus.contents) ∧
    (∀ steps, let p := SessionPool.run Simulator.toBus sessions steps ⟨fun _ => .waiting, w⟩
      p.Closed → (∀ i report, p.stages i = .closed report →
          last.programs i = .done (.ok report)) ∧
        p.world.bus.contents = last.world.bus.contents) ∧
    ∀ schedule, let p := Pool.run Simulator.toBus schedule start
      p.Finished → p.programs = last.programs ∧
        p.world.bus.contents = last.world.bus.contents := by
  have h := Attributes.powersOfTwo_of_toRegister hsizes
  intro start last
  let parts := elementParts h hstride hdistinct w
  have halike : ∀ schedule, parts.Alike start (start.run Simulator.toBus schedule) :=
    parts.alone ⟨rfl, rfl, hidle.toTended⟩ fun i => (sessions i).asks_program h
  -- running the sessions one after another is a schedule, and it completes them
  have hlast : parts.Alike start last := by
    obtain ⟨schedule, hschedule⟩ := Pool.exists_schedule_inTurn Simulator.toBus order start
    rw [show last = _ from hschedule.symm]
    exact halike schedule
  have hends : last.Finished := Pool.finished_inTurn horder start
  have hrequests : ∀ schedule, (start.run Simulator.toBus schedule).Finished →
      (start.run Simulator.toBus schedule).programs = last.programs ∧
        (start.run Simulator.toBus schedule).world.bus.contents = last.world.bus.contents := by
    intro schedule hfinished
    obtain ⟨hprograms, hviews, hrest⟩ := (halike schedule).ends_alike hlast hfinished hends
    have hforced := (halike schedule).inv.forced.trans hlast.inv.forced.symm
    exact ⟨hprograms, contents_eq sessions hforced hviews (congrFun hrest)⟩
  refine ⟨fun i => ?_, fun i => ?_, fun steps => ?_, hrequests⟩
  · exact (a.checkedElementWords_ends h _).ends (hwords _ (sessions i).position.2)
  · obtain ⟨report, hreport, hopening⟩ := (sessions i).run_program h hidle
    exact ⟨report, ((hlast.of_finished hends).1 i).1.trans (congrArg done hreport), hopening⟩
  · intro p hclosed
    obtain ⟨schedule, hschedule⟩ := SessionPool.exists_schedule_run Simulator.toBus steps
      ⟨fun _ => .waiting, w⟩
    have hprograms : start.run Simulator.toBus schedule = p.programs := hschedule
    obtain ⟨hsame, hcontents⟩ := hrequests schedule (hprograms ▸ hclosed.finished)
    rw [hprograms] at hsame hcontents
    refine ⟨fun i report hreport => ?_, hcontents⟩
    rw [← hsame]
    exact congrArg (sessions i).rest hreport

/-- Registers that software may only write. -/
def RegisterArray.sinks : RegisterArray where
  layout :=
    { name := "top.sinks"
      address := 0x200
      width := 32
      accessWidth := 32
      fields := [⟨"level", ⟨0, 32, false⟩, .writeOnly, none, none⟩] }
  dimensions := [2]
  stride := 4
  lock := 0

/-- What the description of a register says about the sizes in the array. -/
def sinkAttributes : Attributes :=
  { (default : Attributes) with
    kind := .register
    registerWidth := some 32
    accessWidth := some 32 }

/-- What cannot be read cannot be verified: a session that asks for it does not open, though nothing
else goes on. -/
theorem verified_session_on_sink_is_refused :
    let sessions : Fin 1 → ElementSession .sinks Unit := fun _ =>
      ⟨⟨0, by decide⟩, .verified, [], true⟩
    let w : World Simulator :=
      ⟨.new, (RegisterArray.bind RegisterArray.sinks.layout [2] 4 .empty).2, []⟩
    sinkAttributes.toRegister "top.sinks" =
        .ok ⟨RegisterArray.sinks.layout.width, RegisterArray.sinks.layout.accessWidth⟩ ∧
      RegisterArray.sinks.layout.width / 8 ≤ RegisterArray.sinks.stride ∧
      RegisterArray.sinks.Idle w.locks ∧ (∀ address : ℕ, w.bus.overrides[address]? = none) ∧
      (SessionPool.run Simulator.toBus sessions [0] ⟨fun _ => .waiting, w⟩).stages 0 =
        .closed ⟨.error (.accessDenied "top.sinks[0]" .read), [], .ok ()⟩ :=
  ⟨rfl, by decide, RegisterArray.idle_bind RegisterArray.sinks.layout [2] 4 .empty,
    fun _ => by simp [Simulator.new], rfl⟩

open RegisterArray in
/-- Two sessions that take turns, one verified: both open, both are closed in the end, and the array
then holds what it holds when the second session is run first, or the first. -/
theorem sessions_on_grid_commute :
    let sessions : Fin 2 → ElementSession grid Unit :=
      ![⟨⟨1, by decide⟩, .plain, [fun copy => .ok (copy + 5, ())], true⟩,
        ⟨⟨4, by decide⟩, .verified, [fun copy => .ok (copy + 0x60000, ())], true⟩]
    let w : World Simulator := ⟨.new, (bind grid.layout [2, 3] 6 .empty).2, []⟩
    let p := SessionPool.run Simulator.toBus sessions [0, 1, 1, 0, 0, 1] ⟨fun _ => .waiting, w⟩
    let start : Pool Simulator (Fin 2) (SessionReport Unit) :=
      ⟨fun i => (sessions i).program, w⟩
    let last := Pool.inTurn Simulator.toBus [1, 0] start
    (∀ i, ∃ report, p.stages i = .closed report ∧ report.opening =
        .ok ((grid.elementLayout (sessions i).position).valueIn w.bus.contents)) ∧
      p.world.bus.contents = last.world.bus.contents ∧
      (Pool.inTurn Simulator.toBus [0, 1] start).world.bus.contents = last.world.bus.contents := by
  intro sessions w
  have hsizes : gridAttributes.toRegister "top.grid" =
      .ok ⟨grid.layout.width, grid.layout.accessWidth⟩ := rfl
  obtain ⟨-, hreports, hsteps, hrequests⟩ := element_sessions_commute hsizes (by decide) (by decide)
    sessions (by decide) w (idle_bind grid.layout [2, 3] 6 .empty) [1, 0] (by decide)
  have hclosed : (SessionPool.run Simulator.toBus sessions [0, 1, 1, 0, 0, 1]
      ⟨fun _ => .waiting, w⟩).Closed := SessionPool.closed_run (by decide)
  obtain ⟨hlast, hcontents⟩ := hsteps _ hclosed
  -- running the first session first is a schedule too
  obtain ⟨schedule, hschedule⟩ := Pool.exists_schedule_inTurn Simulator.toBus [0, 1]
    ⟨fun i => (sessions i).program, w⟩
  have hfinished : (Pool.run Simulator.toBus schedule
      ⟨fun i => (sessions i).program, w⟩).Finished := by
    rw [hschedule]
    exact Pool.finished_inTurn (by decide) _
  have hother := (hrequests schedule hfinished).2
  rw [hschedule] at hother
  refine ⟨fun i => ?_, hcontents, hother⟩
  obtain ⟨report, hstage⟩ := hclosed i
  obtain ⟨report', hreport', hopening⟩ := hreports i
  cases (hlast i report hstage).symm.trans hreport'
  exact ⟨report, hstage, hopening⟩

end RegisterMap
