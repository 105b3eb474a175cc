import MeetingPlatform.Lib.CallPool
import MeetingPlatform.Lib.Table

/- Scans of tables that only grow. A scan loads a watermark for each stream of events, asks its
   queries one by one for later events, and saves the largest time it has seen. -/
namespace WatermarkScans
open KeyedTable LabelledRuns CallPools
variable {Event Query Stream : Type}

/-- `queries` are what a scan asks, `streams` the watermarks it loads and saves, in this order. -/
structure Scheme (Event Query Stream : Type) where
  time : Event → Int
  stream : Event → Stream
  picks : Query → Event → Bool
  source : Query → Stream
  queries : List Query
  streams : List Stream
  sourced : ∀ q e, picks q e = true → stream e = source q
  once : streams.Nodup
  covered : ∀ q ∈ queries, source q ∈ streams

/-- `evaluated` has each event that a query has given, with that query. -/
structure Store (Event Query Stream : Type) where
  events : Table Event
  marks : Stream → Option Int
  evaluated : List (Query × Nat)

/-- What a scan has still to do, the watermarks it has loaded, and the largest times it has seen. -/
structure Scan (Query Stream : Type) where
  toLoad : List Stream
  toAsk : List Query
  toSave : List Stream
  loaded : Stream → Option Int
  tops : Stream → Option Int

inductive Call (Event Query Stream : Type) where
  | inserting (e : Event)
  | scanning (c : Scan Query Stream)

inductive Request (Event : Type) where
  | insert (e : Event)
  | scan
  deriving DecidableEq

section Model
variable [DecidableEq Stream] (v : Scheme Event Query Stream)

def Scheme.begin : Scan Query Stream := ⟨v.streams, v.queries, v.streams, fun _ => none, fun _ => none⟩

/-- Where no watermark is stored yet, the present instant is, and is saved at once. -/
def loadMark (s : Store Event Query Stream) (now : Int) (c : Scan Query Stream) (σ : Stream)
    (rest : List Stream) : Store Event Query Stream × Scan Query Stream :=
  let mark := (s.marks σ).getD now
  ({ s with marks := Function.update s.marks σ (some mark) },
    { c with
      toLoad := rest
      loaded := Function.update c.loaded σ (some mark)
      tops := Function.update c.tops σ (some mark) })

def Scheme.finds (s : Store Event Query Stream) (c : Scan Query Stream) (q : Query) :
    List (Nat × Event) :=
  s.events.select fun r => v.picks q r.2 && (c.loaded (v.source q)).any fun mark => mark < v.time r.2

def Scheme.ask (s : Store Event Query Stream) (c : Scan Query Stream) (q : Query) (rest : List Query) :
    Store Event Query Stream × Scan Query Stream :=
  let found := v.finds s c q
  ({ s with evaluated := s.evaluated ++ found.map fun r => (q, r.1) },
    { c with
      toAsk := rest
      tops := Function.update c.tops (v.source q)
        ((c.tops (v.source q)).map fun top => (found.map fun r => v.time r.2).foldl max top) })

def saveMark (s : Store Event Query Stream) (c : Scan Query Stream) (σ : Stream) :
    Store Event Query Stream :=
  match c.tops σ with
  | some top => { s with marks := Function.update s.marks σ (some top) }
  | none => s

def Scheme.access (s : Store Event Query Stream) (now : Int) :
    Call Event Query Stream → Store Event Query Stream × Option (Call Event Query Stream)
  | .inserting e => ({ s with events := s.events.insert e }, none)
  | .scanning c =>
    match c.toLoad, c.toAsk, c.toSave with
    | σ :: rest, _, _ => ((loadMark s now c σ rest).1, some (.scanning (loadMark s now c σ rest).2))
    | [], q :: rest, _ => ((v.ask s c q rest).1, some (.scanning (v.ask s c q rest).2))
    | [], [], σ :: rest => (saveMark s c σ, some (.scanning { c with toSave := rest }))
    | [], [], [] => (s, none)

def Scheme.service : Service (Store Event Query Stream) (Call Event Query Stream) (Request Event) where
  clock _ := 0
  admits _ _ := True
  enter _
    | .insert e => .inserting e
    | .scan => .scanning v.begin
  act now c s := v.access s now c

instance (s : Store Event Query Stream) (r : Request Event) : Decidable (v.service.admits s r) :=
  inferInstanceAs (Decidable True)

end Model

section Handling
variable (v : Scheme Event Query Stream) (due : Query → Event → Prop) (since : Stream → Int)

abbrev ScanPool (Event Query Stream : Type) := Pool (Store Event Query Stream) (Call Event Query Stream)

/-- The scan is still going to ask the query, and finds the event if it is there by then. -/
def Awaits (c : Scan Query Stream) (q : Query) (e : Event) : Prop :=
  q ∈ c.toAsk ∧ ∃ mark ∈ c.loaded (v.stream e), mark < v.time e

def Awaited (p : ScanPool Event Query Stream) (q : Query) (e : Event) : Prop :=
  ∃ i c, p.calls i = some (.scanning c) ∧ Awaits v c q e

def Ahead (s : Store Event Query Stream) (q : Query) (e : Event) : Prop :=
  q ∈ v.queries ∧ ∃ mark ∈ s.marks (v.stream e), mark < v.time e

def Evaluated (s : Store Event Query Stream) (q : Query) (r : Nat × Event) : Prop :=
  (q, r.1) ∈ s.evaluated

instance [DecidableEq Query] (s : Store Event Query Stream) (q : Query) (r : Nat × Event) :
    Decidable (Evaluated s q r) := inferInstanceAs (Decidable ((q, r.1) ∈ s.evaluated))

def Handled (p : ScanPool Event Query Stream) (q : Query) (r : Nat × Event) : Prop :=
  Evaluated p.shared q r ∨ Awaited v p q r.2 ∨ Ahead v p.shared q r.2

/-- An event to be evaluated that is later than the first watermark of its stream. -/
def Owed (q : Query) (e : Event) : Prop := due q e ∧ since (v.stream e) < v.time e

/-- Each event that is owed has been evaluated, or is going to be by a scan that is under way, or by
    the next one. -/
def NoneMissed (p : ScanPool Event Query Stream) : Prop :=
  ∀ q, ∀ r ∈ p.shared.events.rows, Owed v due since q r.2 → Handled v p q r

/-- The call inserts an event that is neither behind its watermark nor out of every query, or saves a
    watermark that leaves nothing behind. -/
def CallTimely (p : ScanPool Event Query Stream) : Call Event Query Stream → Prop
  | .inserting e => ∀ q, Owed v due since q e → Awaited v p q e ∨ Ahead v p.shared q e
  | .scanning c =>
    match c.toLoad, c.toAsk, c.toSave with
    | [], [], σ :: _ => ∀ top ∈ c.tops σ, ∀ q, ∀ r ∈ p.shared.events.rows, Owed v due since q r.2 →
        v.stream r.2 = σ → v.time r.2 ≤ top → Evaluated p.shared q r ∨ Awaited v p q r.2
    | _, _, _ => True

def Timely (p : ScanPool Event Query Stream) : Turn (Request Event) → Prop
  | .enter _ _ => True
  | .act i _ => ∀ c, p.calls i = some c → CallTimely v due since p c

end Handling

section Soundness
variable [DecidableEq Stream] {v : Scheme Event Query Stream}

def CallFits : Call Event Query Stream → Prop
  | .inserting _ => True
  | .scanning c => c.toLoad.Nodup ∧ ∀ σ ∈ c.toLoad, c.loaded σ = none

def Known (s : Store Event Query Stream) : Prop := ∀ x ∈ s.evaluated, x.2 < s.events.next

theorem ask_known {s : Store Event Query Stream} (known : Known s) (c : Scan Query Stream) (q : Query)
    (rest : List Query) : Known (v.ask s c q rest).1 := by
  intro x there
  rcases List.mem_append.mp there with old | new
  · exact known x old
  · obtain ⟨r, found, rfl⟩ := List.mem_map.mp new
    exact row_below _ (mem_select.mp found).1

inductive AccessCase (v : Scheme Event Query Stream) (s : Store Event Query Stream) (now : Int) :
    Call Event Query Stream → Store Event Query Stream × Option (Call Event Query Stream) → Prop where
  | inserts (e : Event) : AccessCase v s now (.inserting e) ({ s with events := s.events.insert e }, none)
  | loads (c : Scan Query Stream) (σ : Stream) (rest : List Stream) (left : c.toLoad = σ :: rest) :
      AccessCase v s now (.scanning c)
        ((loadMark s now c σ rest).1, some (.scanning (loadMark s now c σ rest).2))
  | asks (c : Scan Query Stream) (q : Query) (rest : List Query) (loaded : c.toLoad = [])
      (left : c.toAsk = q :: rest) :
      AccessCase v s now (.scanning c) ((v.ask s c q rest).1, some (.scanning (v.ask s c q rest).2))
  | saves (c : Scan Query Stream) (σ : Stream) (rest : List Stream) (loaded : c.toLoad = [])
      (asked : c.toAsk = []) (left : c.toSave = σ :: rest) :
      AccessCase v s now (.scanning c) (saveMark s c σ, some (.scanning { c with toSave := rest }))
  | ends (c : Scan Query Stream) (loaded : c.toLoad = []) (asked : c.toAsk = []) (saved : c.toSave = []) :
      AccessCase v s now (.scanning c) (s, none)

theorem access_cases (s : Store Event Query Stream) (now : Int) (c : Call Event Query Stream) :
    AccessCase v s now c (v.access s now c) := by
  cases c with
  | inserting e => exact .inserts e
  | scanning c =>
    obtain ⟨toLoad, toAsk, toSave, loaded, tops⟩ := c
    cases toLoad with
    | cons σ rest => exact .loads _ σ rest rfl
    | nil =>
      cases toAsk with
      | cons q rest => exact .asks _ q rest rfl rfl
      | nil =>
        cases toSave with
        | cons σ rest => exact .saves _ σ rest rfl rfl rfl
        | nil => exact .ends _ rfl rfl rfl

theorem scans_keep : Keeps v.service Known (fun _ => CallFits) (fun _ _ => True)
    (fun _ _ _ => True) where
  symm _ _ _ := trivial
  enters s r _ _ := by
    cases r with
    | insert e => trivial
    | scan => exact ⟨v.once, fun _ _ => rfl⟩
  alone _ _ _ _ _ _ := trivial
  inv s now c known _ _ _ := by
    change Known (v.access s now c).1
    have how := access_cases (v := v) s now c
    generalize v.access s now c = after at how
    cases how with
    | inserts e => exact fun x there => Nat.lt_succ_of_lt (known x there)
    | loads => exact known
    | asks c q rest => exact ask_known known c q rest
    | saves c σ =>
      unfold saveMark
      split
      · exact known
      · exact known
    | ends => exact known
  next s now c c' _ fits _ _ goes := by
    have how := access_cases (v := v) s now c
    change (v.access s now c).2 = some c' at goes
    generalize v.access s now c = after at how goes
    cases how with
    | inserts e => cases goes
    | loads c σ rest left =>
      cases goes
      obtain ⟨nodup, unloaded⟩ := fits
      rw [left] at nodup unloaded
      obtain ⟨other, rest_nodup⟩ := List.nodup_cons.mp nodup
      refine ⟨rest_nodup, ?_⟩
      intro τ there
      have apart : τ ≠ σ := fun same => other (same ▸ there)
      exact (Function.update_of_ne apart _ _).trans (unloaded τ (List.mem_cons_of_mem σ there))
    | asks c q rest =>
      cases goes
      exact fits
    | saves c σ rest =>
      cases goes
      exact fits
    | ends => cases goes
  others _ _ _ _ _ _ fits _ _ _ := fits
  still_apart _ _ _ _ _ _ _ _ _ _ _ _ := trivial

abbrev ScansSound : ScanPool Event Query Stream → Prop :=
  Sound Known (fun _ => CallFits) (fun _ _ => True)

theorem scansSound_step {p q : ScanPool Event Query Stream} {turn : Turn (Request Event)}
    (sound : ScansSound p) (step : Step v.service p turn q) : ScansSound q :=
  sound_kept scans_keep sound step

end Soundness

section Waiting
variable {v : Scheme Event Query Stream} {p p' : ScanPool Event Query Stream}
  {s : Store Event Query Stream} {calls : Nat → Option (Call Event Query Stream)} {i : Nat}
  {rest : Option (Call Event Query Stream)} {q : Query} {e : Event} {r : Nat × Event}
  {turn : Turn (Request Event)}

/-- Some call other than the `i`-th awaits the event. -/
def AwaitedApart (v : Scheme Event Query Stream) (calls : Nat → Option (Call Event Query Stream))
    (i : Nat) (q : Query) (e : Event) : Prop :=
  ∃ j ≠ i, ∃ c, calls j = some (.scanning c) ∧ Awaits v c q e

theorem awaited_split : Awaited v p q e ↔
    (∃ c, p.calls i = some (.scanning c) ∧ Awaits v c q e) ∨ AwaitedApart v p.calls i q e := by
  constructor
  · rintro ⟨j, c, found, awaits⟩
    by_cases same : j = i
    · subst same
      exact Or.inl ⟨c, found, awaits⟩
    · exact Or.inr ⟨j, same, c, found, awaits⟩
  · rintro (⟨c, found, awaits⟩ | ⟨j, -, c, found, awaits⟩)
    · exact ⟨i, c, found, awaits⟩
    · exact ⟨j, c, found, awaits⟩

theorem awaited_update : Awaited v ⟨s, Function.update calls i rest⟩ q e ↔
    (∃ c, rest = some (.scanning c) ∧ Awaits v c q e) ∨ AwaitedApart v calls i q e := by
  rw [awaited_split (i := i)]
  dsimp only
  rw [Function.update_self]
  refine or_congr Iff.rfl ?_
  constructor
  · rintro ⟨j, other, c, found, awaits⟩
    exact ⟨j, other, c, by rwa [Function.update_of_ne other] at found, awaits⟩
  · rintro ⟨j, other, c, found, awaits⟩
    exact ⟨j, other, c, by rwa [Function.update_of_ne other], awaits⟩

theorem not_awaits {c : Scan Query Stream} (asked : c.toAsk = []) : ¬ Awaits v c q e := by
  rintro ⟨left, -⟩
  rw [asked] at left
  cases left

theorem awaited_apart {call : Call Event Query Stream} (waiting : p.calls i = some call)
    (idle : ∀ c, call = .scanning c → c.toAsk = []) {q : Query} {e : Event} :
    Awaited v p q e ↔ AwaitedApart v p.calls i q e := by
  rw [awaited_split (i := i)]
  refine or_iff_right ?_
  rintro ⟨c, found, awaits⟩
  rw [waiting, Option.some.injEq] at found
  exact not_awaits (idle c found) awaits

variable [DecidableEq Stream]

theorem load_awaits {c : Scan Query Stream} {now : Int} {σ : Stream} {left : List Stream}
    (fits : CallFits (.scanning c : Call Event Query Stream)) (here : c.toLoad = σ :: left) (awaits : Awaits v c q e) :
    Awaits v (loadMark s now c σ left).2 q e := by
  obtain ⟨asks, mark, loaded, later⟩ := awaits
  refine ⟨asks, mark, ?_, later⟩
  have apart : v.stream e ≠ σ := by
    intro same
    have unloaded := fits.2 σ (by rw [here]; exact List.mem_cons_self)
    rw [same, unloaded] at loaded
    cases loaded
  exact (Function.update_of_ne apart _ _).trans loaded

theorem ask_found {c : Scan Query Stream} {q₀ : Query} {left : List Query} (here : c.toAsk = q₀ :: left)
    (there : r ∈ s.events.rows) (picked : v.picks q r.2 = true) (awaits : Awaits v c q r.2) :
    Evaluated (v.ask s c q₀ left).1 q r ∨ Awaits v (v.ask s c q₀ left).2 q r.2 := by
  obtain ⟨asks, mark, loaded, later⟩ := awaits
  rw [here] at asks
  rcases List.mem_cons.mp asks with rfl | still
  · refine Or.inl (List.mem_append.mpr (Or.inr (List.mem_map.mpr ⟨r, ?_, rfl⟩)))
    refine mem_select.mpr ⟨there, ?_⟩
    rw [v.sourced q r.2 picked] at loaded
    rw [picked, Option.mem_def.mp loaded, Bool.true_and]
    exact decide_eq_true later
  · exact Or.inr ⟨still, mark, loaded, later⟩

theorem awaited_step (sound : ScansSound p) (step : Step v.service p turn p')
    (there : r ∈ p.shared.events.rows) (picked : v.picks q r.2 = true) (awaited : Awaited v p q r.2) :
    Evaluated p'.shared q r ∨ Awaited v p' q r.2 := by
  cases step with
  | @enter i request free admitted =>
    rcases (awaited_split (i := i)).mp awaited with ⟨c, found, -⟩ | apart
    · rw [free] at found
      cases found
    · exact Or.inr (awaited_update.mpr (Or.inr apart))
  | @act i now c waiting order =>
    rcases (awaited_split (i := i)).mp awaited with ⟨scan, found, awaits⟩ | apart
    · rw [waiting] at found
      cases found
      have fits : CallFits (.scanning scan) := sound.fits i _ waiting
      have how := access_cases (v := v) p.shared now (.scanning scan)
      change Evaluated (v.access p.shared now _).1 q r ∨
        Awaited v ⟨_, Function.update p.calls i (v.access p.shared now _).2⟩ q r.2
      generalize v.access p.shared now (.scanning scan) = after at how
      cases how with
      | loads _ σ left here =>
        exact Or.inr (awaited_update.mpr (Or.inl ⟨_, rfl, load_awaits fits here awaits⟩))
      | asks _ q₀ left loaded here =>
        rcases ask_found here there picked awaits with done | still
        · exact Or.inl done
        · exact Or.inr (awaited_update.mpr (Or.inl ⟨_, rfl, still⟩))
      | saves _ σ left loaded asked here => exact absurd awaits (not_awaits asked)
      | ends _ loaded asked saved => exact absurd awaits (not_awaits asked)
    · exact Or.inr (awaited_update.mpr (Or.inr apart))

theorem stored_step (step : Step v.service p turn p') (there : r ∈ p.shared.events.rows) :
    r ∈ p'.shared.events.rows := by
  cases step with
  | enter free admitted => exact there
  | @act i now c waiting order =>
    change r ∈ (v.access p.shared now c).1.events.rows
    have how := access_cases (v := v) p.shared now c
    generalize v.access p.shared now c = after at how
    cases how with
    | inserts e => exact mem_insert.mpr (Or.inl there)
    | loads => exact there
    | asks => exact there
    | saves c σ =>
      unfold saveMark
      split
      · exact there
      · exact there
    | ends => exact there

theorem evaluated_step (step : Step v.service p turn p') (done : Evaluated p.shared q r) :
    Evaluated p'.shared q r := by
  cases step with
  | enter free admitted => exact done
  | @act i now c waiting order =>
    change Evaluated (v.access p.shared now c).1 q r
    have how := access_cases (v := v) p.shared now c
    generalize v.access p.shared now c = after at how
    cases how with
    | inserts e => exact done
    | loads => exact done
    | asks => exact List.mem_append.mpr (Or.inl done)
    | saves c σ =>
      unfold saveMark
      split
      · exact done
      · exact done
    | ends => exact done

end Waiting

section Missing
variable {v : Scheme Event Query Stream} {due : Query → Event → Prop}
  {since : Stream → Int} {p p' : ScanPool Event Query Stream} {turn : Turn (Request Event)}

theorem insert_iff {i : Nat} {e : Event} (sound : ScansSound p) (waiting : p.calls i = some (.inserting e))
    (after : p' = ⟨{ p.shared with events := p.shared.events.insert e }, Function.update p.calls i none⟩)
    (kept : ∀ q, ∀ r ∈ p.shared.events.rows, Owed v due since q r.2 → Handled v p' q r) :
    NoneMissed v due since p' ↔ ∀ q, Owed v due since q e → Awaited v p q e ∨ Ahead v p.shared q e := by
  have awaited : ∀ q, Awaited v p' q e ↔ Awaited v p q e := by
    intro q
    rw [awaited_apart waiting (fun c contrary => by cases contrary), after, awaited_update]
    refine or_iff_right ?_
    rintro ⟨c, contrary, -⟩
    cases contrary
  have ahead : ∀ q, Ahead v p'.shared q e ↔ Ahead v p.shared q e := by
    intro q
    rw [after]
    rfl
  constructor
  · intro none q owed
    have new : (p.shared.events.next, e) ∈ p'.shared.events.rows := by
      rw [after]
      exact mem_insert.mpr (Or.inr rfl)
    rcases none q _ new owed with done | handled
    · have before : (q, p.shared.events.next) ∈ p.shared.evaluated := by
        rwa [Evaluated, after] at done
      exact absurd (sound.shared _ before) (Nat.lt_irrefl _)
    · rwa [awaited, ahead] at handled
  · intro timely q r there owed
    rw [after] at there
    rcases mem_insert.mp there with old | rfl
    · exact kept q r old owed
    · refine Or.inr ?_
      rw [awaited, ahead]
      exact timely q owed

theorem none_missed_of_quiet
    (kept : ∀ q, ∀ r ∈ p.shared.events.rows, Owed v due since q r.2 →
      (Ahead v p.shared q r.2 → Handled v p' q r) → Handled v p' q r)
    (rows : p'.shared.events = p.shared.events)
    (quiet : ∀ q e, Ahead v p.shared q e → Ahead v p'.shared q e) : NoneMissed v due since p' := by
  intro q r there owed
  rw [rows] at there
  exact kept q r there owed fun ahead => Or.inr (Or.inr (quiet q r.2 ahead))

variable [DecidableEq Stream]

theorem load_ahead {s : Store Event Query Stream} {now : Int} {c : Scan Query Stream} {σ : Stream}
    {left : List Stream} {q : Query} {e : Event} (ahead : Ahead v s q e) :
    Ahead v (loadMark s now c σ left).1 q e := by
  obtain ⟨asked, mark, stored, later⟩ := ahead
  refine ⟨asked, mark, ?_, later⟩
  change Function.update s.marks σ (some ((s.marks σ).getD now)) (v.stream e) = some mark
  by_cases same : v.stream e = σ
  · subst same
    rw [Function.update_self, Option.mem_def.mp stored]
    rfl
  · rw [Function.update_of_ne same]
    exact stored

theorem save_ahead {s : Store Event Query Stream} {c : Scan Query Stream} {σ : Stream} {q : Query}
    {e : Event} (ahead : Ahead v s q e)
    (later : ∀ top ∈ c.tops σ, v.stream e = σ → top < v.time e) : Ahead v (saveMark s c σ) q e := by
  unfold saveMark
  split
  · rename_i top seen
    obtain ⟨asked, mark, stored, before⟩ := ahead
    by_cases same : v.stream e = σ
    · subst same
      exact ⟨asked, top, Function.update_self .., later top seen rfl⟩
    · exact ⟨asked, mark, (Function.update_of_ne same _ _).trans stored, before⟩
  · exact ahead

theorem still_handled (picks : ∀ q e, due q e → v.picks q e = true) (sound : ScansSound p)
    (none : NoneMissed v due since p) (step : Step v.service p turn p') {q : Query} {r : Nat × Event}
    (there : r ∈ p.shared.events.rows) (owed : Owed v due since q r.2)
    (ahead : Ahead v p.shared q r.2 → Handled v p' q r) : Handled v p' q r := by
  rcases none q r there owed with done | awaited | next
  · exact Or.inl (evaluated_step step done)
  · exact (awaited_step sound step there (picks q r.2 owed.1) awaited).imp id Or.inl
  · exact ahead next

theorem save_iff {i : Nat} {c : Scan Query Stream} {σ : Stream} {left : List Stream} (waiting : p.calls i = some (.scanning c))
    (asked : c.toAsk = [])
    (after : p' = ⟨saveMark p.shared c σ, Function.update p.calls i (some (.scanning { c with toSave := left }))⟩)
    (kept : ∀ q, ∀ r ∈ p.shared.events.rows, Owed v due since q r.2 →
      (Ahead v p.shared q r.2 → Handled v p' q r) → Handled v p' q r) :
    NoneMissed v due since p' ↔ ∀ top ∈ c.tops σ, ∀ q, ∀ r ∈ p.shared.events.rows,
      Owed v due since q r.2 → v.stream r.2 = σ → v.time r.2 ≤ top →
        Evaluated p.shared q r ∨ Awaited v p q r.2 := by
  have awaited : ∀ q e, Awaited v p' q e ↔ Awaited v p q e := by
    intro q e
    have idle : ∀ c', (.scanning c : Call Event Query Stream) = .scanning c' → c'.toAsk = [] := by
      rintro c' ⟨⟩
      exact asked
    rw [awaited_apart waiting idle, after, awaited_update]
    refine or_iff_right ?_
    rintro ⟨c', same, awaits⟩
    cases same
    exact not_awaits asked awaits
  have shared : p'.shared = saveMark p.shared c σ := by rw [after]
  have rows : p'.shared.events = p.shared.events := by
    rw [shared, saveMark]
    split
    · rfl
    · rfl
  have evaluated : p'.shared.evaluated = p.shared.evaluated := by
    rw [shared, saveMark]
    split
    · rfl
    · rfl
  constructor
  · intro none top seen q r there owed same reached
    rcases none q r (rows ▸ there) owed with done | waits | ⟨-, mark, stored, later⟩
    · rw [Evaluated, evaluated] at done
      exact Or.inl done
    · exact Or.inr ((awaited q r.2).mp waits)
    · have saved : p'.shared.marks (v.stream r.2) = some top := by
        rw [shared, saveMark, Option.mem_def.mp seen, same]
        exact Function.update_self ..
      rw [Option.mem_def, saved, Option.some.injEq] at stored
      omega
  · intro timely q r there owed
    rw [rows] at there
    refine kept q r there owed fun ahead => ?_
    by_cases behind : ∃ top ∈ c.tops σ, v.stream r.2 = σ ∧ v.time r.2 ≤ top
    · obtain ⟨top, seen, same, reached⟩ := behind
      rcases timely top seen q r there owed same reached with done | waits
      · rw [Evaluated, ← evaluated] at done
        exact Or.inl done
      · exact Or.inr (Or.inl ((awaited q r.2).mpr waits))
    · refine Or.inr (Or.inr ?_)
      rw [shared]
      refine save_ahead ahead fun top seen same => ?_
      by_contra reached
      exact behind ⟨top, seen, same, Int.not_lt.mp reached⟩

theorem missed_step (picks : ∀ q e, due q e → v.picks q e = true) (sound : ScansSound p)
    (none : NoneMissed v due since p) (step : Step v.service p turn p') :
    NoneMissed v due since p' ↔ Timely v due since p turn := by
  have kept : ∀ q, ∀ r ∈ p.shared.events.rows, Owed v due since q r.2 →
      (Ahead v p.shared q r.2 → Handled v p' q r) → Handled v p' q r :=
    fun q r there owed ahead => still_handled picks sound none step there owed ahead
  cases step with
  | @enter i request free admitted =>
    exact iff_of_true (none_missed_of_quiet kept rfl fun _ _ ahead => ahead) trivial
  | @act i now c waiting order =>
    have timely : Timely v due since p (.act i now) ↔ CallTimely v due since p c := by
      constructor
      · intro all
        exact all c waiting
      · intro here c' found
        rw [waiting] at found
        cases found
        exact here
    rw [timely]
    have how := access_cases (v := v) p.shared now c
    generalize same : (⟨(v.service.act now c p.shared).1,
      Function.update p.calls i (v.service.act now c p.shared).2⟩ : ScanPool Event Query Stream) = after at kept ⊢
    change (⟨(v.access p.shared now c).1, Function.update p.calls i (v.access p.shared now c).2⟩ :
      ScanPool Event Query Stream) = after at same
    generalize v.access p.shared now c = result at how same
    cases how with
    | inserts e =>
      refine insert_iff sound waiting same.symm fun q r there owed => kept q r there owed fun ahead => ?_
      rw [← same]
      exact Or.inr (Or.inr ahead)
    | loads c σ left here =>
      have rows : after.shared.events = p.shared.events := by
        rw [← same]
        rfl
      have quiet : ∀ q e, Ahead v p.shared q e → Ahead v after.shared q e := by
        rw [← same]
        intro q e ahead
        exact (load_ahead ahead : Ahead v (loadMark p.shared now c σ left).1 q e)
      refine iff_of_true (none_missed_of_quiet kept rows quiet) ?_
      simp only [CallTimely, here]
    | asks c q₀ left loaded here =>
      have rows : after.shared.events = p.shared.events := by
        rw [← same]
        rfl
      have quiet : ∀ q e, Ahead v p.shared q e → Ahead v after.shared q e := by
        rw [← same]
        exact fun q e ahead => ahead
      refine iff_of_true (none_missed_of_quiet kept rows quiet) ?_
      simp only [CallTimely, loaded, here]
    | saves c σ left loaded asked here =>
      have saved := save_iff waiting asked same.symm kept
      simpa only [CallTimely, loaded, asked, here] using saved
    | ends c loaded asked saved =>
      have unchanged : after.shared = p.shared := by rw [← same]
      refine iff_of_true (none_missed_of_quiet kept (congrArg Store.events unchanged) ?_) ?_
      · intro q e ahead
        rw [unchanged]
        exact ahead
      · simp only [CallTimely, loaded, asked, saved]

end Missing

section Runs
variable {v : Scheme Event Query Stream} {due : Query → Event → Prop} {since : Stream → Int}
  {s : Store Event Query Stream} {p p' t : ScanPool Event Query Stream}
  {moves more : List (Move (ScanPool Event Query Stream) (Turn (Request Event)))}
  {turn : Turn (Request Event)} {q : Query} {r : Nat × Event} {begun : Prop}

/-- Nothing has been evaluated yet, and the first watermarks are past what is stored. -/
structure Fresh (since : Stream → Int) (v : Scheme Event Query Stream) (s : Store Event Query Stream) :
    Prop where
  marks : ∀ σ, s.marks σ = some (since σ)
  evaluated : s.evaluated = []
  behind : ∀ r ∈ s.events.rows, v.time r.2 ≤ since (v.stream r.2)

theorem fresh_sound (fresh : Fresh since v s) : ScansSound (Pool.idle s) := by
  refine sound_idle ?_
  intro x there
  rw [fresh.evaluated] at there
  cases there

theorem fresh_none (fresh : Fresh since v s) : NoneMissed v due since (Pool.idle s) := by
  intro q r there owed
  exact absurd (fresh.behind r there) (Int.not_le.mpr owed.2)

def Quiet (p : ScanPool Event Query Stream) : Prop := ∀ i c, p.calls i ≠ some (.scanning c)

def Begins : Turn (Request Event) → Prop
  | .enter _ .scan => True
  | _ => False

def Loading (v : Scheme Event Query Stream) (p : ScanPool Event Query Stream) (q : Query) (e : Event) : Prop :=
  ∃ i c, p.calls i = some (.scanning c) ∧ v.stream e ∈ c.toLoad ∧ q ∈ c.toAsk

def Promised (v : Scheme Event Query Stream) (p : ScanPool Event Query Stream) (q : Query)
    (r : Nat × Event) (begun : Prop) : Prop :=
  Evaluated p.shared q r ∨ Awaited v p q r.2 ∨ Ahead v p.shared q r.2 ∧ (begun → Loading v p q r.2)

variable [DecidableEq Stream]

theorem none_missed_iff (picks : ∀ q e, due q e → v.picks q e = true) (fresh : Fresh since v s)
    (run : Run (Step v.service) (Pool.idle s) moves t) :
    (∀ p ∈ visited (Pool.idle s) moves, NoneMissed v due since p) ↔ Heeds (Timely v due since) moves :=
  states_safe_iff ScansSound (NoneMissed v due since) run (fresh_sound fresh) (fresh_none fresh)
    scansSound_step fun sound none step => missed_step picks sound none step

theorem loading_step (step : Step v.service p turn p') (picked : v.picks q r.2 = true)
    (ahead : Ahead v p.shared q r.2) (loading : begun → Loading v p q r.2) :
    Awaited v p' q r.2 ∨ (begun ∨ Begins turn → Loading v p' q r.2) := by
  cases step with
  | @enter i request free admitted =>
    refine Or.inr ?_
    rintro (before | begins)
    · obtain ⟨j, c, found, rest⟩ := loading before
      have other : j ≠ i := by
        rintro rfl
        rw [free] at found
        cases found
      exact ⟨j, c, (Function.update_of_ne other _ _).trans found, rest⟩
    · cases request with
      | insert e => exact begins.elim
      | scan =>
        refine ⟨i, v.begin, Function.update_self .., ?_, ahead.1⟩
        rw [v.sourced q r.2 picked]
        exact v.covered q ahead.1
  | @act i now call waiting order =>
    by_cases before : begun
    · obtain ⟨j, c, found, left, asks⟩ := loading before
      by_cases other : j = i
      · subst other
        rw [waiting, Option.some.injEq] at found
        subst found
        have how := access_cases (v := v) p.shared now (.scanning c)
        change Awaited v ⟨_, Function.update p.calls j (v.access p.shared now _).2⟩ q r.2 ∨
          (begun ∨ False → Loading v ⟨_, Function.update p.calls j (v.access p.shared now _).2⟩ q r.2)
        generalize v.access p.shared now (.scanning c) = after at how
        cases how with
        | loads _ σ rest here =>
          rw [here] at left
          rcases List.mem_cons.mp left with same | later
          · obtain ⟨-, mark, stored, before⟩ := ahead
            refine Or.inl (awaited_update.mpr (Or.inl ⟨_, rfl, asks, mark, ?_, before⟩))
            rw [same] at stored ⊢
            refine (Function.update_self ..).trans ?_
            rw [Option.mem_def.mp stored]
            rfl
          · exact Or.inr fun _ => ⟨j, _, Function.update_self .., later, asks⟩
        | asks _ q₀ rest loaded =>
          rw [loaded] at left
          cases left
        | saves _ σ rest loaded =>
          rw [loaded] at left
          cases left
        | ends _ loaded =>
          rw [loaded] at left
          cases left
      · exact Or.inr fun _ => ⟨j, c, (Function.update_of_ne other _ _).trans found, left, asks⟩
    · refine Or.inr ?_
      rintro (contrary | contrary)
      · exact absurd contrary before
      · exact contrary.elim

theorem promised_step (sound : ScansSound p) (step : Step v.service p turn p')
    (there : r ∈ p.shared.events.rows) (picked : v.picks q r.2 = true)
    (promised : Promised v p q r begun) (handled : Handled v p' q r) :
    Promised v p' q r (begun ∨ Begins turn) := by
  rcases promised with done | awaited | ⟨ahead, loading⟩
  · exact Or.inl (evaluated_step step done)
  · exact (awaited_step sound step there picked awaited).imp id Or.inl
  · rcases handled with done | awaited | still
    · exact Or.inl done
    · exact Or.inr (Or.inl awaited)
    · rcases loading_step step picked ahead loading with awaited | goes_on
      · exact Or.inr (Or.inl awaited)
      · exact Or.inr (Or.inr ⟨still, goes_on⟩)

theorem promised_later (picks : ∀ q e, due q e → v.picks q e = true) (fresh : Fresh since v s)
    (run : Run (Step v.service) (Pool.idle s) moves p) (later : Run (Step v.service) p more t)
    (timely : Heeds (Timely v due since) (moves ++ more)) (there : r ∈ p.shared.events.rows)
    (owed : Owed v due since q r.2) :
    (ScansSound t ∧ NoneMissed v due since t) ∧ r ∈ t.shared.events.rows ∧
      Promised v t q r (∃ m ∈ more, Begins m.label) := by
  induction later with
  | nil =>
    rw [List.append_nil] at timely
    have sound := guarded_invariant (fun p => ScansSound p ∧ NoneMissed v due since p) run
      ⟨fresh_sound fresh, fresh_none fresh⟩ timely fun {a l b} both step here =>
        ⟨scansSound_step both.1 step, (missed_step picks both.1 both.2 step).mpr here⟩
    refine ⟨sound, there, ?_⟩
    rcases sound.2 q r there owed with done | awaited | ahead
    · exact Or.inl done
    · exact Or.inr (Or.inl awaited)
    · exact Or.inr (Or.inr ⟨ahead, fun ⟨m, contrary, _⟩ => by cases contrary⟩)
  | @snoc t u l more init last ih =>
    rw [← List.append_assoc, heeds_snoc] at timely
    obtain ⟨⟨sound, none⟩, stored, promised⟩ := ih timely.1
    have none' := (missed_step picks sound none last).mpr timely.2
    have stored' := stored_step last stored
    refine ⟨⟨scansSound_step sound last, none'⟩, stored', ?_⟩
    have next := promised_step sound last stored (picks q r.2 owed.1) promised (none' q r stored' owed)
    rcases next with done | awaited | ⟨ahead, goes_on⟩
    · exact Or.inl done
    · exact Or.inr (Or.inl awaited)
    · refine Or.inr (Or.inr ⟨ahead, ?_⟩)
      rintro ⟨m, here, begins⟩
      apply goes_on
      rcases List.mem_append.mp here with old | new
      · exact Or.inl ⟨m, old, begins⟩
      · rw [List.mem_singleton.mp new] at begins
        exact Or.inr begins

theorem evaluated_after_scan (picks : ∀ q e, due q e → v.picks q e = true) (fresh : Fresh since v s)
    (run : Run (Step v.service) (Pool.idle s) moves p) (later : Run (Step v.service) p more t)
    (timely : Heeds (Timely v due since) (moves ++ more)) (there : r ∈ p.shared.events.rows)
    (owed : Owed v due since q r.2) (scanned : ∃ m ∈ more, Begins m.label) (quiet : Quiet t) :
    Evaluated t.shared q r := by
  obtain ⟨-, -, promised⟩ := promised_later picks fresh run later timely there owed
  rcases promised with done | ⟨i, c, found, -⟩ | ⟨-, goes_on⟩
  · exact done
  · exact absurd found (quiet i c)
  · obtain ⟨i, c, found, -⟩ := goes_on scanned
    exact absurd found (quiet i c)

/-- Whenever a scan has begun and all have ended, what was stored before it began is evaluated. -/
def EvaluatesAll (v : Scheme Event Query Stream) (due : Query → Event → Prop) (since : Stream → Int)
    (start : ScanPool Event Query Stream)
    (moves : List (Move (ScanPool Event Query Stream) (Turn (Request Event)))) : Prop :=
  ∀ front more p t q r, front ++ more <+: moves → Run (Step v.service) start front p →
    Run (Step v.service) p more t → r ∈ p.shared.events.rows → Owed v due since q r.2 →
      (∃ m ∈ more, Begins m.label) → Quiet t → Evaluated t.shared q r

theorem evaluates_all (picks : ∀ q e, due q e → v.picks q e = true) (fresh : Fresh since v s)
    (timely : Heeds (Timely v due since) moves) : EvaluatesAll v due since (Pool.idle s) moves := by
  intro front more p t q r within run later there owed scanned quiet
  have heeds : Heeds (Timely v due since) (front ++ more) := fun m here => timely m (within.subset here)
  exact evaluated_after_scan picks fresh run later heeds there owed scanned quiet

end Runs

section Alone
variable (v : Scheme Event Query Stream) (due : Query → Event → Prop) (since : Stream → Int)
  (listed : List Query)

/-- The condition on a single call, where it is not left to another scan to find an event. `listed`
    are the queries that matter. -/
def TimelyAlone (s : Store Event Query Stream) (_ : Nat) : Call Event Query Stream → Prop
  | .inserting e => ∀ q ∈ listed, Owed v due since q e → Ahead v s q e
  | .scanning c =>
    match c.toLoad, c.toAsk, c.toSave with
    | [], [], σ :: _ => ∀ top ∈ c.tops σ, ∀ q ∈ listed, ∀ r ∈ s.events.rows, Owed v due since q r.2 →
        v.stream r.2 = σ → v.time r.2 ≤ top → Evaluated s q r
    | _, _, _ => True

variable {v due since listed}

instance (q : Query) (e : Event) [Decidable (due q e)] : Decidable (Owed v due since q e) :=
  inferInstanceAs (Decidable (_ ∧ _))

instance [DecidableEq Query] (s : Store Event Query Stream) (q : Query) (e : Event) :
    Decidable (Ahead v s q e) := inferInstanceAs (Decidable (_ ∧ ∃ mark ∈ s.marks (v.stream e), mark < v.time e))

instance [DecidableEq Query] [DecidableEq Stream] [∀ q e, Decidable (due q e)]
    (s : Store Event Query Stream) (now : Nat) (c : Call Event Query Stream) :
    Decidable (TimelyAlone v due since listed s now c) :=
  match c with
  | .inserting e => inferInstanceAs (Decidable (∀ q ∈ listed, Owed v due since q e → Ahead v s q e))
  | .scanning ⟨[], [], σ :: _, _, tops⟩ => inferInstanceAs (Decidable (∀ top ∈ tops σ, ∀ q ∈ listed,
      ∀ r ∈ s.events.rows, Owed v due since q r.2 → v.stream r.2 = σ → v.time r.2 ≤ top → Evaluated s q r))
  | .scanning ⟨[], [], [], _, _⟩ | .scanning ⟨_ :: _, _, _, _, _⟩ | .scanning ⟨[], _ :: _, _, _, _⟩ =>
    inferInstanceAs (Decidable True)

theorem timely_alone {p : ScanPool Event Query Stream} {turn : Turn (Request Event)}
    (all : ∀ q e, due q e → q ∈ listed) (alone : Allows (TimelyAlone v due since listed) p turn) :
    Timely v due since p turn := by
  cases turn with
  | enter i r => trivial
  | act i now =>
    intro c waiting
    have here := alone c waiting
    cases c with
    | inserting e => exact fun q owed => Or.inr (here q (all q e owed.1) owed)
    | scanning c =>
      unfold TimelyAlone at here
      unfold CallTimely
      dsimp only at here ⊢
      split
      · rename_i loaded asked saved
        rw [loaded, asked, saved] at here
        intro top seen q r there owed same reached
        exact Or.inl (here top seen q (all q r.2 owed.1) r there owed same reached)
      · trivial

theorem follows_timely [DecidableEq Stream] {p : ScanPool Event Query Stream}
    {turns : List (Turn (Request Event))} (all : ∀ q e, due q e → q ∈ listed)
    (follows : Follows v.service (TimelyAlone v due since listed) p turns) :
    ∃ moves, Run (Step v.service) p moves (turns.foldl (Pool.after v.service) p) ∧
      Heeds (Timely v due since) moves ∧ moves.map Move.label = turns := by
  obtain ⟨moves, run, heeds, labels⟩ := follows_labels follows
  exact ⟨moves, run, fun m there => timely_alone all (heeds m there), labels⟩

theorem begins_of_labels {moves : List (Move (ScanPool Event Query Stream) (Turn (Request Event)))} {i : Nat}
    {rest : List (Turn (Request Event))} (labels : moves.map Move.label = .enter i .scan :: rest) :
    ∃ m ∈ moves, Begins m.label := by
  have there : Turn.enter i .scan ∈ moves.map Move.label := by
    rw [labels]
    exact List.mem_cons_self
  obtain ⟨m, here, same⟩ := List.mem_map.mp there
  refine ⟨m, here, ?_⟩
  rw [same]
  trivial

end Alone

end WatermarkScans
