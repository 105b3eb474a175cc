import Mathlib.Data.List.Basic
import Mathlib.Data.List.Infix
import Mathlib.Data.List.Nodup
import Mathlib.Data.List.Perm.Subperm
import Mathlib.Order.MinMax
import Mathlib.Tactic.Common

/- Regular expressions as a backtracking matcher tries them: of each one the ways to match are listed in
   the order in which they are tried, and the first one is taken. A character may carry more than its
   letter, for instance its place in the text. -/
namespace Patterns
variable {α β γ : Type}

/-- `notAhead` matches nothing, where the text does not go on with letters of these classes. -/
inductive Pattern (α : Type) where
  | empty
  | one (p : α → Bool)
  | seq (a b : Pattern α)
  | alt (a b : Pattern α)
  | star (a : Pattern α)
  | notAhead (ps : List (α → Bool))

def Pattern.plus (a : Pattern α) : Pattern α := .seq a (.star a)

def Pattern.word (ps : List (α → Bool)) : Pattern α := ps.foldr (fun p a => .seq (.one p) a) .empty

def Pattern.inTurn (parts : List (Pattern α)) : Pattern α := parts.foldr .seq .empty

section Matcher
variable (letter : β → α)

def startsWith : List (α → Bool) → List β → Bool
  | [], _ => true
  | _ :: _, [] => false
  | p :: ps, b :: s => p (letter b) && startsWith ps s

/-- As many times as it goes, and then fewer. A turn that matches nothing is not taken. -/
def repeated (turn : List β → List (List β)) : Nat → List β → List (List β)
  | 0, s => [s]
  | n + 1, s => ((turn s).filter fun rest => rest.length < s.length).flatMap (repeated turn n) ++ [s]

def Pattern.run : Pattern α → List β → List (List β)
  | .empty, s => [s]
  | .one _, [] => []
  | .one p, b :: s => if p (letter b) then [s] else []
  | .seq a b, s => (a.run s).flatMap b.run
  | .alt a b, s => a.run s ++ b.run s
  | .star a, s => repeated a.run s.length s
  | .notAhead ps, s => if startsWith letter ps s then [] else [s]

def removeFrom (a : Pattern α) : Nat → List β → List β
  | 0, s => s
  | _ + 1, [] => []
  | n + 1, b :: s =>
    match (a.run letter (b :: s)).head? with
    | some rest => if rest.length ≤ s.length then removeFrom a n rest else b :: removeFrom a n s
    | none => b :: removeFrom a n s

def removeAll (a : Pattern α) (s : List β) : List β := removeFrom letter a s.length s

def Found (a : Pattern α) (s : List β) : Prop := ∃ u w, s = u ++ w ∧ a.run letter w ≠ []

end Matcher

section Consuming
variable {letter : β → α} {a : Pattern α} {m s rest v v' : List β}

/-- The pattern takes `m`, where `v` comes next. -/
inductive Consumes (letter : β → α) : Pattern α → List β → List β → Prop where
  | empty {v : List β} : Consumes letter .empty [] v
  | one {p : α → Bool} {b : β} {v : List β} (holds : p (letter b) = true) : Consumes letter (.one p) [b] v
  | seq {a b : Pattern α} {m m' v : List β} (first : Consumes letter a m (m' ++ v))
      (second : Consumes letter b m' v) : Consumes letter (.seq a b) (m ++ m') v
  | left {a b : Pattern α} {m v : List β} (here : Consumes letter a m v) : Consumes letter (.alt a b) m v
  | right {a b : Pattern α} {m v : List β} (here : Consumes letter b m v) : Consumes letter (.alt a b) m v
  | done {a : Pattern α} {v : List β} : Consumes letter (.star a) [] v
  | again {a : Pattern α} {m m' v : List β} (some_turn : m ≠ []) (first : Consumes letter a m (m' ++ v))
      (more : Consumes letter (.star a) m' v) : Consumes letter (.star a) (m ++ m') v
  | notAhead {ps : List (α → Bool)} {v : List β} (apart : startsWith letter ps v = false) :
      Consumes letter (.notAhead ps) [] v

theorem mem_repeated {turn : List β → List (List β)} {n : Nat} (enough : s.length ≤ n)
    (turns : ∀ {s rest}, rest ∈ turn s ↔ ∃ m, s = m ++ rest ∧ Consumes letter a m rest) :
    rest ∈ repeated turn n s ↔ ∃ m, s = m ++ rest ∧ Consumes letter (.star a) m rest := by
  induction n generalizing s with
  | zero =>
    rw [List.length_eq_zero_iff.mp (Nat.le_zero.mp enough), repeated, List.mem_singleton]
    constructor
    · rintro rfl
      exact ⟨[], rfl, .done⟩
    · rintro ⟨m, split, -⟩
      exact (List.append_eq_nil_iff.mp split.symm).2
  | succ n ih =>
    simp only [repeated, List.mem_append, List.mem_flatMap, List.mem_filter, decide_eq_true_eq,
      List.mem_singleton, turns]
    constructor
    · rintro (⟨between, ⟨⟨m, rfl, first⟩, shorter⟩, later⟩ | rfl)
      · have some_turn : m ≠ [] := by
          rintro rfl
          exact absurd shorter (Nat.lt_irrefl _)
        obtain ⟨m', rfl, more⟩ := (ih (by omega)).mp later
        exact ⟨m ++ m', (List.append_assoc ..).symm, .again some_turn first more⟩
      · exact ⟨[], rfl, .done⟩
    · rintro ⟨m, rfl, consumes⟩
      cases consumes with
      | done => exact Or.inr rfl
      | again some_turn first more =>
        rename_i m m'
        have positive := List.length_pos_of_ne_nil some_turn
        simp only [List.length_append] at enough
        refine Or.inl ⟨m' ++ rest, ⟨⟨m, List.append_assoc .., first⟩, ?_⟩, (ih ?_).mpr ⟨m', rfl, more⟩⟩
        · simp only [List.length_append]
          omega
        · simp only [List.length_append]
          omega

theorem mem_run : rest ∈ a.run letter s ↔ ∃ m, s = m ++ rest ∧ Consumes letter a m rest := by
  induction a generalizing s rest with
  | empty =>
    rw [Pattern.run, List.mem_singleton]
    constructor
    · rintro rfl
      exact ⟨[], rfl, .empty⟩
    · rintro ⟨m, rfl, ⟨⟩⟩
      rfl
  | one p =>
    constructor
    · intro found
      cases s with
      | nil => cases found
      | cons b s =>
        rw [Pattern.run] at found
        split at found
        · rename_i holds
          cases List.mem_singleton.mp found
          exact ⟨[b], rfl, .one holds⟩
        · cases found
    · rintro ⟨m, rfl, consumes⟩
      cases consumes with
      | one holds =>
        rw [List.singleton_append, Pattern.run, if_pos holds]
        exact List.mem_singleton.mpr rfl
  | seq a b iha ihb =>
    rw [Pattern.run, List.mem_flatMap]
    constructor
    · rintro ⟨between, here, later⟩
      obtain ⟨m, rfl, first⟩ := iha.mp here
      obtain ⟨m', rfl, second⟩ := ihb.mp later
      exact ⟨m ++ m', (List.append_assoc ..).symm, .seq first second⟩
    · rintro ⟨m, rfl, consumes⟩
      cases consumes with
      | seq first second =>
        exact ⟨_, iha.mpr ⟨_, List.append_assoc .., first⟩, ihb.mpr ⟨_, rfl, second⟩⟩
  | alt a b iha ihb =>
    rw [Pattern.run, List.mem_append, iha, ihb]
    constructor
    · rintro (⟨m, split, here⟩ | ⟨m, split, here⟩)
      · exact ⟨m, split, .left here⟩
      · exact ⟨m, split, .right here⟩
    · rintro ⟨m, split, consumes⟩
      cases consumes with
      | left here => exact Or.inl ⟨m, split, here⟩
      | right here => exact Or.inr ⟨m, split, here⟩
  | star a ih => exact mem_repeated le_rfl ih
  | notAhead ps =>
    rw [Pattern.run]
    constructor
    · intro found
      split at found
      · cases found
      · rename_i apart
        cases List.mem_singleton.mp found
        exact ⟨[], rfl, .notAhead (Bool.not_eq_true _ |>.mp apart)⟩
    · rintro ⟨m, rfl, consumes⟩
      cases consumes with
      | notAhead apart =>
        rw [List.nil_append, if_neg (by rw [apart]; exact Bool.false_ne_true)]
        exact List.mem_singleton.mpr rfl

theorem found_iff : Found letter a s ↔ ∃ u m v, s = u ++ (m ++ v) ∧ Consumes letter a m v := by
  constructor
  · rintro ⟨u, w, rfl, ways⟩
    obtain ⟨v, way⟩ := List.exists_mem_of_ne_nil _ ways
    obtain ⟨m, rfl, consumes⟩ := mem_run.mp way
    exact ⟨u, m, v, rfl, consumes⟩
  · rintro ⟨u, m, v, rfl, consumes⟩
    refine ⟨u, m ++ v, rfl, ?_⟩
    exact List.ne_nil_of_mem (mem_run.mpr ⟨m, rfl, consumes⟩)

end Consuming

section Context
variable {letter : β → α} {a : Pattern α} {m v v' : List β}

def Pattern.looks : Pattern α → Nat
  | .seq a b => max a.looks b.looks
  | .alt a b => max a.looks b.looks
  | .star a => a.looks
  | .notAhead ps => ps.length
  | _ => 0

theorem startsWith_congr {ps : List (α → Bool)} {k : Nat} (long : ps.length ≤ k)
    (same : (v.take k).map letter = (v'.take k).map letter) :
    startsWith letter ps v = startsWith letter ps v' := by
  induction ps generalizing k v v' with
  | nil => rfl
  | cons p ps ih =>
    obtain ⟨k, rfl⟩ : ∃ j, k = j + 1 := ⟨k - 1, by simp only [List.length_cons] at long; omega⟩
    cases v with
    | nil =>
      cases v' with
      | nil => rfl
      | cons b v' => cases same
    | cons b v =>
      cases v' with
      | nil => cases same
      | cons b' v' =>
        simp only [List.take_succ_cons, List.map_cons, List.cons.injEq] at same
        rw [startsWith, startsWith, same.1, ih (Nat.le_of_succ_le_succ long) same.2]

theorem take_append_congr {k : Nat} (same : (v.take k).map letter = (v'.take k).map letter) (m : List β) :
    ((m ++ v).take k).map letter = ((m ++ v').take k).map letter := by
  have shorter : ((v.take k).map letter).take (k - m.length) =
      ((v'.take k).map letter).take (k - m.length) := by rw [same]
  rw [← List.map_take, ← List.map_take, List.take_take, List.take_take,
    min_eq_left (Nat.sub_le _ _)] at shorter
  rw [List.take_append, List.take_append, List.map_append, List.map_append, shorter]

theorem consumes_congr {k : Nat} (consumes : Consumes letter a m v) (short : a.looks ≤ k)
    (same : (v.take k).map letter = (v'.take k).map letter) : Consumes letter a m v' := by
  induction consumes generalizing v' with
  | empty => exact .empty
  | one holds => exact .one holds
  | seq first second ihf ihs =>
    obtain ⟨of_a, of_b⟩ := max_le_iff.mp short
    exact .seq (ihf of_a (take_append_congr same _)) (ihs of_b same)
  | left here ih => exact .left (ih (max_le_iff.mp short).1 same)
  | right here ih => exact .right (ih (max_le_iff.mp short).2 same)
  | done => exact .done
  | again some_turn first more ihf ihm =>
    exact .again some_turn (ihf short (take_append_congr same _)) (ihm short same)
  | notAhead apart =>
    rw [startsWith_congr short same] at apart
    exact .notAhead apart

def Pattern.Local (a : Pattern α) : Prop :=
  ∀ (β : Type) (letter : β → α) (m v v' : List β), Consumes letter a m v → Consumes letter a m v'

theorem local_of_looks (nothing : a.looks = 0) : a.Local := by
  intro β letter m v v' consumes
  exact consumes_congr consumes nothing.le (by rw [List.take_zero, List.take_zero])

theorem word_consumes {ps : List (α → Bool)} (consumes : Consumes letter (.word ps) m v) :
    m.length = ps.length := by
  induction ps generalizing m with
  | nil =>
    cases consumes
    rfl
  | cons p ps ih =>
    cases consumes with
    | seq first second =>
      cases first
      rw [List.length_append, ih second, List.length_singleton, List.length_cons, Nat.add_comm]

theorem word_looks (ps : List (α → Bool)) : (Pattern.word ps).looks = 0 := by
  induction ps with
  | nil => rfl
  | cons p ps ih => exact (Nat.zero_max _).trans ih

theorem local_before_word {ps : List (α → Bool)} (short : a.looks ≤ ps.length) :
    (Pattern.seq a (.word ps)).Local := by
  intro β letter m v v' consumes
  cases consumes with
  | seq first second =>
    refine .seq (consumes_congr first short ?_) (local_of_looks (word_looks ps) _ _ _ _ _ second)
    rw [List.take_append_of_le_length (word_consumes second).ge,
      List.take_append_of_le_length (word_consumes second).ge]

end Context

section Removing
variable {letter : β → α} {a : Pattern α} {m s y rest u v : List β}

def Pattern.least : Pattern α → Nat
  | .one _ => 1
  | .seq a b => a.least + b.least
  | .alt a b => min a.least b.least
  | _ => 0

theorem least_le (consumes : Consumes letter a m v) : a.least ≤ m.length := by
  induction consumes with
  | one holds => exact le_rfl
  | seq first second ihf ihs =>
    rw [Pattern.least, List.length_append]
    exact Nat.add_le_add ihf ihs
  | left here ih => exact (min_le_left _ _).trans ih
  | right here ih => exact (min_le_right _ _).trans ih
  | empty | done | again | notAhead => exact Nat.zero_le _

/-- A text and what a pass leaves of it. -/
inductive Removes (letter : β → α) (a : Pattern α) : List β → List β → Prop where
  | stop {s : List β} (no_more : s = []) : Removes letter a s s
  | cut {b : β} {s rest y : List β} (way : rest ∈ a.run letter (b :: s)) (shorter : rest.length ≤ s.length)
      (more : Removes letter a rest y) : Removes letter a (b :: s) y
  | kept {b : β} {s y : List β}
      (no_way : ∀ rest ∈ (a.run letter (b :: s)).head?, s.length < rest.length)
      (more : Removes letter a s y) : Removes letter a (b :: s) (b :: y)

theorem removeFrom_removes {n : Nat} (enough : s.length ≤ n) :
    Removes letter a s (removeFrom letter a n s) := by
  induction n generalizing s with
  | zero => exact .stop (List.length_eq_zero_iff.mp (Nat.le_zero.mp enough))
  | succ n ih =>
    cases s with
    | nil => exact .stop rfl
    | cons b s =>
      have tail : s.length ≤ n := Nat.le_of_succ_le_succ enough
      rw [removeFrom]
      cases way : (a.run letter (b :: s)).head? with
      | none =>
        refine .kept ?_ (ih tail)
        rw [way]
        rintro rest ⟨⟩
      | some rest =>
        dsimp only
        by_cases shorter : rest.length ≤ s.length
        · rw [if_pos shorter]
          exact .cut (List.mem_of_mem_head? way) shorter (ih (shorter.trans tail))
        · rw [if_neg shorter]
          refine .kept ?_ (ih tail)
          rw [way]
          rintro _ ⟨⟩
          exact not_le.mp shorter

theorem removeAll_removes (letter : β → α) (a : Pattern α) (s : List β) :
    Removes letter a s (removeAll letter a s) := removeFrom_removes le_rfl

theorem removes_sublist (removes : Removes letter a s y) : y.Sublist s := by
  induction removes with
  | stop no_more => exact List.Sublist.refl _
  | cut way shorter more ih =>
    obtain ⟨m, split, -⟩ := mem_run.mp way
    rw [split]
    exact ih.trans (List.sublist_append_right _ _)
  | kept no_way more ih => exact ih.cons_cons _

theorem no_match_here {b : β} (proper : 0 < a.least)
    (no_way : ∀ rest ∈ (a.run letter (b :: s)).head?, s.length < rest.length) (split : b :: s = m ++ v) :
    ¬ Consumes letter a m v := by
  intro consumes
  have way : v ∈ a.run letter (b :: s) := mem_run.mpr ⟨m, split, consumes⟩
  obtain ⟨first, head⟩ : ∃ first, (a.run letter (b :: s)).head? = some first := by
    cases runs : a.run letter (b :: s) with
    | nil =>
      rw [runs] at way
      cases way
    | cons first others => exact ⟨first, rfl⟩
  obtain ⟨taken, cut, some_taken⟩ := mem_run.mp (List.mem_of_mem_head? head)
  have longer := no_way first head
  have lengths := congrArg List.length cut
  have at_least := lt_of_lt_of_le proper (least_le some_taken)
  simp only [List.length_cons, List.length_append] at lengths
  omega

theorem match_broken (removes : Removes letter a s y) (distinct : s.Nodup) (proper : 0 < a.least)
    (split : s = u ++ (m ++ v)) (consumes : Consumes letter a m v) : ∃ b ∈ m, b ∉ y := by
  have positive : 0 < m.length := lt_of_lt_of_le proper (least_le consumes)
  induction removes generalizing u with
  | stop no_more =>
    rw [no_more] at split
    have both := (List.append_eq_nil_iff.mp split.symm).2
    rw [(List.append_eq_nil_iff.mp both).1] at positive
    exact absurd positive (Nat.lt_irrefl 0)
  | cut way shorter more ih =>
    rename_i b s rest y
    obtain ⟨taken, cut, -⟩ := mem_run.mp way
    have rest_distinct : rest.Nodup := (List.nodup_append.mp (cut ▸ distinct)).2.1
    rcases List.append_eq_append_iff.mp (cut.symm.trans split) with ⟨u', rfl, later⟩ | ⟨c, rfl, later⟩
    · exact ih rest_distinct later
    · cases c with
      | nil => exact ih (u := []) rest_distinct later.symm
      | cons c cs =>
        -- the match begins within what is taken out
        obtain ⟨m', rfl⟩ : ∃ m', m = c :: m' := by
          cases m with
          | nil => exact absurd positive (Nat.lt_irrefl 0)
          | cons d m' => exact ⟨m', congrArg (· :: m') (List.cons.inj later).1⟩
        refine ⟨c, List.mem_cons_self, ?_⟩
        intro survives
        have in_rest := (removes_sublist more).subset survives
        rw [cut] at distinct
        have apart := (List.nodup_append.mp distinct).2.2 c (by simp) c in_rest
        exact apart rfl
  | kept no_way more ih =>
    rename_i b s y
    cases u with
    | nil => exact absurd consumes (no_match_here proper no_way split)
    | cons d u =>
      cases split
      obtain ⟨c, there, gone⟩ := ih (List.nodup_cons.mp distinct).2 rfl
      refine ⟨c, there, ?_⟩
      intro survives
      rcases List.mem_cons.mp survives with rfl | later
      · exact (List.nodup_cons.mp distinct).1 (by simp [there])
      · exact gone later

theorem removes_unfound (removes : Removes letter a s y) (unfound : ¬ Found letter a s) : y = s := by
  induction removes with
  | stop no_more => rfl
  | cut way shorter more ih =>
    exact absurd ⟨[], _, rfl, List.ne_nil_of_mem way⟩ unfound
  | kept no_way more ih =>
    rw [ih]
    rintro ⟨u, w, rfl, ways⟩
    exact unfound ⟨_ :: u, w, rfl, ways⟩

end Removing

section Letters
variable {letter : β → α}

theorem startsWith_map (letter : β → α) (ps : List (α → Bool)) (s : List β) :
    startsWith id ps (s.map letter) = startsWith letter ps s := by
  induction ps generalizing s with
  | nil => rfl
  | cons p ps ih =>
    cases s with
    | nil => rfl
    | cons b s => exact congrArg (p (letter b) && ·) (ih s)

theorem repeated_map {turn : List β → List (List β)} {turn' : List α → List (List α)}
    (turns : ∀ s, turn' (s.map letter) = (turn s).map (List.map letter)) (n : Nat) (s : List β) :
    repeated turn' n (s.map letter) = (repeated turn n s).map (List.map letter) := by
  induction n generalizing s with
  | zero => rfl
  | succ n ih =>
    have lengths : ((fun rest : List α => decide (rest.length < s.length)) ∘ List.map letter) =
        fun rest => decide (rest.length < s.length) := by
      funext rest
      simp only [Function.comp_apply, List.length_map]
    rw [repeated, repeated, turns, List.map_append, List.length_map, List.filter_map, lengths,
      List.flatMap_map, List.map_flatMap]
    simp only [ih]
    rfl

theorem run_map (letter : β → α) (a : Pattern α) (s : List β) :
    a.run id (s.map letter) = (a.run letter s).map (List.map letter) := by
  induction a generalizing s with
  | empty => rfl
  | one p =>
    cases s with
    | nil => rfl
    | cons b s =>
      simp only [List.map_cons, Pattern.run, id_eq]
      split <;> rfl
  | seq a b iha ihb =>
    rw [Pattern.run, Pattern.run, iha, List.flatMap_map, List.map_flatMap]
    simp only [ihb]
  | alt a b iha ihb => rw [Pattern.run, Pattern.run, iha, ihb, List.map_append]
  | star a ih =>
    rw [Pattern.run, Pattern.run, List.length_map]
    exact repeated_map ih _ s
  | notAhead ps =>
    rw [Pattern.run, Pattern.run, startsWith_map]
    split <;> rfl

theorem removeAll_map (letter : β → α) (a : Pattern α) (s : List β) :
    removeAll id a (s.map letter) = (removeAll letter a s).map letter := by
  rw [removeAll, removeAll, List.length_map]
  generalize s.length = n
  induction n generalizing s with
  | zero => rfl
  | succ n ih =>
    cases s with
    | nil => rfl
    | cons b s =>
      rw [List.map_cons, removeFrom, removeFrom, ← List.map_cons, run_map, List.head?_map]
      cases (a.run letter (b :: s)).head? with
      | none => exact congrArg (letter b :: ·) (ih s)
      | some rest =>
        simp only [Option.map_some, List.length_map]
        split
        · exact ih rest
        · exact congrArg (letter b :: ·) (ih s)

theorem found_map (letter : β → α) (a : Pattern α) (s : List β) :
    Found id a (s.map letter) ↔ Found letter a s := by
  constructor
  · rintro ⟨u, w, split, ways⟩
    obtain ⟨u, w, rfl, rfl, rfl⟩ := List.map_eq_append_iff.mp split
    refine ⟨u, w, rfl, ?_⟩
    rw [run_map] at ways
    exact fun none => ways (congrArg _ none)
  · rintro ⟨u, w, rfl, ways⟩
    refine ⟨u.map letter, w.map letter, List.map_append, ?_⟩
    rw [run_map]
    exact fun none => ways (List.map_eq_nil_iff.mp none)

end Letters

section Passes
variable {letter : β → α} {a : Pattern α} {patterns done toCome : List (Pattern α)} {m s y : List β}

def afterPasses (letter : β → α) (patterns : List (Pattern α)) (s : List β) : List β :=
  patterns.foldl (fun result a => removeAll letter a result) s

/-- A pass makes one stretch of what has not been one in the text before it. -/
def BringsTogether (letter : β → α) (a : Pattern α) (s m : List β) : Prop :=
  ¬ m <:+: s ∧ m <:+: removeAll letter a s

/-- Some pass, or what is done after the passes, takes a character of `m` out. -/
def LosesSome (letter : β → α) (last : List β → List β) : List (Pattern α) → List β → List β → Prop
  | [], s, m => ∃ b ∈ m, b ∉ last s
  | a :: toCome, s, m =>
    (∃ b ∈ m, b ∉ removeAll letter a s) ∨ LosesSome letter last toCome (removeAll letter a s) m

/-- No pass brings a match of its own pattern or of one before it together, unless some of it is taken
    out later. -/
def JoinsNothing (letter : β → α) (last : List β → List β) (done : List (Pattern α)) :
    List (Pattern α) → List β → Prop
  | [], _ => True
  | a :: toCome, s =>
    (∀ q ∈ a :: done, ∀ m, Consumes letter q m [] → BringsTogether letter a s m →
      LosesSome letter last toCome (removeAll letter a s) m) ∧
    JoinsNothing letter last (a :: done) toCome (removeAll letter a s)

theorem afterPasses_nil (letter : β → α) (patterns : List (Pattern α)) :
    afterPasses letter patterns [] = [] := by
  induction patterns with
  | nil => rfl
  | cons a patterns ih => exact ih

theorem removeAll_sublist (letter : β → α) (a : Pattern α) (s : List β) :
    (removeAll letter a s).Sublist s :=
  removes_sublist (removeAll_removes letter a s)

theorem afterPasses_map (patterns : List (Pattern α)) (s : List β) :
    afterPasses id patterns (s.map letter) = (afterPasses letter patterns s).map letter := by
  induction patterns generalizing s with
  | nil => rfl
  | cons a patterns ih =>
    rw [afterPasses, List.foldl_cons, removeAll_map]
    exact ih _

theorem kept_or_lost (m y : List β) : m ⊆ y ∨ ∃ b ∈ m, b ∉ y := by
  by_contra neither
  obtain ⟨some_lost, none_lost⟩ := not_or.mp neither
  apply some_lost
  intro b there
  by_contra gone
  exact none_lost ⟨b, there, gone⟩

theorem infix_kept (distinct : s.Nodup) (together : m <:+: s) (within : y.Sublist s) (kept : m ⊆ y) :
    m <:+: y := by
  obtain ⟨u, v, rfl⟩ := together
  obtain ⟨front, y₃, rfl, in_front, in_v⟩ := List.sublist_append_iff.mp within
  obtain ⟨y₁, y₂, rfl, in_u, in_m⟩ := List.sublist_append_iff.mp in_front
  obtain ⟨front_distinct, -, from_v⟩ := List.nodup_append'.mp distinct
  obtain ⟨-, m_distinct, from_u⟩ := List.nodup_append'.mp front_distinct
  have all : m ⊆ y₂ := by
    intro b there
    rcases List.mem_append.mp (kept there) with early | late
    · rcases List.mem_append.mp early with first | here
      · exact absurd there (from_u (in_u.subset first))
      · exact here
    · exact absurd (in_v.subset late) (from_v (List.mem_append_right u there))
  have same : y₂ = m := in_m.eq_of_length_le (List.subperm_of_subset m_distinct all).length_le
  exact ⟨y₁, y₃, by rw [same]⟩

theorem found_infix_iff (anywhere : a.Local) :
    Found letter a s ↔ ∃ m, m <:+: s ∧ Consumes letter a m [] := by
  rw [found_iff]
  constructor
  · rintro ⟨u, m, v, rfl, consumes⟩
    exact ⟨m, ⟨u, v, List.append_assoc ..⟩, anywhere _ _ _ _ _ consumes⟩
  · rintro ⟨m, ⟨u, v, rfl⟩, consumes⟩
    exact ⟨u, m, v, List.append_assoc .., anywhere _ _ _ _ _ consumes⟩

theorem match_joined (distinct : s.Nodup) (proper : 0 < a.least) (anywhere : a.Local)
    (consumes : Consumes letter a m []) (left : m <:+: removeAll letter a s) :
    BringsTogether letter a s m := by
  refine ⟨?_, left⟩
  rintro ⟨u, v, together⟩
  obtain ⟨b, there, gone⟩ := match_broken (removeAll_removes letter a s) distinct proper
    (together.symm.trans (List.append_assoc ..)) (anywhere _ _ _ _ v consumes)
  exact gone (left.subset there)

/-- Nothing that any of the passes looks for is left exactly when none of them brings it together, and
    what was together before the passes to come loses something. -/
theorem unmatched_iff (letter : β → α) {last : List β → List β} (ends : ∀ s, last s <:+: s)
    (distinct : s.Nodup) (proper : ∀ q, q ∈ done ∨ q ∈ toCome → 0 < q.least)
    (anywhere : ∀ q, q ∈ done ∨ q ∈ toCome → q.Local) :
    (∀ q, q ∈ done ∨ q ∈ toCome → ∀ m, Consumes letter q m [] →
        ¬ m <:+: last (afterPasses letter toCome s)) ↔
      (∀ q ∈ done, ∀ m, Consumes letter q m [] → m <:+: s → LosesSome letter last toCome s m) ∧
        JoinsNothing letter last done toCome s := by
  induction toCome generalizing done s with
  | nil =>
    simp only [List.not_mem_nil, or_false]
    constructor
    · intro unmatched
      refine ⟨?_, trivial⟩
      intro q before m consumes together
      refine (kept_or_lost m (last s)).resolve_left ?_
      intro kept
      exact unmatched q before m consumes (infix_kept distinct together (ends s).sublist kept)
    · rintro ⟨loses, -⟩ q before m consumes left
      obtain ⟨b, there, gone⟩ := loses q before m consumes (left.trans (ends s))
      exact gone (left.subset there)
  | cons a toCome ih =>
    have listed : ∀ q, q ∈ a :: done ∨ q ∈ toCome ↔ q ∈ done ∨ q ∈ a :: toCome := by
      intro q
      simp only [List.mem_cons]
      exact or_assoc.trans or_left_comm
    have later := ih ((removeAll_sublist letter a s).nodup distinct)
      (fun q there => proper q ((listed q).mp there)) (fun q there => anywhere q ((listed q).mp there))
    simp only [listed] at later
    rw [JoinsNothing, ← and_assoc]
    refine later.trans (and_congr_left ?_)
    intro _
    constructor
    · intro loses
      refine ⟨?_, fun q among m consumes joined => loses q among m consumes joined.2⟩
      intro q before m consumes together
      rcases kept_or_lost m (removeAll letter a s) with kept | lost
      · exact Or.inr (loses q (List.mem_cons_of_mem a before) m consumes
          (infix_kept distinct together (removeAll_sublist letter a s) kept))
      · exact Or.inl lost
    · rintro ⟨loses, joined_loses⟩ q among m consumes left
      by_cases together : m <:+: s
      · rcases List.mem_cons.mp among with rfl | before
        · have here : q ∈ done ∨ q ∈ q :: toCome := Or.inr List.mem_cons_self
          exact absurd together
            (match_joined distinct (proper q here) (anywhere q here) consumes left).1
        · refine (loses q before m consumes together).resolve_left ?_
          rintro ⟨b, there, gone⟩
          exact gone (left.subset there)
      · exact joined_loses q among m consumes ⟨together, left⟩

theorem unfound_iff {last : List β → List β} (ends : ∀ s, last s <:+: s) (distinct : s.Nodup)
    (proper : ∀ q ∈ patterns, 0 < q.least) (anywhere : ∀ q ∈ patterns, q.Local) :
    (∀ q ∈ patterns, ¬ Found letter q (last (afterPasses letter patterns s))) ↔
      JoinsNothing letter last [] patterns s := by
  have unmatched := unmatched_iff letter ends distinct
    (fun q there => proper q (there.resolve_left List.not_mem_nil))
    (fun q there => anywhere q (there.resolve_left List.not_mem_nil))
  simp only [List.not_mem_nil, false_or, false_implies, implies_true, true_and] at unmatched
  rw [← unmatched]
  refine forall₂_congr ?_
  intro q there
  rw [found_infix_iff (anywhere q there)]
  constructor
  · exact fun none m consumes left => none ⟨m, left, consumes⟩
  · rintro none ⟨m, left, consumes⟩
    exact none m consumes left

end Passes

end Patterns
