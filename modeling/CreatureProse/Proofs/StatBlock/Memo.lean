import CreatureProse.StatBlock.Basic
import Mathlib.Data.List.Forall2

/-
  Keeping results is transparent: whatever is done to an input,
  its result is what the reader of its stamp finds in it, and
  after a refresh it is what the refreshing reader finds.

  Main declarations:
    * `Memo.isStale_eq_false_iff`
    * `Memo.Faithful` and `Memo.faithful_run`
    * `Memo.Refreshed`
    * `StatBlock.Refreshed`
    * `Memo.run_transparent`
-/

namespace CreatureProse

------------------------------------------------------------
-- One Refresh
------------------------------------------------------------

namespace Memo

variable {ι ρ : Type}

/- The result of a fresh input has the stamp of the reader. -/
theorem isStale_eq_false_iff
    {m : Memo ι ρ}
    {reader : Reader ι ρ} :
    m.isStale reader = false ↔
      ∃ result,
        m.result = some result ∧
          result.stamp = reader.stamp := by
  unfold isStale
  cases m.result with
  | none => simp
  | some result =>
      simp [Stamped.isStale, bne_eq_false_iff_eq]

/- A stale input is read. -/
theorem refreshed_of_stale
    {m : Memo ι ρ}
    {reader : Reader ι ρ}
    (hStale : m.isStale reader = true) :
    m.refreshed reader =
      (⟨m.input, some ⟨reader.read m.input, reader.stamp⟩⟩,
        true) := by
  simp [refreshed, hStale]

/- Any other input is left as it is. -/
theorem refreshed_of_fresh
    {m : Memo ι ρ}
    {reader : Reader ι ρ}
    (hFresh : m.isStale reader = false) :
    m.refreshed reader = (m, false) := by
  simp [refreshed, hFresh]

/- Reading is told exactly of stale inputs. -/
@[simp] theorem refreshed_snd
    (m : Memo ι ρ)
    (reader : Reader ι ρ) :
    (m.refreshed reader).2 = m.isStale reader := by
  cases hStale : m.isStale reader with
  | true => rw [refreshed_of_stale hStale]
  | false => rw [refreshed_of_fresh hStale]

/- A refresh keeps the input. -/
@[simp] theorem refresh_input
    (m : Memo ι ρ)
    (reader : Reader ι ρ) :
    (m.refresh reader).input = m.input := by
  unfold refresh
  cases hStale : m.isStale reader with
  | true => rw [refreshed_of_stale hStale]
  | false => rw [refreshed_of_fresh hStale]

/- Nothing is stale right after a refresh. -/
@[simp] theorem isStale_refresh
    (m : Memo ι ρ)
    (reader : Reader ι ρ) :
    (m.refresh reader).isStale reader = false := by
  unfold refresh
  cases hStale : m.isStale reader with
  | true =>
      rw [refreshed_of_stale hStale]
      exact isStale_eq_false_iff.mpr ⟨_, rfl, rfl⟩
  | false =>
      rw [refreshed_of_fresh hStale]
      exact hStale

/- A second refresh does nothing. -/
@[simp] theorem refreshed_refresh
    (m : Memo ι ρ)
    (reader : Reader ι ρ) :
    (m.refresh reader).refreshed reader =
      (m.refresh reader, false) :=
  refreshed_of_fresh (isStale_refresh m reader)

/-
  What a refresh makes of an input with its result: the input
  stays, the outcome is fresh, a stale input is read, and a
  fresh one stays as it was.
-/
structure Refreshed
    (reader : Reader ι ρ)
    (before after : Memo ι ρ) : Prop where
  input_eq : after.input = before.input
  fresh : after.isStale reader = false
  result_of_stale :
    before.isStale reader = true →
      after.result =
        some ⟨reader.read before.input, reader.stamp⟩
  eq_of_fresh :
    before.isStale reader = false → after = before

theorem refreshed_refresh_spec
    (m : Memo ι ρ)
    (reader : Reader ι ρ) :
    Refreshed reader m (m.refresh reader) where
  input_eq := refresh_input m reader
  fresh := isStale_refresh m reader
  result_of_stale hStale := by
    rw [refresh, refreshed_of_stale hStale]
  eq_of_fresh hFresh := by
    rw [refresh, refreshed_of_fresh hFresh]

------------------------------------------------------------
-- Many Inputs
------------------------------------------------------------

/- The inputs are refreshed one by one. -/
theorem refreshedAll_fst
    (ms : List (Memo ι ρ))
    (reader : Reader ι ρ) :
    (refreshedAll ms reader).1 =
      ms.map fun m => m.refresh reader := by
  simp [refreshedAll, refresh, Function.comp_def]

/- As many inputs are read as were stale. -/
theorem refreshedAll_snd
    (ms : List (Memo ι ρ))
    (reader : Reader ι ρ) :
    (refreshedAll ms reader).2 = countStale ms reader := by
  simp [refreshedAll, countStale, List.countP_map,
    Function.comp_def]

/- Each input of a list becomes what a refresh makes of it. -/
theorem forall₂_refreshedAll
    (ms : List (Memo ι ρ))
    (reader : Reader ι ρ) :
    List.Forall₂ (Refreshed reader) ms
      (refreshedAll ms reader).1 := by
  rw [refreshedAll_fst, List.forall₂_map_right_iff,
    List.forall₂_same]
  intro m _
  exact refreshed_refresh_spec m reader

/- A second pass over a list does nothing. -/
theorem refreshedAll_refreshedAll
    (ms : List (Memo ι ρ))
    (reader : Reader ι ρ) :
    refreshedAll (refreshedAll ms reader).1 reader =
      ((refreshedAll ms reader).1, 0) := by
  apply Prod.ext
  · rw [refreshedAll_fst, refreshedAll_fst, List.map_map]
    apply List.map_congr_left
    intro m _
    rw [Function.comp_apply, refresh, refreshed_refresh]
  · rw [refreshedAll_snd, refreshedAll_fst, countStale,
      List.countP_map]
    simp [Function.comp_def]

------------------------------------------------------------
-- Runs
------------------------------------------------------------

/- Something that is done to an input with its result. -/
inductive Step (ι ρ : Type) where
| setInput (input : ι)
| invalidate
| refresh (reader : Reader ι ρ)

/- A step uses no reader from outside a family. -/
def Step.Within
    (family : Reader ι ρ → Prop) : Step ι ρ → Prop
| .refresh reader => family reader
| _ => True

/- What a step makes of an input with its result. -/
def perform
    [DecidableEq ι]
    (m : Memo ι ρ) : Step ι ρ → Memo ι ρ
| .setInput input => m.setInput input
| .invalidate => m.invalidate
| .refresh reader => m.refresh reader

/- What steps make of an input that has not been read. -/
def run
    [DecidableEq ι]
    (input : ι)
    (steps : List (Step ι ρ)) : Memo ι ρ :=
  steps.foldl perform (unread input)

/- The readers of a family that share a stamp read alike. -/
def StampsDetermine (family : Reader ι ρ → Prop) : Prop :=
  ∀ p q, family p → family q → p.stamp = q.stamp →
    p.read = q.read

/-
  What is kept is what a reader of the family, known by the
  stamp of the result, finds in the present input.
-/
def Faithful
    (family : Reader ι ρ → Prop)
    (m : Memo ι ρ) : Prop :=
  ∀ result, m.result = some result →
    ∃ reader,
      family reader ∧ reader.stamp = result.stamp ∧
        result.value = reader.read m.input

/- Nothing is kept of an input that has not been read. -/
theorem faithful_unread
    (family : Reader ι ρ → Prop)
    (input : ι) :
    Faithful family (unread input) := by
  intro result hResult
  cases hResult

/- One step keeps the result faithful. -/
theorem faithful_perform
    [DecidableEq ι]
    {family : Reader ι ρ → Prop}
    {m : Memo ι ρ}
    (hFaithful : Faithful family m)
    (step : Step ι ρ)
    (hStep : step.Within family) :
    Faithful family (m.perform step) := by
  cases step with
  | setInput input =>
      simp only [perform, setInput]
      split
      · exact hFaithful
      · exact faithful_unread family input
  | invalidate =>
      exact faithful_unread family m.input
  | refresh reader =>
      simp only [perform]
      cases hStale : m.isStale reader with
      | true =>
          rw [refresh, refreshed_of_stale hStale]
          intro result hResult
          cases hResult
          exact ⟨reader, hStep, rfl, rfl⟩
      | false =>
          rw [refresh, refreshed_of_fresh hStale]
          exact hFaithful

/- Several steps keep the result faithful. -/
theorem faithful_foldl_perform
    [DecidableEq ι]
    {family : Reader ι ρ → Prop}
    {m : Memo ι ρ}
    (hFaithful : Faithful family m)
    (steps : List (Step ι ρ))
    (hSteps : ∀ step ∈ steps, step.Within family) :
    Faithful family (steps.foldl perform m) := by
  induction steps generalizing m with
  | nil => exact hFaithful
  | cons step steps ih =>
      rw [List.foldl_cons]
      apply ih
      · exact faithful_perform hFaithful step
          (hSteps step (by simp))
      · exact fun s hs => hSteps s (by simp [hs])

/- A whole run leaves a faithful result. -/
theorem faithful_run
    [DecidableEq ι]
    {family : Reader ι ρ → Prop}
    (input : ι)
    (steps : List (Step ι ρ))
    (hSteps : ∀ step ∈ steps, step.Within family) :
    Faithful family (run input steps) :=
  faithful_foldl_perform (faithful_unread family input)
    steps hSteps

/- A faithful result with the stamp of a reader is the reader's. -/
theorem Faithful.value_eq_read
    {family : Reader ι ρ → Prop}
    (hFamily : StampsDetermine family)
    {m : Memo ι ρ}
    (hFaithful : Faithful family m)
    {reader : Reader ι ρ}
    (hReader : family reader)
    {result : Stamped ρ}
    (hResult : m.result = some result)
    (hStamp : result.stamp = reader.stamp) :
    result.value = reader.read m.input := by
  rcases hFaithful result hResult with
    ⟨origin, hOrigin, hOriginStamp, hValue⟩
  rw [hValue, hFamily origin reader hOrigin hReader
    (hOriginStamp.trans hStamp)]

/- A refreshed faithful input has what the reader finds in it. -/
theorem Faithful.value?_refresh
    {family : Reader ι ρ → Prop}
    (hFamily : StampsDetermine family)
    {m : Memo ι ρ}
    (hFaithful : Faithful family m)
    {reader : Reader ι ρ}
    (hReader : family reader) :
    (m.refresh reader).value? = reader.read m.input := by
  cases hStale : m.isStale reader with
  | true =>
      rw [refresh, refreshed_of_stale hStale]
      rfl
  | false =>
      rw [refresh, refreshed_of_fresh hStale]
      rcases isStale_eq_false_iff.mp hStale with
        ⟨result, hResult, hStamp⟩
      rw [value?, hResult, Option.bind_some]
      exact hFaithful.value_eq_read hFamily hReader hResult
        hStamp

end Memo

------------------------------------------------------------
-- Stat Blocks
------------------------------------------------------------

/-
  What a refresh makes of the legendary actions: the text in
  front of them stays, and each of them is refreshed.
-/
structure Legendary.Refreshed
    (reader : Reader CreatureAction ActionReading)
    (before after : Legendary) : Prop where
  description_eq : after.description = before.description
  actions :
    List.Forall₂ (Memo.Refreshed reader)
      before.actions after.actions

/-
  What a refresh makes of a stat block: each entry of its four
  lists is refreshed in its place.
-/
structure StatBlock.Refreshed
    (readers : Readers)
    (before after : StatBlock) : Prop where
  features :
    List.Forall₂ (Memo.Refreshed readers.feature)
      before.features after.features
  actions :
    List.Forall₂ (Memo.Refreshed readers.action)
      before.actions after.actions
  reactions :
    List.Forall₂ (Memo.Refreshed readers.action)
      before.reactions after.reactions
  legendary :
    Option.Rel (Legendary.Refreshed readers.action)
      before.legendary after.legendary

namespace StatBlock

theorem refreshed_refresh_spec
    (b : StatBlock)
    (readers : Readers) :
    b.Refreshed readers (b.refreshed readers).1 where
  features := Memo.forall₂_refreshedAll _ _
  actions := Memo.forall₂_refreshedAll _ _
  reactions := Memo.forall₂_refreshedAll _ _
  legendary := by
    simp only [refreshed]
    cases b.legendary with
    | none => exact Option.Rel.none
    | some l =>
        exact Option.Rel.some
          ⟨rfl, Memo.forall₂_refreshedAll _ _⟩

/- As many entries are read as were stale. -/
theorem refreshed_snd
    (b : StatBlock)
    (readers : Readers) :
    (b.refreshed readers).2 = b.countStale readers := by
  simp only [refreshed, countStale, legendaryActions,
    Memo.refreshedAll_snd]
  cases b.legendary with
  | none => rfl
  | some l =>
      simp [Legendary.refreshed, Memo.refreshedAll_snd]

/- A second refresh reads nothing and changes nothing. -/
theorem refreshed_refreshed
    (b : StatBlock)
    (readers : Readers) :
    (b.refreshed readers).1.refreshed readers =
      ((b.refreshed readers).1, 0) := by
  simp only [refreshed, Memo.refreshedAll_refreshedAll]
  cases b.legendary with
  | none => rfl
  | some l =>
      simp [Legendary.refreshed,
        Memo.refreshedAll_refreshedAll]

end StatBlock

------------------------------------------------------------
-- Transparency
------------------------------------------------------------

namespace Memo

variable {ι ρ : Type}

/-
  After any run with readers whose stamps tell how they read,
  what is kept is what the reader of its stamp finds in the
  present input. A refresh then gives what the reader finds,
  reads exactly the stale inputs, and leaves the others alone.
  A stat block is refreshed entry by entry, with the stale ones
  counted, and a second time nothing happens.
-/
theorem run_transparent
    [DecidableEq ι]
    (family : Reader ι ρ → Prop)
    (hFamily : StampsDetermine family)
    (input : ι)
    (steps : List (Step ι ρ))
    (hSteps : ∀ step ∈ steps, step.Within family) :
    Faithful family (run input steps) ∧
      (∀ reader, family reader →
        (∀ result, (run input steps).result = some result →
          result.stamp = reader.stamp →
            result.value =
              reader.read (run input steps).input) ∧
        ((run input steps).refresh reader).value? =
          reader.read
            ((run input steps).refresh reader).input ∧
        Refreshed reader (run input steps)
          ((run input steps).refreshed reader).1 ∧
        (((run input steps).refreshed reader).2 = true ↔
          (run input steps).isStale reader = true)) ∧
      ∀ (b : StatBlock) (readers : Readers),
        (b.refreshed readers).2 = b.countStale readers ∧
        b.Refreshed readers (b.refreshed readers).1 ∧
        (b.refreshed readers).1.refreshed readers =
          ((b.refreshed readers).1, 0) := by
  have hFaithful := faithful_run input steps hSteps
  refine ⟨hFaithful, ?_, ?_⟩
  · intro reader hReader
    refine ⟨?_, ?_, refreshed_refresh_spec _ reader, ?_⟩
    · intro result hResult hStamp
      exact hFaithful.value_eq_read hFamily hReader hResult
        hStamp
    · rw [refresh_input]
      exact hFaithful.value?_refresh hFamily hReader
    · rw [refreshed_snd]
  · intro b readers
    exact ⟨b.refreshed_snd readers,
      b.refreshed_refresh_spec readers,
      b.refreshed_refreshed readers⟩

/- Counts the characters of a text, from a given number on. -/
def counterFrom
    (first : Nat)
    (version : String) : Reader String Nat where
  stamp := ⟨"Counter", version, "1"⟩
  read s := some (s.length + first)

/-
  A run that goes to a later version and back, with a change of
  the input in between.
-/
theorem run_transparent_versions :
    StampsDetermine
        (· ∈ [counterFrom 0 "1", counterFrom 1 "2"]) ∧
      ((run "imp"
        [.refresh (counterFrom 0 "1"), .setInput "ogre",
          .refresh (counterFrom 1 "2"), .setInput "ogre"]).refresh
        (counterFrom 0 "1")).value? = some 4 := by
  have hFamily :
      StampsDetermine
        (· ∈ [counterFrom 0 "1", counterFrom 1 "2"]) := by
    intro p q hp hq hStamp
    simp only [List.mem_cons, List.not_mem_nil, or_false]
      at hp hq
    rcases hp with rfl | rfl <;> rcases hq with rfl | rfl
    · rfl
    · simp [counterFrom] at hStamp
    · simp [counterFrom] at hStamp
    · rfl
  refine ⟨hFamily, ?_⟩
  have hRun :=
    run_transparent _ hFamily "imp"
      [.refresh (counterFrom 0 "1"), .setInput "ogre",
        .refresh (counterFrom 1 "2"), .setInput "ogre"]
      (by simp [Step.Within])
  exact (hRun.2.1 (counterFrom 0 "1") (by simp)).2.1

end Memo

end CreatureProse
