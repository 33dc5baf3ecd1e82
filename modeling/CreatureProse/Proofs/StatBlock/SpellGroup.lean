import CreatureProse.Proofs.LimitedUse.Grammar
import CreatureProse.Proofs.Parser.Yields
import CreatureProse.Proofs.Spellcasting.NameList
import CreatureProse.Proofs.Spellcasting.Relisted
import CreatureProse.StatBlock.Resource

/-
  The groups of spells that are cast at will or some times a
  day. A group has spells unless it was read from a shared rate
  with no name behind it, and a title tells its spells unless
  there are none.

  Main declarations:
    * `Spellcasting.Nameless`
    * `Spellcasting.run_spellsByUseParser_iff`
    * `Spellcasting.Grouped`
    * `Spellcasting.grouped_of_ofText?`
    * `Spellcasting.not_always_spells_in_groups`
-/

namespace CreatureProse

open CreatureProse.Parser

variable {prose : Prose} {c r : Cursor prose}

------------------------------------------------------------
-- Titles
------------------------------------------------------------

namespace Text

/- Only an empty list is told by an empty text. -/
theorem englishList_eq_empty_iff
    {items : List String}
    (hItems : ∀ s ∈ items, s ≠ "") :
    englishList items = "" ↔ items = [] := by
  match items with
  | [] => simp [englishList]
  | [only] => simpa [englishList] using hItems
  | [first, second] => simp [englishList]
  | first :: second :: third :: rest =>
      simp [englishList, serialList]

end Text

/- The title of a group begins with its spells, if it has any. -/
theorem StatBlock.groupUses?_eq_iff
    {g : SpellGroup}
    {limit : LimitedUse}
    (hLimit : g.limitedUse = some limit)
    (hTexts : ∀ spell ∈ g.spells, spell.value.text ≠ "") :
    groupUses? g =
        some (" (" ++ limit.text ++ ")", limit.amount.toNat) ↔
      g.spells = [] := by
  have hNames :
      ∀ s ∈ g.spells.map fun spell => spell.value.text, s ≠ "" :=
    List.forall_mem_map.mpr hTexts
  have hList := Text.englishList_eq_empty_iff hNames
  rw [List.map_eq_nil_iff] at hList
  rw [← hList]
  simp [groupUses?, hLimit, String.append_assoc]

namespace Spellcasting

------------------------------------------------------------
-- The Groups of Fragments
------------------------------------------------------------

/- The groups that a fragment adds. -/
def Fragment.groups : Fragment → List SpellGroup
| .spellsByUse limit shared names =>
  let spells := names.map spellOf
  if shared then
    [⟨spells, limit⟩]
  else
    spells.map fun spell => ⟨[spell], limit⟩
| _ => []

/- A group without spells that a fragment adds, if it does. -/
def Fragment.bareGroup? : Fragment → Option SpellGroup
| .spellsByUse limit true [] => some ⟨[], limit⟩
| _ => none

theorem bareGroup?_eq_some_iff
    {f : Fragment}
    {g : SpellGroup} :
    f.bareGroup? = some g ↔
      ∃ limit, f = .spellsByUse limit true [] ∧
        ⟨[], limit⟩ = g := by
  unfold Fragment.bareGroup?
  split
  · simp
  · rename_i hOther
    simp only [reduceCtorEq, false_iff]
    rintro ⟨limit, hSame, -⟩
    exact hOther limit hSame

theorem groups_add
    (s : Spellcasting)
    (f : Fragment) :
    (s.add f).groups = s.groups ++ f.groups := by
  cases f with
  | casterLevel _ | ability _ | innateAbility _ | saveDC _
  | attackHit _ | spellsByLevel _ _ _ =>
      exact (List.append_nil s.groups).symm
  | spellsByUse limit shared names => rfl

/- No group is lost, and the groups stay in their order. -/
theorem groups_foldl_add
    (s : Spellcasting)
    (fragments : List Fragment) :
    (fragments.foldl add s).groups =
      s.groups ++ fragments.flatMap Fragment.groups := by
  induction fragments generalizing s with
  | nil => simp
  | cons f more ih =>
      rw [List.foldl_cons, ih, groups_add, List.append_assoc,
        List.flatMap_cons]

/- Spells with uses of their own are never without a spell. -/
theorem filter_groups (f : Fragment) :
    (f.groups.filter fun g => g.spells.isEmpty) =
      f.bareGroup?.toList := by
  cases f with
  | casterLevel _ | ability _ | innateAbility _ | saveDC _
  | attackHit _ | spellsByLevel _ _ _ => rfl
  | spellsByUse limit shared names =>
      cases shared with
      | false => simp [Fragment.groups, Fragment.bareGroup?]
      | true =>
          cases names with
          | nil => rfl
          | cons name more => rfl

/- The spells in the groups of a fragment are its names. -/
theorem exists_name_of_mem_groups
    {f : Fragment}
    {g : SpellGroup}
    (hGroup : g ∈ f.groups) :
    ∀ spell ∈ g.spells,
      ∃ name ∈ f.names, spellOf name = spell := by
  intro spell hSpell
  cases f with
  | casterLevel _ | ability _ | innateAbility _ | saveDC _
  | attackHit _ | spellsByLevel _ _ _ => cases hGroup
  | spellsByUse limit shared names =>
      have hMem : spell ∈
          (Fragment.spellsByUse limit shared names).groups.flatMap
            SpellGroup.spells :=
        List.mem_flatMap.mpr ⟨g, hGroup, hSpell⟩
      have hGroups := flatMap_groups limit shared (names.map spellOf)
      rw [Fragment.groups, hGroups] at hMem
      exact List.mem_map.mp hMem

------------------------------------------------------------
-- Names
------------------------------------------------------------

theorem yields_word : Yields word fun s => s ≠ "" := by
  constructor
  intro prose c r s hRun hEmpty
  exact (run_word_eq_some.mp hRun).1
    (String.toList_eq_nil_iff.mpr hEmpty)

/- A spell that is read has a name. -/
theorem yields_spellName :
    Yields spellName fun name => name.value ≠ "" := by
  apply Yields.located (A := fun s => s ≠ "")
  refine yields_word.map₂ (.any _) ?_
  intro first more hFirst _ hEmpty
  rw [← String.toList_eq_nil_iff, Text.toList_intercalate,
    List.append_eq_nil_iff, String.toList_eq_nil_iff] at hEmpty
  exact hFirst hEmpty.1

theorem yields_fragmentParser :
    Yields fragmentParser fun f =>
      ∀ name ∈ f.names, name.value ≠ "" := by
  have hNames :
      Yields spellList fun names =>
        ∀ name ∈ names, name.value ≠ "" :=
    yields_spellName.seqLeft.seqLeft.repeated
  have hOther
      {α : Type}
      (p : Parser α)
      (f : α → Fragment)
      (hNone : ∀ a, (f a).names = []) :
      Yields (f <$> p) fun f => ∀ name ∈ f.names, name.value ≠ "" :=
    (Yields.any p).map fun a _ => by simp [hNone]
  apply Yields.firstOf
  simp only [List.forall_mem_cons]
  refine ⟨hOther _ _ fun _ => rfl, hOther _ _ fun _ => rfl,
    hOther _ _ fun _ => rfl, hOther _ _ fun _ => rfl,
    hOther _ _ fun _ => rfl, hOther _ _ fun _ => rfl, ?_, ?_,
    List.forall_mem_nil _⟩
  · exact ((Yields.any _).map₂ (.any _)
      fun _ _ _ _ _ hAll => hAll).seqBoth hNames
  · exact (Yields.any _).map₂ hNames fun _ _ _ hAll => hAll

------------------------------------------------------------
-- Rates Without Names
------------------------------------------------------------

/-
  A text that begins with a number of uses each day which are
  not meant for each spell, such as 3/day: with no name next.
-/
inductive Nameless : List Char → UInt32 → Prop where
| mk
    {digits mark gap rest : List Char}
    {n : UInt32}
    (hNumber : Numeral digits n)
    (hMark : mark = [] ∨ mark = ['e'])
    (hGap : ∀ a ∈ gap, isGap a = true)
    (hGapEnd : NotNext isGap rest)
    (hNoName : NotNext isWordLetter rest) :
    Nameless
      (digits ++ (mark ++ ("/day:".toList ++ (gap ++ rest)))) n

/- A name is read wherever a letter is next. -/
theorem exists_run_listItem
    (hLetter : ¬NotNext isWordLetter c.ahead) :
    ∃ name r, listItem.run c = some (name, r) ∧
      c.position < r.position := by
  cases hWord : word.run c with
  | none => exact absurd (notNext_of_run_characters hWord) hLetter
  | some reply =>
      obtain ⟨first, m⟩ := reply
      have hMore :
          ∃ more k, (spaces *> word).repeated.run m =
            some (more, k) :=
        ⟨_, _, rfl⟩
      rcases hMore with ⟨more, k, hMore⟩
      have hName :
          spellName.run c =
            some (⟨" ".intercalate (first :: more),
              ⟨c.position, k.position⟩⟩, k) :=
        run_located_eq_some.mpr
          ⟨run_seq_eq_some.mpr
            ⟨_, m, run_map_eq_some.mpr ⟨first, hWord, rfl⟩,
              more, hMore, rfl⟩, rfl⟩
      have hNote : ∃ i, note.run k = some ((), i) := by
        rcases exists_run_optional (char '*') k with
          ⟨mark?, j, hMark⟩
        rcases exists_run_optional (spaces.optional *> bracketed) j
          with ⟨remark?, i, hRemark⟩
        exact ⟨i, run_as_eq_some.mpr
          ⟨⟨remark?, run_seqRight_eq_some.mpr
            ⟨mark?, j, hMark, hRemark⟩⟩, rfl⟩⟩
      rcases hNote with ⟨i, hNote⟩
      rcases exists_run_optional ((literal ",").padded spaces) i with
        ⟨comma?, r, hComma⟩
      have hMoves := (named_of_run hName).1.nonempty
      have hAfter : k.position ≤ r.position :=
        Nat.le_trans (Forward.le hNote) (Forward.le hComma)
      refine ⟨_, r, run_seqLeft_eq_some.mpr
        ⟨i, run_seqLeft_eq_some.mpr ⟨k, hName, (), hNote⟩,
          comma?, hComma⟩, ?_⟩
      exact Nat.lt_of_lt_of_le hMoves hAfter

/- A list without names is one where no letter is next. -/
theorem run_spellList_eq_nil_iff :
    spellList.run c = some ([], r) ↔
      c = r ∧ NotNext isWordLetter c.ahead := by
  change listItem.repeated.run c = some ([], r) ↔ _
  rw [run_repeated_eq_some]
  constructor
  · rintro ⟨hChain, hStuck⟩
    cases hChain with
    | nil =>
        refine ⟨rfl, ?_⟩
        by_contra hLetter
        rcases exists_run_listItem hLetter with
          ⟨name, m, hRun, hMoves⟩
        have hBack := hStuck name m hRun
        omega
  · rintro ⟨rfl, hNext⟩
    refine ⟨.nil, ?_⟩
    intro name m hRun
    rw [starts_listItem.run_eq_none hNext] at hRun
    cases hRun

/- A list starts with a colon and the spaces that follow it. -/
theorem run_listStart_iff
    {closing : String} :
    (listStart closing).run c = some ((), r) ↔
      ∃ gap, (∀ a ∈ gap, isGap a = true) ∧
        c.ahead = closing.toList ++ ':' :: (gap ++ r.ahead) ∧
        NotNext isGap r.ahead := by
  rw [listStart, run_as_eq_some]
  simp only [run_seqLeft_eq_some, run_literal_eq_some,
    run_char_eq_some]
  constructor
  · rintro
      ⟨⟨_, m, ⟨k, ⟨-, hClosing⟩, _, rfl, hColon⟩, hSpaces⟩, -⟩
    rcases run_optional_spaces_iff.mp hSpaces with
      ⟨gap, hGap, hAhead, hNext⟩
    exact ⟨gap, hGap, by rw [hClosing, hColon, hAhead], hNext⟩
  · rintro ⟨gap, hGap, hAhead, hNext⟩
    rcases Cursor.exists_of_ahead_eq_append hAhead with ⟨k, hK⟩
    rcases Cursor.exists_of_ahead_eq_cons hK with ⟨m, hM⟩
    have hSpaces := run_optional_spaces_iff.mpr
      ⟨gap, hGap, hM, hNext⟩
    exact ⟨⟨closing, m, ⟨k, ⟨rfl, by rw [hAhead, hK]⟩,
      ':', rfl, by rw [hK, hM]⟩, hSpaces⟩, trivial⟩

/- Uses that are not meant for each spell, as they are read. -/
theorem run_perDayParser_shared_iff
    {n : UInt32} :
    LimitedUse.perDayParser.run c = some ((n, false), r) ↔
      ∃ digits mark, Numeral digits n ∧
        (mark = [] ∨ mark = ['e']) ∧
          c.ahead = digits ++ (mark ++ ("/day".toList ++ r.ahead)) ∧
            " each".toList.isPrefixOf r.ahead = false := by
  rw [LimitedUse.perDayParser]
  simp only [run_seq_eq_some, run_map_eq_some]
  constructor
  · rintro ⟨_, m, ⟨k, hAmount, rfl⟩, each?, hEach, hLimit⟩
    rw [Prod.mk.injEq, Option.isSome_eq_false_iff,
      Option.isNone_iff_eq_none] at hLimit
    rcases hLimit with ⟨rfl, rfl⟩
    rcases LimitedUse.run_dailyAmount_iff.mp hAmount with
      ⟨digits, mark, hDigits, hMark, hAhead⟩
    rcases run_optional_eq_some.mp hEach with
      ⟨_, -, hSome⟩ | ⟨-, -, rfl⟩
    · cases hSome
    · rcases (readsText_literal " each").run_optional_iff.mp
          ⟨none, hEach⟩ with hText | ⟨hOther, -⟩
      · exact absurd (List.self_eq_append_left.mp hText) (by decide)
      · exact ⟨digits, mark, hDigits, hMark, hAhead, hOther⟩
  · rintro ⟨digits, mark, hDigits, hMark, hAhead, hOther⟩
    have hEach :
        (literal " each").optional.run r = some (none, r) :=
      run_optional_eq_some.mpr
        (Or.inr ⟨run_literal_eq_none hOther, rfl, rfl⟩)
    exact
      ⟨_, r, ⟨n, LimitedUse.run_dailyAmount_iff.mpr
        ⟨digits, mark, hDigits, hMark, hAhead⟩, rfl⟩,
        none, hEach, rfl⟩

/- A rate that spells share is a number of uses each day. -/
theorem run_rateParser_shared_iff
    {limit : Option LimitedUse} :
    rateParser.run c = some ((limit, true), r) ↔
      ∃ n, limit = some (.perDay n) ∧
        LimitedUse.perDayParser.run c = some ((n, false), r) := by
  rw [rateParser, run_orElse_eq_some]
  constructor
  · rintro (hFirst | ⟨-, hSecond⟩)
    · cases (run_as_eq_some.mp hFirst).2
    · rcases run_map_eq_some.mp hSecond with
        ⟨⟨n, each⟩, hRun, hRate⟩
      rw [Prod.mk.injEq, Bool.not_eq_true'] at hRate
      rcases hRate with ⟨rfl, rfl⟩
      exact ⟨n, rfl, hRun⟩
  · rintro ⟨n, rfl, hRun⟩
    refine Or.inr ⟨?_, run_map_eq_some.mpr ⟨_, hRun, rfl⟩⟩
    rcases run_perDayParser_shared_iff.mp hRun with
      ⟨digits, mark, hDigits, -, hAhead, -⟩
    have hLetter : Starts (fun a => !a.isDigit) (literal "at will") :=
      starts_literal (by decide)
    apply hLetter.map.run_eq_none
    rw [hAhead]
    apply notNext_append
    rcases List.exists_cons_of_ne_nil hDigits.ne_nil with
      ⟨a, more, rfl⟩
    simpa using hDigits.isDigit a (List.mem_cons_self ..)

/- What is read where a shared rate stands without a name. -/
theorem run_spellsByUseParser_iff
    {limit : Option LimitedUse} :
    (∃ r, spellsByUseParser.run c =
        some (.spellsByUse limit true [], r)) ↔
      ∃ n, limit = some (.perDay n) ∧ Nameless c.ahead n := by
  rw [spellsByUseParser]
  simp only [run_seq_eq_some, run_map_eq_some, run_seqLeft_eq_some]
  constructor
  · rintro
      ⟨r, _, m, ⟨⟨rate, shared⟩, ⟨k, hRate, _, hStart⟩, rfl⟩,
        names, hNames, hFragment⟩
    cases hFragment
    rcases run_rateParser_shared_iff.mp hRate with ⟨n, rfl, hLimit⟩
    rcases run_perDayParser_shared_iff.mp hLimit with
      ⟨digits, mark, hDigits, hMark, hAhead, -⟩
    rcases run_listStart_iff.mp hStart with
      ⟨gap, hGap, hColon, hGapEnd⟩
    rcases run_spellList_eq_nil_iff.mp hNames with ⟨rfl, hNoName⟩
    refine ⟨n, rfl, ?_⟩
    rw [hAhead, hColon]
    exact .mk hDigits hMark hGap hGapEnd hNoName
  · rintro ⟨n, rfl, hNameless⟩
    generalize hAhead : c.ahead = cs at hNameless
    cases hNameless with
    | @mk digits mark gap rest _ hDigits hMark hGap hGapEnd hNoName =>
        have hFront :
            c.ahead =
              (digits ++ (mark ++ "/day".toList)) ++
                ':' :: (gap ++ rest) := by
          rw [hAhead]
          simp
        rcases Cursor.exists_of_ahead_eq_append hFront with ⟨m, hM⟩
        rcases Cursor.exists_of_ahead_eq_cons hM with ⟨k, hK⟩
        rcases Cursor.exists_of_ahead_eq_append hK with ⟨r, rfl⟩
        have hLimit :
            LimitedUse.perDayParser.run c = some ((n, false), m) :=
          run_perDayParser_shared_iff.mpr
            ⟨digits, mark, hDigits, hMark, by rw [hAhead, hM]; rfl,
              by rw [hM]; rfl⟩
        have hStart : (listStart "").run m = some ((), r) :=
          run_listStart_iff.mpr ⟨gap, hGap, hM, hGapEnd⟩
        exact
          ⟨r, _, r, ⟨(some (.perDay n), true),
            ⟨m, run_rateParser_shared_iff.mpr ⟨n, rfl, hLimit⟩,
              (), hStart⟩, rfl⟩,
            [], run_spellList_eq_nil_iff.mpr ⟨rfl, hNoName⟩, rfl⟩

/- Only a list with uses is read as one. -/
theorem run_spellsByUseParser_of_fragment
    {limit : Option LimitedUse}
    {shared : Bool}
    {names : List ListedName}
    (hRun :
      fragmentParser.run c =
        some (.spellsByUse limit shared names, r)) :
    spellsByUseParser.run c =
      some (.spellsByUse limit shared names, r) := by
  rcases exists_of_run_firstOf hRun with ⟨p, hMem, hFound⟩
  simp only [List.mem_cons, List.not_mem_nil, or_false] at hMem
  rcases hMem with
    rfl | rfl | rfl | rfl | rfl | rfl | rfl | rfl
  iterate 6
    · rcases run_map_eq_some.mp hFound with ⟨_, -, hOther⟩
      cases hOther
  · rcases run_seq_eq_some.mp hFound with
      ⟨_, _, hFront, _, -, hOther⟩
    rcases run_seq_eq_some.mp hFront with
      ⟨_, _, hLevel, _, -, rfl⟩
    rcases run_map_eq_some.mp hLevel with ⟨_, -, rfl⟩
    cases hOther
  · exact hFound

/- A group without spells is read where no name follows a rate. -/
theorem nameless_of_run
    {f : Fragment}
    {g : SpellGroup}
    (hRun : fragmentParser.run c = some (f, r))
    (hBare : f.bareGroup? = some g) :
    ∃ n, g.limitedUse = some (.perDay n) ∧ Nameless c.ahead n := by
  rcases bareGroup?_eq_some_iff.mp hBare with ⟨limit, rfl, rfl⟩
  exact run_spellsByUseParser_iff.mp
    ⟨r, run_spellsByUseParser_of_fragment hRun⟩

------------------------------------------------------------
-- Descriptions
------------------------------------------------------------

/-
  What the groups of a spellcasting in a text are: those without
  spells come from shared rates that have no names, and the
  title of a group with a limit begins with its spells unless it
  has none.
-/
structure Grouped
    (prose : Prose)
    (s : Spellcasting) : Prop where
  filter_isEmpty :
    (s.groups.filter fun g => g.spells.isEmpty) =
      (fragmentsIn prose).filterMap Fragment.bareGroup?
  nameless :
    ∀ g ∈ s.groups, g.spells = [] →
      ∃ (c : Cursor prose) (n : UInt32),
        g.limitedUse = some (.perDay n) ∧ Nameless c.ahead n
  title :
    ∀ g ∈ s.groups, ∀ limit, g.limitedUse = some limit →
      (StatBlock.groupUses? g =
          some (" (" ++ limit.text ++ ")", limit.amount.toNat) ↔
        g.spells = [])

/- The groups of fragments that are added one after the other. -/
theorem grouped_foldl_add (prose : Prose) :
    Grouped prose ((fragmentsIn prose).foldl add unknown) := by
  have hGroups :
      ((fragmentsIn prose).foldl add unknown).groups =
        (fragmentsIn prose).flatMap Fragment.groups :=
    groups_foldl_add unknown _
  have hRead :
      ∀ f ∈ fragmentsIn prose, ∃ c r : Cursor prose,
        fragmentParser.run c = some (f, r) := by
    rcases exists_chain_fragmentsIn prose with ⟨r, hChain⟩
    exact hChain.exists_run
  have hEmpty :
      (((fragmentsIn prose).foldl add unknown).groups.filter
          fun g => g.spells.isEmpty) =
        (fragmentsIn prose).filterMap Fragment.bareGroup? := by
    rw [hGroups, List.filter_flatMap,
      List.filterMap_eq_flatMap_toList]
    simp only [filter_groups]
  refine ⟨hEmpty, ?_, ?_⟩
  · intro g hGroup hNone
    have hMem : g ∈ (fragmentsIn prose).filterMap
        Fragment.bareGroup? := by
      rw [← hEmpty]
      exact List.mem_filter.mpr
        ⟨hGroup, List.isEmpty_iff.mpr hNone⟩
    rcases List.mem_filterMap.mp hMem with ⟨f, hFragment, hBare⟩
    rcases hRead f hFragment with ⟨c, r, hRun⟩
    rcases nameless_of_run hRun hBare with ⟨n, hLimit, hNameless⟩
    exact ⟨c, n, hLimit, hNameless⟩
  · intro g hGroup limit hLimit
    rw [hGroups] at hGroup
    rcases List.mem_flatMap.mp hGroup with ⟨f, hFragment, hGroup⟩
    rcases hRead f hFragment with ⟨c, r, hRun⟩
    apply StatBlock.groupUses?_eq_iff hLimit
    intro spell hSpell
    rcases exists_name_of_mem_groups hGroup spell hSpell with
      ⟨name, hName, rfl⟩
    exact yields_fragmentParser.of_run hRun name hName

/- So are the groups of every spellcasting in a description. -/
theorem grouped_of_ofText?
    {name description : String}
    {s : Spellcasting}
    (hFound : ofText? name description = some s) :
    Grouped (Prose.folded description) s := by
  have hGrouped := grouped_foldl_add (Prose.folded description)
  unfold ofText? at hFound
  dsimp only at hFound
  split at hFound
  · rw [value?_eq_foldl, Option.map_some, Option.some.injEq] at hFound
    rw [← hFound]
    exact ⟨hGrouped.filter_isEmpty, hGrouped.nameless,
      hGrouped.title⟩
  · cases hFound

/- Uses with a name, and others whose names are left out. -/
def unfinishedLists : String :=
  "2/day each: fear, fly\n3/day: (see below)"

theorem grouped_of_ofText?_unfinishedLists :
    ∃ s, ofText? "Spellcasting" unfinishedLists = some s ∧
      s.groups =
        [⟨[spellOf ⟨"fear", ⟨12, 16⟩⟩], some (.perDay 2)⟩,
          ⟨[spellOf ⟨"fly", ⟨18, 21⟩⟩], some (.perDay 2)⟩,
          ⟨[], some (.perDay 3)⟩] ∧
        Grouped (Prose.folded unfinishedLists) s := by
  have hFound :
      ofText? "Spellcasting" unfinishedLists =
        some { unknown with
          groups :=
            [⟨[spellOf ⟨"fear", ⟨12, 16⟩⟩], some (.perDay 2)⟩,
              ⟨[spellOf ⟨"fly", ⟨18, 21⟩⟩], some (.perDay 2)⟩,
              ⟨[], some (.perDay 3)⟩] } := by
    decide +kernel
  exact ⟨_, hFound, rfl, grouped_of_ofText? hFound⟩

/- Such a list becomes a group without spells. -/
theorem not_always_spells_in_groups :
    ¬ ∀ name description s, ofText? name description = some s →
      ∀ g ∈ s.groups, g.spells ≠ [] := by
  intro hAlways
  have hFound :
      ofText? "Spellcasting" "3/day:" =
        some { unknown with
          groups := [⟨[], some (.perDay 3)⟩] } := by
    decide +kernel
  exact hAlways _ _ _ hFound _ (List.mem_cons_self ..) rfl

end Spellcasting

end CreatureProse
