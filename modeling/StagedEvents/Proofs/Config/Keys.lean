import StagedEvents.Proofs.Config.Sections

/-!
# The grammar of keys

A key is a list of segments with points between them: first those of a section, at last the name
of an option, with the name of a group between them or nothing. These are the keys that are
meant (`Proper`). More keys than these name an option: any segments are passed over between the
section and the option, and groups behind it too (`Names`).

* `segments_eq_iff`: splitting a key and joining segments are inverse to each other.
* `Config.addressed?_iff_names`: what a key addresses.
* `set_changes_named`: a setting changes the option that its key names, and nothing else.
* `improper_key_obeyed`: keys that are not meant change options.
-/

namespace StagedEvents

/-! ## Keys as texts -/

/-- The key with the given segments. -/
def keyOf (segments : List String) : String := ".".intercalate segments

/-- The segments of a key. -/
def segmentsOf (key : String) : List String := (keySegments key.toList).map String.ofList

/-- Segments without points. -/
def Pointless (segments : List String) : Prop := ∀ segment ∈ segments, '.' ∉ segment.toList

instance : DecidablePred Pointless :=
  fun segments => inferInstanceAs (Decidable (∀ segment ∈ segments, '.' ∉ segment.toList))

theorem keySegments_eq (key : List Char) : keySegments key = key.splitOn '.' := by
  induction key with
  | nil => rfl
  | cons c rest ih =>
    rw [keySegments, ih, List.splitOn, List.splitOn, List.splitOnP_cons_eq_if_modifyHead]
    cases split : rest.splitOnP (· == '.') with
    | nil => exact absurd split (List.splitOnP_ne_nil _ _)
    | cons segment others => by_cases point : c = '.' <;> simp [point]

theorem keySegments_pointless (key : List Char) : ∀ segment ∈ keySegments key, '.' ∉ segment := by
  induction key with
  | nil => simp [keySegments]
  | cons c rest ih =>
    rw [keySegments]
    cases split : keySegments rest with
    | nil =>
      rw [keySegments_eq] at split
      exact absurd split (List.splitOnP_ne_nil _ _)
    | cons segment others =>
      rw [split] at ih
      obtain ⟨first, later⟩ := List.forall_mem_cons.1 ih
      by_cases point : c = '.'
      · simp only [point, if_true]
        exact List.forall_mem_cons.2 ⟨by simp, ih⟩
      · simp only [point, if_false]
        refine List.forall_mem_cons.2 ⟨fun mem => ?_, later⟩
        exact (List.mem_cons.1 mem).elim (fun same => point same.symm) first

/-- A key has these segments if there is no point in any of them and it is what they make when
    they are joined. -/
theorem segments_eq_iff {key : String} {segments : List String} (some : segments ≠ []) :
    segmentsOf key = segments ↔ Pointless segments ∧ key = keyOf segments := by
  have ofList (texts : List (List Char)) : (texts.map String.ofList).map String.toList = texts := by
    simp [List.map_map, Function.comp_def]
  have toList (texts : List String) : (texts.map String.toList).map String.ofList = texts := by
    simp [List.map_map, Function.comp_def]
  constructor
  · rintro rfl
    refine ⟨fun segment mem => ?_, ?_⟩
    · obtain ⟨text, listed, rfl⟩ := List.mem_map.1 mem
      rw [String.toList_ofList]
      exact keySegments_pointless key.toList text listed
    · apply String.toList_inj.1
      rw [keyOf, String.toList_intercalate, segmentsOf, ofList, keySegments_eq]
      exact (List.intercalate_splitOn '.').symm
  · rintro ⟨pointless, rfl⟩
    rw [segmentsOf, keySegments_eq, keyOf, String.toList_intercalate]
    have free : ∀ text ∈ segments.map String.toList, '.' ∉ text := by
      intro text mem
      obtain ⟨segment, listed, rfl⟩ := List.mem_map.1 mem
      exact pointless segment listed
    have split := List.splitOn_intercalate '.' free (by simpa using some)
    exact (congrArg (List.map String.ofList) split).trans (toList segments)

/-! ## Keys of options -/

/-- The segments that keys for a section begin with. -/
def Section.segments : Section → List String
  | .global => ["global"]
  | .stage name => ["stages", name]

/-- A key names an option of a section: between the two are any segments, and behind the option
    only groups. -/
def Names (key : String) (place : Section) (option : String) : Prop :=
  ∃ between behind, (∀ segment ∈ behind, segment ∈ groupNames) ∧
    Pointless (place.segments ++ (between ++ option :: behind)) ∧
    key = keyOf (place.segments ++ (between ++ option :: behind))

/-- A key as it is meant: the section, a group or none, and the option. -/
def Proper (key : String) (place : Section) (option : String) : Prop :=
  ∃ group : Option String, (∀ segment ∈ group, segment ∈ groupNames) ∧
    Pointless (place.segments ++ (group.toList ++ [option])) ∧
    key = keyOf (place.segments ++ (group.toList ++ [option]))

variable {key value option : String} {place : Section} {f : Field}

theorem Section.segments_append_ne_nil (place : Section) (segments : List String) :
    place.segments ++ segments ≠ [] := by
  cases place <;> exact List.cons_ne_nil _ _

theorem Proper.segmentsOf_eq (proper : Proper key place option) :
    ∃ group : Option String, (∀ segment ∈ group, segment ∈ groupNames) ∧
      segmentsOf key = place.segments ++ (group.toList ++ [option]) := by
  obtain ⟨group, grouped, written⟩ := proper
  exact ⟨group, grouped, (segments_eq_iff (place.segments_append_ne_nil _)).2 written⟩

/-- What is meant is understood. -/
theorem Proper.names (proper : Proper key place option) : Names key place option := by
  obtain ⟨group, -, pointless, rfl⟩ := proper
  exact ⟨group.toList, [], nofun, pointless, rfl⟩

/-- The option is the last segment that is no group. -/
theorem optionSegment?_eq_some_iff {segments : List String} :
    optionSegment? segments = some option ↔ option ∉ groupNames ∧
      ∃ between behind, (∀ segment ∈ behind, segment ∈ groupNames) ∧
        segments = between ++ option :: behind := by
  have shown (segment : String) : (!groupNames.contains segment) = true ↔ segment ∉ groupNames := by
    simp
  rw [optionSegment?, List.getLast?_filter, List.find?_eq_some_iff_append, shown]
  refine and_congr_right fun _ => ?_
  constructor
  · rintro ⟨behind, between, reversed, passed⟩
    refine ⟨between.reverse, behind.reverse, fun segment mem => ?_, ?_⟩
    · simpa using passed segment (List.mem_reverse.1 mem)
    · rw [← List.reverse_reverse segments, reversed]
      simp
  · rintro ⟨between, behind, passed, rfl⟩
    refine ⟨behind.reverse, between.reverse, by simp, fun segment mem => ?_⟩
    simpa using passed segment (List.mem_reverse.1 mem)

/-- A key addresses the section whose segments it begins with. -/
theorem Address.ofKey?_eq_some_iff {option? : Option String} :
    Address.ofKey? key = some ⟨place, option?⟩ ↔
      ∃ rest, segmentsOf key = place.segments ++ rest ∧ optionSegment? rest = option? := by
  unfold ofKey? segmentsOf
  split
  · rename_i rest same
    rw [same]
    cases place <;> simp [Section.segments]
  · rename_i name rest same
    rw [same]
    cases place <;> simp [Section.segments, and_assoc]
  · rename_i unglobal unstaged
    refine iff_of_false nofun ?_
    rintro ⟨rest, same, -⟩
    cases place with
    | global => exact unglobal rest same
    | stage name => exact unstaged name rest same

/-- What a key names is what it addresses. -/
theorem names_iff : Names key place option ∧ option ∉ groupNames ↔
    Address.ofKey? key = some ⟨place, some option⟩ := by
  rw [Address.ofKey?_eq_some_iff]
  constructor
  · rintro ⟨⟨between, behind, passed, pointless, same⟩, shown⟩
    exact ⟨between ++ option :: behind,
      (segments_eq_iff (place.segments_append_ne_nil _)).2 ⟨pointless, same⟩,
      optionSegment?_eq_some_iff.2 ⟨shown, between, behind, passed, rfl⟩⟩
  · rintro ⟨rest, split, named⟩
    obtain ⟨shown, between, behind, passed, rfl⟩ := optionSegment?_eq_some_iff.1 named
    have written := (segments_eq_iff (place.segments_append_ne_nil _)).1 split
    exact ⟨⟨between, behind, passed, written⟩, shown⟩

/-- No option has the name of a group. -/
theorem Field.ofName?_group : ∀ group ∈ groupNames, Field.ofName? group = none := by
  decide

/-- A key addresses an option of a section if it names it. -/
theorem Config.addressed?_iff_names : Config.addressed? key = some (place, option, f) ↔
    Names key place option ∧ Field.ofName? option = some f := by
  rw [addressed?_eq_some_iff, ← names_iff]
  refine and_congr_left fun known => and_iff_left fun group => ?_
  rw [Field.ofName?_group option group] at known
  cases known

namespace Config

/-- **A setting changes the option that its key names.** The key names an option of a section if
    it begins with the segments of the section and the option is the last segment that is no
    group; the keys that are meant are among them. If it names an option, then the option of
    that section has the value that the text stands for, and no other option of any section
    changes; a text that stands for none is an error and changes nothing. With every other key
    nothing changes. -/
theorem set_changes_named (c : Config) (key value : String) :
    (∀ place option, Proper key place option → Names key place option) ∧
    (∀ place option f, Names key place option → Field.ofName? option = some f →
      AgreeBut place f (c.set key value).1 c ∧
      ((c.set key value).1.options place).get? f =
        (f.reading? value.toList).getD ((c.options place).get? f) ∧
      (c.set key value).2 = if (f.reading? value.toList).isSome then .ok ()
        else .error (invalidValue value option)) ∧
    ((∀ place option, Names key place option → Field.ofName? option = none) →
      (c.set key value).2 = .ok () ∧
      (∀ place, (c.set key value).1.options place = c.options place) ∧
      (∀ name, (c.set key value).1.resolve name = c.resolve name) ∧
      (c.set key value).1.crashOnException = c.crashOnException) := by
  refine ⟨fun _ _ => Proper.names, fun place option f names known => ?_, fun unnamed => ?_⟩
  · have addressed := addressed?_iff_names.2 ⟨names, known⟩
    cases read : f.reading? value.toList with
    | none =>
      obtain ⟨answer, same⟩ := set_unreadable addressed read c
      refine ⟨fun other g _ => by rw [same], ?_, answer⟩
      rw [same]
      rfl
    | some reading =>
      obtain ⟨answer, here, elsewhere⟩ := set_readable addressed read c
      exact ⟨elsewhere, here, answer⟩
  · have nothing : addressed? key = none := by
      refine Option.eq_none_iff_forall_ne_some.2 fun address found => ?_
      obtain ⟨place, option, f⟩ := address
      obtain ⟨names, known⟩ := addressed?_iff_names.1 found
      rw [unnamed place option names] at known
      cases known
    obtain ⟨answer, same⟩ := set_elsewhere nothing value c
    exact ⟨answer, same, resolve_congr same, crashOnException_congr (same .global)⟩

/-- The time that the workers of a stage wait is set, by its second name and in a group. -/
theorem set_changes_named_grouped :
    let c := (Config.empty.set "stages.web.threadPool.blockTime" " 250 ").1
    Proper "stages.web.threadPool.blockTime" (.stage "web") "blockTime" ∧
      (c.options (.stage "web")).get? .blockTimeMillis = some (.count 250) ∧
      AgreeBut (.stage "web") .blockTimeMillis c Config.empty := by
  have proper : Proper "stages.web.threadPool.blockTime" (.stage "web") "blockTime" :=
    ⟨some "threadPool", by decide, by decide, by decide +kernel⟩
  have known : Field.ofName? "blockTime" = some .blockTimeMillis := by decide
  have read : Field.blockTimeMillis.reading? " 250 ".toList = some (some (.count 250)) := by rfl
  obtain ⟨meant, named, -⟩ := set_changes_named Config.empty "stages.web.threadPool.blockTime" " 250 "
  obtain ⟨elsewhere, here, -⟩ := named _ _ _ (meant _ _ proper) known
  rw [read] at here
  exact ⟨proper, here, elsewhere⟩

/-- **Keys that are not meant change options**: one for a stage with a point in its name sets an
    option of another stage, and one that ends with a group sets the option before it. -/
theorem improper_key_obeyed :
    (∀ place option, ¬Proper "stages.web.api.maxThreads" place option) ∧
    ((Config.empty.set "stages.web.api.maxThreads" "4").1.resolve "web").pool.most ≠
      (Config.empty.resolve "web").pool.most ∧
    (∀ place option, ¬Proper "global.maxThreads.threadPool" place option) ∧
    ((Config.empty.set "global.maxThreads.threadPool" "4").1.resolve "web").pool.most ≠
      (Config.empty.resolve "web").pool.most := by
  refine ⟨fun place option proper => ?_, by decide +kernel, fun place option proper => ?_,
    by decide +kernel⟩
  · obtain ⟨group, grouped, split⟩ := proper.segmentsOf_eq
    rw [show segmentsOf "stages.web.api.maxThreads" = ["stages", "web", "api", "maxThreads"] by
      decide] at split
    cases place <;> cases group <;> simp [Section.segments] at split
    obtain ⟨-, rfl, -⟩ := split
    exact absurd (grouped "api" rfl) (by decide)
  · obtain ⟨group, grouped, split⟩ := proper.segmentsOf_eq
    rw [show segmentsOf "global.maxThreads.threadPool" = ["global", "maxThreads", "threadPool"] by
      decide] at split
    cases place <;> cases group <;> simp [Section.segments] at split
    obtain ⟨rfl, -⟩ := split
    exact absurd (grouped "maxThreads" rfl) (by decide)

end Config

end StagedEvents
