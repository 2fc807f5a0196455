import StagedEvents.Proofs.Config.Keys

/-!
# The last setting of a field counts

A list of settings gives texts to fields, each under one of the names of its field. A
configuration is built from the list if every text can be read, and then each field of each section
holds what the last text given to it says. Nothing else of the list matters: not the order of
settings of different fields, and no setting that a later one of its field follows.

* `Field.ofName?_eq_some_iff`: the names of a field.
* `Config.Sets`, `Config.textsFor`: the texts that a list of settings gives to a field.
* `Config.ofPairs_isOk_iff`: when a configuration can be built.
* `Config.get?_ofPairs`: what it holds.
* `last_text_counts`: the result.
-/

namespace StagedEvents

variable {key value option : String} {place other : Section} {f g : Field}

/-- A field goes by its canonical name and by its second one, and no name is that of two fields. -/
theorem Field.ofName?_eq_some_iff :
    Field.ofName? option = some f ↔ option = f.name ∨ f.alias? = some option := by
  constructor
  · intro known
    have named := List.find?_some known
    rw [Bool.or_eq_true, beq_iff_eq, beq_iff_eq] at named
    exact named.imp Eq.symm id
  · rintro (rfl | second)
    · cases f <;> decide
    · cases f <;> cases second <;> decide

namespace Config

variable {c d : Config} {pairs pairs' : List (String × String)}

/-- A key sets a field of a section: it names an option of the section by a name of the field. -/
def Sets (key : String) (place : Section) (f : Field) : Prop :=
  ∃ option, Names key place option ∧ (option = f.name ∨ f.alias? = some option)

theorem sets_iff : Sets key place f ↔ ∃ option, addressed? key = some (place, option, f) := by
  refine exists_congr fun option => ?_
  rw [addressed?_iff_names, Field.ofName?_eq_some_iff]

instance : Decidable (Sets key place f) :=
  decidable_of_iff
    ((addressed? key).map (fun found => (found.1, found.2.2)) = some (place, f)) <| by
    rw [sets_iff, Option.map_eq_some_iff]
    constructor
    · rintro ⟨⟨_, option, _⟩, found, same⟩
      cases same
      exact ⟨option, found⟩
    · rintro ⟨option, found⟩
      exact ⟨_, found, rfl⟩

/-- A key sets one field of one section at most. -/
theorem Sets.unique (sets : Sets key place f) (sets' : Sets key other g) :
    other = place ∧ g = f := by
  obtain ⟨option, found⟩ := sets_iff.1 sets
  obtain ⟨option', found'⟩ := sets_iff.1 sets'
  cases found.symm.trans found'
  exact ⟨rfl, rfl⟩

/-- The texts that settings give to a field of a section, one after the other. -/
def textsFor (place : Section) (f : Field) (pairs : List (String × String)) : List String :=
  (pairs.filter fun pair => Sets pair.1 place f).map Prod.snd

/-- What the last text that settings give to a field of a section says of it. -/
def lastSaid? (place : Section) (f : Field) (pairs : List (String × String)) :
    Option (Option Setting) :=
  (textsFor place f pairs).getLast?.bind fun text => f.reading? text.toList

/-- The two configurations amount to the same for every stage, and for a handler that fails. -/
def Alike (c d : Config) : Prop :=
  (∀ name, c.resolve name = d.resolve name) ∧ c.crashOnException = d.crashOnException

/-! ## Texts of a list -/

theorem textsFor_cons_of_sets (sets : Sets key place f) :
    textsFor place f ((key, value) :: pairs) = value :: textsFor place f pairs := by
  rw [textsFor, List.filter_cons_of_pos (by simpa using sets), List.map_cons, ← textsFor]

theorem textsFor_cons_of_not_sets (sets : ¬Sets key place f) :
    textsFor place f ((key, value) :: pairs) = textsFor place f pairs := by
  rw [textsFor, List.filter_cons_of_neg (by simpa using sets), ← textsFor]

theorem textsFor_append (pairs pairs' : List (String × String)) :
    textsFor place f (pairs ++ pairs') = textsFor place f pairs ++ textsFor place f pairs' := by
  rw [textsFor, List.filter_append, List.map_append, ← textsFor, ← textsFor]

theorem mem_textsFor {text : String} :
    text ∈ textsFor place f pairs ↔ ∃ key, (key, text) ∈ pairs ∧ Sets key place f := by
  simp [textsFor]

/-! ## What is built from a list -/

/-- Two configurations with the same tables of settings are alike. -/
theorem alike_of_get? (same : ∀ place f, (c.options place).get? f = (d.options place).get? f) :
    Alike c d := by
  have same (place) : c.options place = d.options place := Options.ext_get? (same place)
  exact ⟨resolve_congr same, crashOnException_congr (same .global)⟩

/-- A setting is an error if its key sets a field that the text cannot be read for. -/
theorem set_ok_iff (c : Config) (key value : String) : (c.set key value).2 = .ok () ↔
    ∀ place f, Sets key place f → (f.reading? value.toList).isSome = true := by
  cases addressed : addressed? key with
  | none =>
    refine iff_of_true (set_elsewhere addressed value c).1 fun place f sets => ?_
    obtain ⟨option, found⟩ := sets_iff.1 sets
    cases addressed.symm.trans found
  | some address =>
    obtain ⟨place, option, f⟩ := address
    have sets : Sets key place f := sets_iff.2 ⟨option, addressed⟩
    cases read : f.reading? value.toList with
    | none =>
      rw [(set_unreadable addressed read c).1]
      refine iff_of_false nofun fun readable => ?_
      have := readable place f sets
      rw [read] at this
      cases this
    | some reading =>
      refine iff_of_true (set_readable addressed read c).1 fun other g sets' => ?_
      obtain ⟨rfl, rfl⟩ := sets.unique sets'
      rw [read]
      rfl

/-- What a field holds after a setting that is no error. -/
theorem get?_set (ok : (c.set key value).2 = .ok ()) (place : Section) (f : Field) :
    ((c.set key value).1.options place).get? f =
      if Sets key place f then (f.reading? value.toList).getD none
      else (c.options place).get? f := by
  cases addressed : addressed? key with
  | none =>
    rw [(set_elsewhere addressed value c).2, if_neg]
    intro sets
    obtain ⟨option, found⟩ := sets_iff.1 sets
    cases addressed.symm.trans found
  | some address =>
    obtain ⟨place', option, f'⟩ := address
    have sets : Sets key place' f' := sets_iff.2 ⟨option, addressed⟩
    obtain ⟨reading, read⟩ := Option.isSome_iff_exists.1 ((set_ok_iff c key value).1 ok _ _ sets)
    obtain ⟨-, here, elsewhere⟩ := set_readable addressed read c
    split
    · rename_i sets'
      obtain ⟨rfl, rfl⟩ := sets.unique sets'
      rw [here, read]
      rfl
    · rename_i apart
      refine elsewhere place f fun same => apart ?_
      obtain ⟨rfl, rfl⟩ := Prod.mk.inj same
      exact sets

theorem apply_cons (c d : Config) (key value : String) (pairs : List (String × String)) :
    c.apply ((key, value) :: pairs) = .ok d ↔
      (c.set key value).2 = .ok () ∧ (c.set key value).1.apply pairs = .ok d := by
  rw [apply]
  obtain ⟨after, answer⟩ := c.set key value
  cases answer with
  | error error => exact iff_of_false nofun fun h => nomatch h.1
  | ok => exact (and_iff_right rfl).symm

/-- Settings can be applied if every text they give to a field can be read. -/
theorem apply_isOk_iff (c : Config) (pairs : List (String × String)) :
    (∃ d, c.apply pairs = .ok d) ↔
      ∀ place f, ∀ text ∈ textsFor place f pairs, (f.reading? text.toList).isSome = true := by
  induction pairs generalizing c with
  | nil => exact iff_of_true ⟨c, rfl⟩ nofun
  | cons pair pairs ih =>
    obtain ⟨key, value⟩ := pair
    simp only [apply_cons, exists_and_left, ih, set_ok_iff]
    constructor
    · rintro ⟨first, others⟩ place f text given
      by_cases sets : Sets key place f
      · rw [textsFor_cons_of_sets sets] at given
        rcases List.mem_cons.1 given with rfl | given
        · exact first place f sets
        · exact others place f text given
      · rw [textsFor_cons_of_not_sets sets] at given
        exact others place f text given
    · intro readable
      refine ⟨fun place f sets => readable place f value ?_, fun place f text given =>
        readable place f text ?_⟩
      · rw [textsFor_cons_of_sets sets]
        exact List.mem_cons_self
      · obtain ⟨key', listed, sets⟩ := mem_textsFor.1 given
        exact mem_textsFor.2 ⟨key', List.mem_cons_of_mem _ listed, sets⟩

/-- After settings, a field holds what the last text given to it says, and what it held before if
    none is. -/
theorem get?_apply (ok : c.apply pairs = .ok d) (place : Section) (f : Field) :
    (d.options place).get? f = (lastSaid? place f pairs).getD ((c.options place).get? f) := by
  induction pairs generalizing c with
  | nil =>
    cases ok
    rfl
  | cons pair pairs ih =>
    obtain ⟨key, value⟩ := pair
    obtain ⟨first, others⟩ := (apply_cons c d key value pairs).1 ok
    rw [ih others, get?_set first]
    by_cases sets : Sets key place f
    · rw [if_pos sets, lastSaid?, lastSaid?, textsFor_cons_of_sets sets, List.getLast?_cons]
      cases last : (textsFor place f pairs).getLast? with
      | none =>
        -- no later text: the field was set, so the text that set it could be read
        have read := (set_ok_iff c key value).1 first place f sets
        obtain ⟨reading, read⟩ := Option.isSome_iff_exists.1 read
        simp [read]
      | some text =>
        have given := List.mem_of_getLast? last
        have read := (apply_isOk_iff _ pairs).1 ⟨d, others⟩ place f text given
        obtain ⟨reading, read⟩ := Option.isSome_iff_exists.1 read
        simp [read]
    · rw [if_neg sets, lastSaid?, lastSaid?, textsFor_cons_of_not_sets sets]

/-- A configuration can be built from settings if every text they give to a field can be read. -/
theorem ofPairs_isOk_iff : (∃ c, ofPairs pairs = .ok c) ↔
    ∀ place f, ∀ text ∈ textsFor place f pairs, (f.reading? text.toList).isSome = true :=
  apply_isOk_iff _ _

/-- What is built holds what the last texts say, and nothing else. -/
theorem get?_ofPairs (ok : ofPairs pairs = .ok c) (place : Section) (f : Field) :
    (c.options place).get? f = (lastSaid? place f pairs).getD none := by
  rw [get?_apply ok]
  congr 1
  cases place <;> cases f <;> rfl

/-- Lists with the same last texts are built into the same. -/
theorem alike_of_getLast? (ok : ofPairs pairs = .ok c) (ok' : ofPairs pairs' = .ok d)
    (same : ∀ place f, (textsFor place f pairs').getLast? = (textsFor place f pairs).getLast?) :
    Alike d c :=
  alike_of_get? fun place f => by
    rw [get?_ofPairs ok, get?_ofPairs ok', lastSaid?, lastSaid?, same]

/-- Settings that give no field a new text, nor another last one. -/
theorem exists_alike (ok : ofPairs pairs = .ok c)
    (known : ∀ place f, textsFor place f pairs' ⊆ textsFor place f pairs)
    (same : ∀ place f, (textsFor place f pairs').getLast? = (textsFor place f pairs).getLast?) :
    ∃ d, ofPairs pairs' = .ok d ∧ Alike d c := by
  have readable := ofPairs_isOk_iff.1 ⟨c, ok⟩
  obtain ⟨d, ok'⟩ := ofPairs_isOk_iff.2 fun place f text given =>
    readable place f text (known place f given)
  exact ⟨d, ok', alike_of_getLast? ok ok' same⟩

/-- The texts without one that a later one of its field follows. -/
theorem textsFor_of_followed {before after : List (String × String)}
    (followed : Sets key place f → ∃ later ∈ after, Sets later.1 place f) :
    textsFor place f (before ++ after) ⊆ textsFor place f (before ++ (key, value) :: after) ∧
      (textsFor place f (before ++ after)).getLast? =
        (textsFor place f (before ++ (key, value) :: after)).getLast? := by
  rw [textsFor_append, textsFor_append]
  by_cases sets : Sets key place f
  · obtain ⟨⟨key', text⟩, listed, sets'⟩ := followed sets
    have later : textsFor place f after ≠ [] :=
      List.ne_nil_of_mem (mem_textsFor.2 ⟨key', listed, sets'⟩)
    rw [textsFor_cons_of_sets sets, List.getLast?_append, List.getLast?_append, List.getLast?_cons,
      List.getLast?_eq_some_getLast later]
    refine ⟨fun text given => ?_, rfl⟩
    rw [List.mem_append, List.mem_cons]
    exact (List.mem_append.1 given).imp_right .inr
  · rw [textsFor_cons_of_not_sets sets]
    exact ⟨List.Subset.refl _, rfl⟩

/-- A setting that is an error, or sets no field, changes nothing. -/
theorem alike_set (idle : (c.set key value).2 ≠ .ok () ∨ ∀ place f, ¬Sets key place f) :
    Alike (c.set key value).1 c := by
  refine alike_of_get? fun place f => ?_
  cases addressed : addressed? key with
  | none => rw [(set_elsewhere addressed value c).2]
  | some address =>
    obtain ⟨place', option, f'⟩ := address
    cases read : f'.reading? value.toList with
    | none => rw [(set_unreadable addressed read c).2]
    | some reading =>
      rcases idle with error | nothing
      · exact absurd (set_readable addressed read c).1 error
      · exact absurd (sets_iff.2 ⟨option, addressed⟩) (nothing place' f')

/-- **The last setting of a field counts, and nothing else.** If a configuration can be built from
    a list of settings:

    * a field of a section holds what the last text given to it says, and nothing if none is;
    * any other list from which one can be built gives the same, if its last texts are the same;
    * one can be built, and it is the same, from every list that gives each field the same texts
      in the same order, as after settings of different fields have changed places;
    * so it is without a setting that a later one of its field follows.

    A setting that is an error, or whose key names no option that is known, changes nothing. -/
theorem last_text_counts :
    (∀ pairs c, ofPairs pairs = .ok c →
      (∀ place f, (c.options place).get? f = (lastSaid? place f pairs).getD none) ∧
      (∀ pairs' d, ofPairs pairs' = .ok d →
        (∀ place f, (textsFor place f pairs').getLast? = (textsFor place f pairs).getLast?) →
        Alike d c) ∧
      (∀ pairs', (∀ place f, textsFor place f pairs' = textsFor place f pairs) →
        ∃ d, ofPairs pairs' = .ok d ∧ Alike d c) ∧
      (∀ before key value after, pairs = before ++ (key, value) :: after →
        (∀ place f, Sets key place f → ∃ later ∈ after, Sets later.1 place f) →
        ∃ d, ofPairs (before ++ after) = .ok d ∧ Alike d c)) ∧
    ∀ (c : Config) key value,
      ((c.set key value).2 ≠ .ok () ∨ ∀ place f, ¬Sets key place f) →
      Alike (c.set key value).1 c := by
  refine ⟨fun pairs c ok => ⟨get?_ofPairs ok, fun pairs' d ok' => alike_of_getLast? ok ok',
    fun pairs' same => ?_, ?_⟩, fun c key value => alike_set⟩
  · refine exists_alike ok (fun place f => ?_) fun place f => by rw [same]
    rw [same]
    exact List.Subset.refl _
  · rintro before key value after rfl followed
    exact exists_alike ok (fun place f => (textsFor_of_followed (followed place f)).1)
      fun place f => (textsFor_of_followed (followed place f)).2

/-- Settings with a time that is set again under its other name. -/
def settings : List (String × String) :=
  [("global.threadPool.blockTime", "250"), ("stages.web.maxThreads", "4"),
    ("global.blockTimeMillis", " 300 "), ("stages.web.queueThreshold", "7")]

/-- The later time counts, without the earlier one as with it; and a time that cannot be read
    changes nothing. -/
theorem last_text_counts_again : ∃ c, ofPairs settings = .ok c ∧
    (c.options .global).get? .blockTimeMillis = some (.count 300) ∧
    (∃ d, ofPairs settings.tail = .ok d ∧ Alike d c) ∧
    (c.set "global.blockTime" "soon").2 ≠ .ok () ∧
    Alike (c.set "global.blockTime" "soon").1 c := by
  obtain ⟨c, ok⟩ : ∃ c, ofPairs settings = .ok c := ⟨_, rfl⟩
  obtain ⟨counts, nothing⟩ := last_text_counts
  obtain ⟨holds, -, -, without⟩ := counts settings c ok
  have sets : Sets "global.blockTimeMillis" .global .blockTimeMillis := by decide +kernel
  have sets' : Sets "global.blockTime" .global .blockTimeMillis := by decide +kernel
  have last : lastSaid? .global .blockTimeMillis settings = some (some (.count 300)) := by
    rfl
  have error : (c.set "global.blockTime" "soon").2 ≠ .ok () := fun read =>
    Bool.false_ne_true ((set_ok_iff _ _ _).1 read _ _ sets')
  refine ⟨c, ok, ?_, without [] _ _ _ rfl fun place f first => ?_, error,
    nothing _ _ _ (.inl error)⟩
  · rw [holds, last]
    rfl
  · have first' : Sets "global.threadPool.blockTime" .global .blockTimeMillis := by decide +kernel
    obtain ⟨rfl, rfl⟩ := first'.unique first
    exact ⟨("global.blockTimeMillis", " 300 "), by decide, sets⟩

end Config

end StagedEvents
