import StagedEvents.Proofs.Config.Keys

/-!
# Values of stages come before global ones

A value that is set for a stage counts for the stage, whatever the global section holds for the
option. A limit on threads that is not positive is no value: it takes away the one that the
stage had, and then the global one counts.

* `resolve_of_own`: a value of its own is all that matters for a stage.
* `own_value_counts`: the result.
* `own_limit_lost`: a limit on threads that a stage lifts, and the global one that it gets instead.
-/

namespace StagedEvents

/-- The key of an option of a section, without a group. -/
def Section.key (place : Section) (option : String) : String := keyOf (place.segments ++ [option])

/-- There is no point in the name of an option. -/
theorem Field.pointless_of_ofName? {option : String} {f : Field}
    (known : Field.ofName? option = some f) : '.' ∉ option.toList := by
  have named := List.find?_some known
  rw [Bool.or_eq_true, beq_iff_eq, beq_iff_eq] at named
  rcases named with rfl | second
  · cases f <;> decide
  · cases f <;> cases second <;> decide

namespace Config

variable {c d : Config} {name option value : String} {f : Field}

theorem proper_key (undotted : '.' ∉ name.toList) (known : Field.ofName? option = some f) :
    Proper ((Section.stage name).key option) (.stage name) option := by
  refine ⟨none, nofun, fun segment mem => ?_, rfl⟩
  rcases List.mem_cons.1 mem with rfl | mem
  · decide
  rcases List.mem_cons.1 mem with rfl | mem
  · exact undotted
  · obtain rfl := List.mem_singleton.1 mem
    exact Field.pointless_of_ofName? known

/-- Where a stage has a value of its own, nothing else of that option matters for it. -/
theorem resolve_of_own {own : Setting} (agree : AgreeBut .global f c d)
    (has : (c.options (.stage name)).get? f = some own) : c.resolve name = d.resolve name := by
  have merged : c.merged name = d.merged name := by
    rw [merged_eq, merged_eq]
    refine Options.ext_get? fun g => ?_
    rw [Options.get?_withDefaults, Options.get?_withDefaults, ← agree (.stage name) g (by simp)]
    by_cases same : g = f
    · subst same
      rw [has, Option.some_or, Option.some_or]
    · rw [agree .global g (by simp [same])]
  rw [resolve, resolve, merged]

/-- **A value that is set for a stage counts**, whatever the global section holds for the option.
    Take any two configurations with the same values but for the global one of one option. If
    that option is set for a stage and the text is a value of it, then both amount to the same
    for the stage; only a limit on threads that is not positive is none, and then the global
    one counts. -/
theorem own_value_counts (undotted : '.' ∉ name.toList) (known : Field.ofName? option = some f)
    (ok : (c.set ((Section.stage name).key option) value).2 = .ok ()) (d : Config) :
    let c' := (c.set ((Section.stage name).key option) value).1
    let d' := (d.set ((Section.stage name).key option) value).1
    (d.set ((Section.stage name).key option) value).2 = .ok () ∧
    (AgreeBut .global f c d → AgreeBut .global f c' d') ∧
    (AgreeBut .global f c' d' →
      (f = .maxThreads → ∀ n, Setting.limitOfText? value.toList = some n → 0 < n) →
      c'.resolve name = d'.resolve name) ∧
    (f = .maxThreads → (∃ n ≤ 0, Setting.limitOfText? value.toList = some n) →
      (c'.merged name).maxThreads = c'.global.maxThreads) := by
  intro c' d'
  have addressed : addressed? ((Section.stage name).key option) = some (.stage name, option, f) :=
    addressed?_iff_names.2 ⟨(proper_key undotted known).names, known⟩
  obtain ⟨reading, read⟩ : ∃ reading, f.reading? value.toList = some reading := by
    refine Option.ne_none_iff_exists'.1 fun unreadable => ?_
    rw [(set_unreadable addressed unreadable c).1] at ok
    cases ok
  obtain ⟨-, own, -⟩ := set_readable addressed read c
  refine ⟨(set_readable addressed read d).1, fun agree => agree.set _ _, fun agree positive => ?_,
    fun most lifted => ?_⟩
  · cases reading with
    | some own' => exact resolve_of_own agree own
    | none =>
      obtain ⟨most, n, low, limit⟩ := (f.reading?_eq_some_none_iff _).1 read
      exact absurd (positive most n limit) (Int.not_lt.2 low)
  · rw [(f.reading?_eq_some_none_iff _).2 ⟨most, lifted⟩] at read
    obtain rfl := Option.some.inj read
    subst most
    have unset : (c'.options (.stage name)).maxThreads = none := Option.map_eq_none_iff.1 own
    rw [merged_eq, Options.withDefaults, unset]
    rfl

/-- A configuration with a global limit on threads. -/
def limited : Config := (Config.empty.set "global.maxThreads" "8").1

theorem agreeBut_limited : AgreeBut .global .maxThreads limited .empty := by
  have addressed :
      addressed? "global.maxThreads" = some (.global, "maxThreads", .maxThreads) := by decide +kernel
  have read : Field.maxThreads.reading? "8".toList = some (some (.count 8)) := rfl
  exact (set_readable addressed read .empty).2.2

theorem addressed?_webThreads :
    addressed? "stages.web.maxThreads" = some (.stage "web", "maxThreads", .maxThreads) := by
  decide +kernel

/-- A stage has more threads than the global limit, or as many as without that limit. -/
theorem own_value_counts_limit :
    let c := (limited.set "stages.web.maxThreads" "12").1
    let d := (Config.empty.set "stages.web.maxThreads" "12").1
    c.global.maxThreads = some 8 ∧ d.global.maxThreads = none ∧
      (c.resolve "web").pool.most = 12 ∧ c.resolve "web" = d.resolve "web" := by
  have key : (Section.stage "web").key "maxThreads" = "stages.web.maxThreads" := by decide +kernel
  have undotted : '.' ∉ "web".toList := by decide
  have known : Field.ofName? "maxThreads" = some .maxThreads := by decide
  have read : Field.maxThreads.reading? "12".toList = some (some (.count 12)) := rfl
  have ok : (limited.set ((Section.stage "web").key "maxThreads") "12").2 = .ok () :=
    key ▸ (set_readable addressed?_webThreads read limited).1
  obtain ⟨-, keeps, counts, -⟩ := own_value_counts undotted known ok .empty
  rw [key] at keeps counts
  refine ⟨by decide +kernel, by decide +kernel, by decide +kernel,
    counts (keeps agreeBut_limited) fun _ n limit => ?_⟩
  have twelve : Setting.limitOfText? "12".toList = some 12 := by decide +kernel
  obtain rfl := Option.some.inj (twelve.symm.trans limit)
  decide

/-- **A limit that is lifted for a stage, but not for good**: to have no limit is no option of
    the stage, and the global limit counts for it. -/
theorem own_limit_lost :
    let c := limited.set "stages.web.maxThreads" "0"
    let d := Config.empty.set "stages.web.maxThreads" "0"
    AgreeBut .global .maxThreads limited .empty ∧ c.2 = .ok () ∧ d.2 = .ok () ∧
      (c.1.resolve "web").pool.most = 8 ∧ (d.1.resolve "web").pool.most = largestCount := by
  have read : Field.maxThreads.reading? "0".toList = some none := rfl
  exact ⟨agreeBut_limited, (set_readable addressed?_webThreads read limited).1,
    (set_readable addressed?_webThreads read .empty).1, by decide +kernel, by decide +kernel⟩

end Config

end StagedEvents
