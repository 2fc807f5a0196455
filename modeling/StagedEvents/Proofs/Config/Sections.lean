import Mathlib.Data.Option.Basic
import StagedEvents.Config.Resolved

/-!
# Sections as tables of settings

A section has a value for some fields. What a text says of a field is read off the text alone
(`Field.reading?`), and to write it into a section changes that field and no other. The
options of a stage are looked up in two sections, one after the other.

* `Options.ext_get?`, `Options.get?_withDefaults`, `Options.exists_write?`: sections as tables.
* `Config.options_put`, `Config.merged_eq`: the sections of a configuration.
* `Config.AgreeBut`: two configurations that differ in one field of one section at most.
* `Config.set_readable`, `Config.set_unreadable`, `Config.set_elsewhere`: what one setting does.
* `Config.AgreeBut.set`: the same setting in two configurations.
-/

namespace StagedEvents

/-! ## What texts say -/

theorem Setting.kind_ofText? {kind : FieldKind} {text : List Char} {value : Setting}
    (read : Setting.ofText? kind text = some value) : value.kind = kind := by
  cases kind <;> obtain ⟨x, -, rfl⟩ := Option.map_eq_some_iff.1 read <;> rfl

/-- What a text says of a field: the value that the field has from then on, or that it has none. A
    greatest number of threads is taken away by a limit that is not positive. -/
def Field.reading? (f : Field) (text : List Char) : Option (Option Setting) :=
  if f = .maxThreads then
    (Setting.limitOfText? text).map fun n => if n ≤ 0 then none else some (.count n.toNat)
  else (Setting.ofText? f.kind text).map some

/-- Only a limit on threads that is not positive takes a value away. -/
theorem Field.reading?_eq_some_none_iff (f : Field) (text : List Char) :
    f.reading? text = some none ↔
      f = .maxThreads ∧ ∃ n ≤ 0, Setting.limitOfText? text = some n := by
  unfold reading?
  split
  · rename_i most
    simp only [most, true_and, Option.map_eq_some_iff, ite_eq_left_iff, reduceCtorEq, imp_false,
      not_not]
    exact ⟨fun ⟨n, read, low⟩ => ⟨n, low, read⟩, fun ⟨n, low, read⟩ => ⟨n, read, low⟩⟩
  · rename_i other
    simp [other]

namespace Options

variable {o o' own base : Options} {f : Field} {text : List Char}

/-- Sections with the same table of settings are the same. -/
theorem ext_get? (same : ∀ f, o.get? f = o'.get? f) : o = o' := by
  have inj {β : Type} {kind : β → Setting} (inj : Function.Injective kind) {x y : Option β}
      (same : x.map kind = y.map kind) : x = y := Option.map_injective inj same
  have count : Function.Injective Setting.count := fun _ _ => Setting.count.inj
  have limit : Function.Injective Setting.limit := fun _ _ => Setting.limit.inj
  have truth : Function.Injective Setting.truth := fun _ _ => Setting.truth.inj
  have amount : Function.Injective Setting.amount := fun _ _ => Setting.amount.inj
  cases o
  cases o'
  rw [mk.injEq]
  exact ⟨inj count (same .initialThreads), inj count (same .minThreads),
    inj count (same .maxThreads), inj count (same .blockTimeMillis),
    inj count (same .idleTimeThresholdMillis), inj count (same .growBacklog),
    inj count (same .terminationTimeoutMillis), inj limit (same .queueThreshold),
    inj count (same .queueCapacity), inj truth (same .crashOnException),
    inj amount (same .targetResponseTimeMillis), inj amount (same .smoothingConstant),
    inj count (same .recalculationWindow), inj amount (same .minThreshold),
    inj amount (same .maxThreshold), inj count (same .batchAggregationCap)⟩

/-- One section over another: what it has counts, and the other one where it has nothing. -/
theorem get?_withDefaults (own base : Options) (f : Field) :
    (own.withDefaults base).get? f = (own.get? f).or (base.get? f) := by
  have chosen {β : Type} (kind : β → Setting) (x y : Option β) :
      (x <|> y).map kind = (x.map kind).or (y.map kind) := by
    cases x <;> rfl
  cases f <;> exact chosen _ _ _

theorem empty_withDefaults (base : Options) : empty.withDefaults base = base := by
  cases base; rfl

/-- A text that says something of a field is written into that field, and into no other. -/
theorem exists_write? {reading : Option Setting} (read : f.reading? text = some reading)
    (o : Options) : ∃ o', o.write? f text = some o' ∧ o'.get? f = reading ∧
      ∀ g, g ≠ f → o'.get? g = o.get? g := by
  unfold Field.reading? at read
  unfold write?
  split at read
  · rename_i most
    obtain ⟨n, limit, rfl⟩ := Option.map_eq_some_iff.1 read
    subst most
    rw [if_pos rfl, limit]
    refine ⟨_, rfl, ?_, fun g other => ?_⟩
    · by_cases low : n ≤ 0 <;> simp [get?, low]
    · cases g with
      | maxThreads => exact absurd rfl other
      | _ => rfl
  · rename_i other
    obtain ⟨value, known, rfl⟩ := Option.map_eq_some_iff.1 read
    rw [if_neg other, known]
    exact ⟨_, rfl, get?_put (Setting.kind_ofText? known) o, fun g ne => get?_put_of_ne ne.symm _ o⟩

/-- A text that says nothing of a field is not written. -/
theorem write?_eq_none (unreadable : f.reading? text = none) (o : Options) :
    o.write? f text = none := by
  unfold Field.reading? at unreadable
  unfold write?
  split <;> rename_i same
  · rw [if_pos same] at unreadable
    exact Option.map_eq_none_iff.2 (Option.map_eq_none_iff.1 unreadable)
  · rw [if_neg same] at unreadable
    exact Option.map_eq_none_iff.2 (Option.map_eq_none_iff.1 unreadable)

end Options

namespace Config

variable {c d : Config} {place : Section} {f : Field} {key value option : String}

/-! ## Sections -/

theorem lookup_entry {β : Type} (name other : String) (value : β) (rest : List (String × β)) :
    ((name, value) :: rest).lookup other = if name = other then some value else rest.lookup other := by
  rw [List.lookup_cons]
  by_cases same : name = other
  · simp [same]
  · simp [same, beq_false_of_ne (Ne.symm same)]

theorem lookup_putStage (name other : String) (o : Options) (stages : List (String × Options)) :
    (putStage name o stages).lookup other =
      if name = other then some o else stages.lookup other := by
  induction stages with
  | nil => exact lookup_entry name other o []
  | cons entry rest ih =>
    obtain ⟨first, held⟩ := entry
    rw [putStage]
    split
    · rename_i here
      subst here
      rw [lookup_entry, lookup_entry]
      split <;> rfl
    · rename_i apart
      rw [lookup_entry, lookup_entry, ih]
      by_cases same : first = other
      · subst same
        rw [if_pos rfl, if_neg (Ne.symm apart), if_pos rfl]
      · rw [if_neg same, if_neg same]

/-- The sections after one of them was replaced. -/
theorem options_put (c : Config) (place other : Section) (o : Options) :
    (c.put place o).options other = if place = other then o else c.options other := by
  cases place with
  | global => cases other <;> simp [put, options, stage?]
  | stage name =>
    cases other with
    | global => simp [put, options]
    | stage other =>
      by_cases same : name = other <;>
        simp [put, options, stage?, lookup_putStage, same]

/-- A section that is replaced by what it is. -/
theorem options_put_self (c : Config) (place other : Section) :
    (c.put place (c.options place)).options other = c.options other := by
  rw [options_put]
  split
  · rename_i same
    rw [same]
  · rfl

/-- The options of a stage are its own over the global ones, also if it has no section. -/
theorem merged_eq (c : Config) (name : String) :
    c.merged name = (c.options (.stage name)).withDefaults (c.options .global) := by
  unfold merged
  cases found : c.stage? name with
  | none => simp only [options, found, Option.getD_none, Options.empty_withDefaults]
  | some own => simp only [options, found, Option.getD_some]

/-- What is in the sections is all that matters for stages. -/
theorem resolve_congr (same : ∀ place, c.options place = d.options place) (name : String) :
    c.resolve name = d.resolve name := by
  rw [resolve, resolve, merged_eq, merged_eq, same, same]

theorem crashOnException_congr (same : c.options .global = d.options .global) :
    c.crashOnException = d.crashOnException :=
  congrArg (fun o => o.crashOnException.getD false) same

/-! ## One setting -/

/-- The two configurations have the same values, but for one field of one section. -/
def AgreeBut (place : Section) (f : Field) (c d : Config) : Prop :=
  ∀ other g, (other, g) ≠ (place, f) → (c.options other).get? g = (d.options other).get? g

/-- The field of a section that a key addresses, and what the key calls it. -/
def addressed? (key : String) : Option (Section × String × Field) :=
  (Address.ofKey? key).bind fun address => address.option?.bind fun option =>
    (Field.ofName? option).map fun f => (address.place, option, f)

theorem addressed?_eq_some_iff : addressed? key = some (place, option, f) ↔
    Address.ofKey? key = some ⟨place, some option⟩ ∧ Field.ofName? option = some f := by
  unfold addressed?
  constructor
  · intro found
    obtain ⟨⟨place, option?⟩, address, found⟩ := Option.bind_eq_some_iff.1 found
    obtain ⟨option, rfl, found⟩ := Option.bind_eq_some_iff.1 found
    obtain ⟨f, known, same⟩ := Option.map_eq_some_iff.1 found
    cases same
    exact ⟨address, known⟩
  · rintro ⟨address, known⟩
    simp [address, known]

/-- A key that addresses no field changes no section. -/
theorem set_elsewhere (nothing : addressed? key = none) (value : String) (c : Config) :
    (c.set key value).2 = .ok () ∧
      ∀ place, (c.set key value).1.options place = c.options place := by
  unfold set
  split
  · exact ⟨rfl, fun _ => rfl⟩
  · rename_i address found
    simp only
    split
    · exact ⟨rfl, options_put_self c _⟩
    · rename_i option named
      simp only [addressed?, found, named, Option.bind_some, Option.map_eq_none_iff] at nothing
      rw [nothing]
      exact ⟨rfl, options_put_self c _⟩

/-- A value that the text stands for is put into the field that the key addresses. -/
theorem set_readable {reading : Option Setting} (addressed : addressed? key = some (place, option, f))
    (read : f.reading? value.toList = some reading) (c : Config) :
    (c.set key value).2 = .ok () ∧ ((c.set key value).1.options place).get? f = reading ∧
      AgreeBut place f (c.set key value).1 c := by
  obtain ⟨address, known⟩ := addressed?_eq_some_iff.1 addressed
  obtain ⟨o, written, here, elsewhere⟩ := Options.exists_write? read (c.options place)
  have result : c.set key value = (c.put place o, .ok ()) := by
    simp only [set, address, known, written]
  rw [result]
  refine ⟨rfl, ?_, fun other g ne => ?_⟩
  · rw [options_put, if_pos rfl]
    exact here
  · rw [options_put]
    split
    · rename_i same
      subst same
      exact elsewhere g fun same => ne (by rw [same])
    · rfl

/-- A text that the addressed field cannot take changes no section. -/
theorem set_unreadable (addressed : addressed? key = some (place, option, f))
    (unreadable : f.reading? value.toList = none) (c : Config) :
    (c.set key value).2 = .error (invalidValue value option) ∧
      ∀ other, (c.set key value).1.options other = c.options other := by
  obtain ⟨address, known⟩ := addressed?_eq_some_iff.1 addressed
  have result : c.set key value =
      (c.put place (c.options place), .error (invalidValue value option)) := by
    simp only [set, address, known, Options.write?_eq_none unreadable]
  rw [result]
  exact ⟨rfl, options_put_self c place⟩

/-- What two configurations agree on they agree on after the same setting. -/
theorem AgreeBut.set (agree : AgreeBut place f c d) (key value : String) :
    AgreeBut place f (c.set key value).1 (d.set key value).1 := by
  intro other g apart
  have before := agree other g apart
  cases addressed : addressed? key with
  | none => rw [(set_elsewhere addressed value c).2, (set_elsewhere addressed value d).2, before]
  | some address =>
    obtain ⟨place', option, f'⟩ := address
    cases read : f'.reading? value.toList with
    | none => rw [(set_unreadable addressed read c).2, (set_unreadable addressed read d).2, before]
    | some reading =>
      obtain ⟨-, here, elsewhere⟩ := set_readable addressed read c
      obtain ⟨-, here', elsewhere'⟩ := set_readable addressed read d
      by_cases written : (other, g) = (place', f')
      · obtain ⟨rfl, rfl⟩ := Prod.mk.inj written
        exact here.trans here'.symm
      · rw [elsewhere other g written, elsewhere' other g written, before]

end Config

end StagedEvents
