import Mathlib.Tactic.Linarith
import StagedEvents.Proofs.Quantity.Exact

/-!
# Tokens in exact arithmetic

A bucket of tokens is called for events, its rate is changed, and time passes. Every call while
the rate is a limit adds tokens for the time that has passed, as far as there is room for them, and
takes one for each event if there are enough. So the tokens are what the bucket began with and
what was added, without the events let in, and they never leave the range from none to its depth.

* `Bucket.take_succ`, `refill_take`: several events at once and one after the other.
* `Bucket.Use`, `Bucket.calls`: what is done to a bucket, and what its calls are remembered by.
* `Bucket.Level`, `Bucket.tokens_run`: the range of the tokens, and the balance of a run.
* `Bucket.bounds_events`: the result.
-/

namespace StagedEvents

namespace Bucket

/-! ## One call -/

theorem tokens_refill (b : Bucket ℚ) :
    b.refill.tokens = min (b.tokens + Quantity.seconds b.idle * b.rate) b.depth := by
  have number : Quantity.isNumber (Quantity.ofInt (b.depth : ℤ) : ℚ) = true :=
    decide_eq_true (le_refl _)
  show Quantity.smaller _ (Quantity.ofInt (b.depth : ℤ)) = _
  rw [Quantity.smaller, if_pos number, min_def_lt]
  rfl

theorem refill_le (b : Bucket ℚ) : b.refill.tokens ≤ (b.refill.depth : ℤ) := by
  rw [tokens_refill]
  exact min_le_right _ _

theorem accepts_take_iff (b : Bucket ℚ) (n : ℕ) : (b.take n).1 = true ↔ (n : ℚ) ≤ b.tokens := by
  unfold take
  split
  · rename_i enough
    exact ⟨fun _ => enough, fun _ => rfl⟩
  · rename_i few
    exact ⟨fun ok => absurd ok Bool.false_ne_true, fun enough => absurd enough few⟩

theorem take_of_le {b : Bucket ℚ} {n : ℕ} (enough : (n : ℚ) ≤ b.tokens) :
    b.take n = (true, { b with tokens := b.tokens - n }) :=
  if_pos enough

/-- The tokens of `n + 1` events are there if that of one is, and then those of `n`. -/
theorem take_succ (b : Bucket ℚ) (n : ℕ) :
    ((b.take (n + 1)).1 = true ↔ (b.take 1).1 = true ∧ ((b.take 1).2.take n).1 = true) ∧
    ((b.take (n + 1)).1 = true → (b.take (n + 1)).2 = ((b.take 1).2.take n).2) := by
  simp only [accepts_take_iff]
  by_cases one : ((1 : ℕ) : ℚ) ≤ b.tokens
  · have split : ((n + 1 : ℕ) : ℚ) ≤ b.tokens ↔ (n : ℚ) ≤ (b.take 1).2.tokens := by
      rw [take_of_le one]
      push_cast
      exact le_sub_iff_add_le.symm
    refine ⟨split.trans ⟨fun others => ⟨one, others⟩, fun h => h.2⟩, fun all => ?_⟩
    rw [take_of_le all, take_of_le (split.1 all), take_of_le one]
    push_cast
    rw [add_comm, sub_add_eq_sub_sub]
  · have few : ¬((n + 1 : ℕ) : ℚ) ≤ b.tokens := by
      intro all
      have : (0 : ℚ) ≤ n := Nat.cast_nonneg n
      push_cast at all one
      exact one (by linarith)
    exact ⟨⟨fun all => absurd all few, fun h => absurd h.1 one⟩, fun all => absurd all few⟩

/-- The tokens are added once, when the first of several calls at one moment is made. -/
theorem refill_take (b : Bucket ℚ) (n : ℕ) : (b.refill.take n).2.refill = (b.refill.take n).2 := by
  unfold take
  split
  · refine refill_of_idle_zero rfl ?_
    have : (0 : ℚ) ≤ (n : ℤ) := by exact_mod_cast Nat.zero_le n
    have := b.refill_le
    show b.refill.tokens - ((n : ℤ) : ℚ) ≤ (b.refill.depth : ℤ)
    linarith
  · exact refill_of_idle_zero rfl b.refill_le

/-! ## Uses of a bucket -/

/-- What is done to a bucket: a call for events, a new rate, or nothing for some time. -/
inductive Use where
  | call (incoming : ℕ)
  | setRate (rate : ℚ)
  | wait (elapsed : Span)

/-- The bucket after it was used. -/
def after (b : Bucket ℚ) : Use → Bucket ℚ
  | .call incoming => (b.accept incoming).2
  | .setRate rate => { b with rate }
  | .wait elapsed => b.wait elapsed

/-- The bucket after it was used several times. -/
def run (b : Bucket ℚ) (uses : List Use) : Bucket ℚ := uses.foldl after b

/-- What is remembered of a call. -/
structure Request where
  /-- Whether the rate was a limit. -/
  limited : Bool
  incoming : ℕ
  accepted : Bool
  /-- The tokens for the time that had passed, if the rate was a limit. -/
  refill : ℚ
  /-- Those of them that there was room for. -/
  added : ℚ

/-- The events that were let in while the rate was a limit. -/
def Request.taken (r : Request) : ℕ := if r.limited && r.accepted then r.incoming else 0

/-- What is remembered of a call for events. -/
def request (b : Bucket ℚ) (incoming : ℕ) : Request where
  limited := 0 < b.rate
  incoming := incoming
  accepted := (b.accept incoming).1
  refill := if 0 < b.rate then Quantity.seconds b.idle * b.rate else 0
  added := if 0 < b.rate then b.refill.tokens - b.tokens else 0

/-- What is remembered of a use. -/
def requests (b : Bucket ℚ) : Use → List Request
  | .call incoming => [b.request incoming]
  | .setRate _ => []
  | .wait _ => []

/-- What is remembered of a run. -/
def history (b : Bucket ℚ) : List Use → List Request
  | [] => []
  | use :: uses => b.requests use ++ (b.after use).history uses

/-- The events that tokens were taken for. -/
def taken (history : List Request) : ℕ := (history.map Request.taken).sum

/-- The tokens that were added. -/
def added (history : List Request) : ℚ := (history.map Request.added).sum

theorem taken_append (history history' : List Request) :
    taken (history ++ history') = taken history + taken history' := by
  simp [taken]

theorem added_append (history history' : List Request) :
    added (history ++ history') = added history + added history' := by
  simp [added]

theorem history_append (b : Bucket ℚ) (uses uses' : List Use) :
    b.history (uses ++ uses') = b.history uses ++ (b.run uses).history uses' := by
  induction uses generalizing b with
  | nil => rfl
  | cons use uses ih => simp only [List.cons_append, history, ih, List.append_assoc]; rfl

/-! ## The level of the tokens -/

/-- The tokens are not less than none, and not more than there is room for. -/
structure Level (b : Bucket ℚ) : Prop where
  natural : 0 ≤ b.tokens
  le : b.tokens ≤ b.depth

variable {b : Bucket ℚ}

theorem limited_iff : ¬b.rate ≤ 0.0 ↔ 0 < b.rate := by
  rw [not_le]
  norm_num

theorem level_full (rate : ℚ) (depth : ℕ) : (full rate depth).Level where
  natural := by
    show (0 : ℚ) ≤ ((max depth 1 : ℕ) : ℤ)
    positivity
  le := le_refl ((max depth 1 : ℕ) : ℚ)

/-- A call while the rate is a limit adds tokens and then takes some. -/
theorem accept_of_limited (limited : 0 < b.rate) (n : ℕ) : b.accept n = b.refill.take n :=
  if_neg (limited_iff.2 limited)

/-- What is added is no more than there is for the time that has passed. -/
theorem Level.added_bounds (level : b.Level) (limited : 0 < b.rate) :
    0 ≤ b.refill.tokens - b.tokens ∧
      b.refill.tokens - b.tokens ≤ Quantity.seconds b.idle * b.rate := by
  have time : (0 : ℚ) ≤ Quantity.seconds b.idle := by
    show (0 : ℚ) ≤ (b.idle.nanos : ℚ) / 1_000_000_000
    positivity
  have gain := mul_nonneg time limited.le
  rw [tokens_refill, sub_nonneg, sub_le_iff_le_add']
  exact ⟨le_min (le_add_of_nonneg_right gain) level.le, min_le_left _ _⟩

theorem Level.refill (level : b.Level) (limited : 0 < b.rate) : b.refill.Level where
  natural := by
    have := (level.added_bounds limited).1
    have := level.natural
    linarith
  le := b.refill_le

/-- **One use**: the tokens stay in their range, and they are what they were with those added and
    without those taken. -/
theorem Level.after (level : b.Level) (use : Use) : (b.after use).Level ∧
    (b.after use).tokens = b.tokens + added (b.requests use) - taken (b.requests use) := by
  cases use with
  | setRate rate =>
    exact ⟨⟨level.natural, level.le⟩, by simp [Bucket.after, requests, added, taken]⟩
  | wait elapsed =>
    exact ⟨⟨level.natural, level.le⟩, by simp [Bucket.after, Bucket.wait, requests, added, taken]⟩
  | call n =>
    simp only [Bucket.after, requests, added, taken, List.map_cons, List.map_nil, List.sum_cons,
      List.sum_nil, add_zero, request, Request.taken]
    by_cases limited : 0 < b.rate
    · rw [accept_of_limited limited, if_pos limited, add_sub_cancel]
      by_cases enough : (n : ℚ) ≤ b.refill.tokens
      · rw [take_of_le enough]
        have full := (level.refill limited).le
        have none : (0 : ℚ) ≤ n := Nat.cast_nonneg n
        refine ⟨⟨sub_nonneg.2 enough, ?_⟩, by simp [limited]⟩
        exact (sub_le_self _ none).trans full
      · have refused : (b.refill.take n).1 = false :=
          Bool.eq_false_iff.2 fun accepted => enough ((accepts_take_iff _ n).1 accepted)
        rw [take_refused refused, refused]
        exact ⟨level.refill limited, by simp⟩
    · rw [accept_unlimited (not_not.1 fun h => limited (limited_iff.1 h)), if_neg limited]
      exact ⟨level, by simp [limited]⟩

/-- **A run**: the same for any number of uses. -/
theorem Level.run (level : b.Level) (uses : List Use) : (b.run uses).Level ∧
    (b.run uses).tokens = b.tokens + added (b.history uses) - taken (b.history uses) := by
  induction uses generalizing b with
  | nil => exact ⟨level, by simp [Bucket.run, history, added, taken]⟩
  | cons use uses ih =>
    obtain ⟨level', balance⟩ := level.after use
    obtain ⟨level'', balance'⟩ := ih level'
    refine ⟨level'', ?_⟩
    rw [history, added_append, taken_append, Nat.cast_add]
    show ((b.after use).run uses).tokens = _
    rw [balance', balance]
    ring

theorem depth_after (b : Bucket ℚ) (use : Use) : (b.after use).depth = b.depth := by
  cases use with
  | call n =>
    simp only [after, accept, take]
    split
    · rfl
    · split <;> rfl
  | setRate | wait => rfl

theorem depth_run (b : Bucket ℚ) (uses : List Use) : (b.run uses).depth = b.depth := by
  induction uses generalizing b with
  | nil => rfl
  | cons use uses ih => exact (ih (b.after use)).trans (b.depth_after use)

/-- Whatever is added is something, and no more than there was for the time. -/
theorem Level.history (level : b.Level) (uses : List Use) :
    ∀ r ∈ b.history uses, 0 ≤ r.added ∧ r.added ≤ r.refill := by
  induction uses generalizing b with
  | nil => exact nofun
  | cons use uses ih =>
    intro r mem
    rcases List.mem_append.1 mem with now | later
    · cases use with
      | call n =>
        obtain rfl := List.mem_singleton.1 now
        unfold request
        split
        · rename_i limited
          exact level.added_bounds limited
        · exact ⟨le_refl _, le_refl _⟩
      | setRate | wait => cases now
    · exact ih (level.after use).1 r later

theorem add_added (limited : 0 < b.rate) (n : ℕ) :
    b.tokens + (b.request n).added = b.refill.tokens := by
  show b.tokens + (if 0 < b.rate then b.refill.tokens - b.tokens else 0) = b.refill.tokens
  rw [if_pos limited, add_sub_cancel]

/-- Events are let in if there are enough tokens with those that are added. -/
theorem accept_iff (limited : 0 < b.rate) (n : ℕ) :
    (b.accept n).1 = true ↔ (n : ℚ) ≤ b.tokens + (b.request n).added := by
  rw [accept_of_limited limited, accepts_take_iff, add_added limited]

/-- Events that are not let in leave the tokens with those that are added. -/
theorem tokens_of_refused {n : ℕ} (refused : (b.accept n).1 = false) :
    (b.accept n).2.tokens = b.tokens + (b.request n).added := by
  have limited : 0 < b.rate := by
    refine limited_iff.1 fun free => ?_
    rw [accept_unlimited free] at refused
    cases refused
  rw [accept_of_limited limited] at refused ⊢
  rw [take_refused refused, add_added limited]

/-- The tokens of a bucket that was full once. -/
theorem tokens_run_full (rate : ℚ) (depth : ℕ) (uses : List Use) :
    ((full rate depth).run uses).tokens =
      (max 1 depth : ℕ) + added ((full rate depth).history uses) -
        taken ((full rate depth).history uses) := by
  rw [((level_full rate depth).run uses).2, max_comm]
  rfl

/-- **A bucket bounds the events that are let in.** Whatever was done to a bucket that was full
    once, in exact arithmetic:

    * its tokens are not less than none, and not more than there is room for;
    * a call adds no more tokens than there are for the time that has passed;
    * the events let in while the rate is a limit, from then on or later, are no more than there is
      room for and the tokens added meanwhile;
    * a call while the rate is no limit is let in, and the bucket stays as it is;
    * a call that is refused takes no tokens;
    * as long as no time counts, events are let in while the rate is a limit if and only if, with
      all those let in before, they are no more than there is room for. -/
theorem bounds_events (rate : ℚ) (depth : ℕ) (before : List Use) :
    let b := (full rate depth).run before
    let room := max 1 depth
    (0 ≤ b.tokens ∧ b.tokens ≤ room) ∧
    (∀ r ∈ (full rate depth).history before, 0 ≤ r.added ∧ r.added ≤ r.refill) ∧
    (∀ uses, taken (b.history uses) ≤ room + added (b.history uses)) ∧
    (∀ n, b.rate ≤ 0 → b.accept n = (true, b)) ∧
    (∀ n, (b.accept n).1 = false → (b.accept n).2.tokens = b.tokens + (b.request n).added) ∧
    (∀ n, 0 < b.rate →
      (∀ r ∈ (full rate depth).history (before ++ [.call n]), r.refill = 0) →
      ((b.accept n).1 = true ↔ n + taken ((full rate depth).history before) ≤ room)) := by
  intro b room
  have level : b.Level := ((level_full rate depth).run before).1
  have depth_eq : b.depth = room := (depth_run _ _).trans (max_comm depth 1)
  have le : b.tokens ≤ room := by
    rw [← depth_eq]
    exact level.le
  refine ⟨⟨level.natural, le⟩, (level_full rate depth).history before, fun uses => ?_,
    fun n free => ?_, fun n => tokens_of_refused, fun n limited still => ?_⟩
  · obtain ⟨⟨natural, -⟩, balance⟩ := level.run uses
    rw [balance] at natural
    linarith
  · exact accept_unlimited (not_not.1 fun limits => absurd free (not_le.2 (limited_iff.1 limits))) n
  · have bounds := (level_full rate depth).history (before ++ [.call n])
    have nothing : added ((full rate depth).history (before ++ [.call n])) = 0 := by
      refine List.sum_eq_zero fun x mem => ?_
      obtain ⟨r, listed, rfl⟩ := List.mem_map.1 mem
      exact le_antisymm ((bounds r listed).2.trans_eq (still r listed)) (bounds r listed).1
    rw [history_append, added_append] at nothing
    have own : added (b.history [.call n]) = (b.request n).added := by
      simp [history, requests, added]
    rw [accept_iff limited, tokens_run_full, ← own]
    have exact : ((max 1 depth : ℕ) : ℚ) + added ((full rate depth).history before) -
        taken ((full rate depth).history before) + added (b.history [.call n]) =
          room - taken ((full rate depth).history before) := by
      linarith
    rw [exact, le_sub_iff_add_le]
    exact_mod_cast Iff.rfl

/-- Some calls, the limit lifted and put back between them. -/
def someUses : List Use := [.call 1, .setRate 0, .call 5, .setRate (1 / 1000), .call 1]

/-- With three tokens, one more event is let in after two, and not two more. -/
theorem bounds_events_three :
    ((((full (1 / 1000) 3).run someUses).accept 1).1 = true ↔
      1 + taken ((full (1 / 1000) 3).history someUses) ≤ 3) ∧
    taken ((full (1 / 1000) 3).history someUses) = 2 ∧
    (((full (1 / 1000) 3).run someUses).accept 2).1 = false ∧
    (((full (1 / 1000) 3).run someUses).accept 2).2.tokens = 1 := by
  obtain ⟨-, -, -, -, refused, still⟩ := bounds_events (1 / 1000) 3 someUses
  have two : (((full (1 / 1000) 3).run someUses).accept 2).1 = false := by decide +kernel
  refine ⟨still 1 (by decide +kernel) (by decide +kernel), by decide +kernel, two, ?_⟩
  rw [refused 2 two]
  decide +kernel

end Bucket

end StagedEvents
