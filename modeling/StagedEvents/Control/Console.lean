import StagedEvents.Control.Loop
import StagedEvents.Stats

/-!
# Consoles: loops that feed secondary loops

A console is a row of loops and the dials they turn. Each loop has the next one
as its secondary: a harsher restriction that it switches on when the load is very
high, or has been high at the least value for long enough, and off again when the
load is low. While a loop is on, its secondary observes the same batches.

Loops and dials are numbered from zero, and a loop names the dial it turns, so
that a dial can also belong to the gate of a sink.
-/

namespace StagedEvents

/-- The dials that loops and gates share, by number. -/
abbrev Panel (α : Type) := List (Dial α)

/-- The dial with the given number; beyond the panel there are only loose knobs. -/
def dialAt {α : Type} [Quantity α] (panel : Panel α) (number : Nat) : Dial α :=
  (panel[number]?).getD (.knob 0.0)

/-- A row of loops, each the secondary of the one before it, and their dials. -/
structure Console (α : Type) where
  loops : List (Loop α)
  panel : Panel α

namespace Console

variable {α : Type} [Quantity α]

/-- What the first of `loops` is switched to by the wish of the loop before it. A
    loop that is as wished is left alone. Model of the test of
    `ResponseTimeController::toggle_secondary`. -/
def flip? (wish : Option Bool) (loops : List (Loop α)) : Option Bool :=
  match wish, loops with
  | some wanted, l :: _ => if l.enabled = wanted then none else some wanted
  | _, _ => none

/-- Switches the first loop of the console, if asked. -/
def switchFirst (flip : Option Bool) (c : Console α) : Console α :=
  match c.loops with
  | [] => c
  | l :: rest =>
    let (l, dial) := l.switch (dialAt c.panel l.dial) flip
    { loops := l :: rest, panel := c.panel.set l.dial dial }

/-- The console with `l` in front of its loops. -/
def cons (l : Loop α) (c : Console α) : Console α := { c with loops := l :: c.loops }

/-- One adjustment of the first loop to an observed response time, and the switch
    of its secondary that follows from it. Model of `ResponseTimeController::adjust`. -/
def recalculateFirst (observed : Span) (c : Console α) :
    Console α × Option (Except Fault (Adjustment α)) :=
  match c.loops with
  | [] => (c, none)
  | l :: rest =>
    let turn := l.turn (dialAt c.panel l.dial) observed
    let flip := flip? turn.wish rest
    let turned : Console α := { loops := rest, panel := c.panel.set l.dial turn.dial }
    let below := turned.switchFirst flip
    (below.cons turn.loop, some (turn.adjustment flip (dialAt below.panel l.dial).value))

/-- One observed batch for the first loop, which has just been switched as `flip`
    says, and then for its secondaries. A loop that is off ends the row. A loop whose
    window is complete adjusts itself, provided there are measurements. When an
    adjustment has no result the loops after it do not observe the batch. Model of
    `ResponseTimeController::observe`. -/
def observeRow (stats : Stats) : Option Bool → List (Loop α) → Panel α →
    Console α × Except Fault (Option (Adjustment α))
  | _, [], panel => ({ loops := [], panel }, .ok none)
  | flip, l :: rest, panel =>
    let (l, dial) := l.switch (dialAt panel l.dial) flip
    let panel := panel.set l.dial dial
    if !l.enabled then ({ loops := l :: rest, panel }, .ok none)
    else
      let l := l.count
      if !l.endsWindow || stats.samples == 0 then
        let (below, answer) := observeRow stats none rest panel
        (below.cons l, answer.map fun _ => none)
      else
        let turn := l.turn (dialAt panel l.dial) stats.ninetieth
        let panel := panel.set l.dial turn.dial
        let flip := flip? turn.wish rest
        let switched := ({ loops := rest, panel } : Console α).switchFirst flip
        match turn.adjustment flip (dialAt switched.panel l.dial).value with
        | .error fault => (switched.cons turn.loop, .error fault)
        | .ok adjustment =>
          let (below, answer) := observeRow stats flip rest panel
          (below.cons turn.loop, answer.map fun _ => some adjustment)

/-- One observed batch for the first loop and its secondaries. -/
def observeFirst (stats : Stats) (c : Console α) :
    Console α × Except Fault (Option (Adjustment α)) :=
  observeRow stats none c.loops c.panel

/-! ## Operations on the loop with a given number -/

/-- Applies an operation to the row that starts at loop `i`. -/
def atLoop {ρ : Type} (i : Nat) (operation : Console α → Console α × ρ) (c : Console α) :
    Console α × ρ :=
  let (below, answer) := operation { loops := c.loops.drop i, panel := c.panel }
  ({ below with loops := c.loops.take i ++ below.loops }, answer)

/-- Adjusts loop `i` to an observed response time, whether it is on or off. Model of
    `ResponseTimeController::recalculate`. -/
def recalculate (i : Nat) (observed : Span) (c : Console α) :
    Console α × Option (Except Fault (Adjustment α)) :=
  c.atLoop i (recalculateFirst observed)

/-- One observed batch for loop `i`. Model of `ResponseTimeController::observe`. -/
def observe (i : Nat) (stats : Stats) (c : Console α) :
    Console α × Except Fault (Option (Adjustment α)) :=
  c.atLoop i (observeFirst stats)

/-- `count` observed batches for loop `i`: which of them, from zero, led to an
    adjustment, and to which. One without a result does not keep the later ones from
    being observed. -/
def observeMany (count i : Nat) (stats : Stats) (c : Console α) :
    Console α × List (Nat × Except Fault (Adjustment α)) :=
  (List.range count).foldl (fun acc k =>
    let (c, answer) := acc.1.observe i stats
    match answer with
    | .ok none => (c, acc.2)
    | .ok (some adjustment) => (c, acc.2 ++ [(k, .ok adjustment)])
    | .error fault => (c, acc.2 ++ [(k, .error fault)])) (c, [])

/-- Switches loop `i` on or off. -/
def switch (i : Nat) (on : Bool) (c : Console α) : Console α :=
  (c.atLoop i fun row => (row.switchFirst (some on), ())).1

/-- The dial of the loop shows this value. -/
def valueOf (c : Console α) (l : Loop α) : α := (dialAt c.panel l.dial).value

/-- The console with a new first loop over the dial with the given number. The loop
    that was first becomes its secondary, and is switched off. Model of
    `ResponseTimeController::with_secondary`. -/
def attach? (settings : LoopSettings α) (number : Nat) (c : Console α) :
    Except Fault (Console α) :=
  match Loop.new? settings number (dialAt c.panel number) with
  | .error fault => .error fault
  | .ok (l, dial) =>
    let below : Console α := { c with panel := c.panel.set number dial }
    .ok ((below.switchFirst (some false)).cons l)

end Console

end StagedEvents
