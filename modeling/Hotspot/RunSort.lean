/-
# Sorting by runs

A list is sorted by runs: it is cut into pieces that are in order as they stand,
and those are merged. A comparison may fail, which ends the sort; then it matters
which items are compared, and in what order.

| step | |
| --- | --- |
| run | the longest piece in front that rises, or that falls, which is turned around |
| filling | a run that is too short takes in the items behind it, one by one |
| stacking | a run goes on top of the runs before it |
| merging | before that, runs are merged whose boundary is deeper than the new one |
| the end | what is left on the stack is merged from the top |

The depth of a boundary is that of the node which parts the two runs in the most
even tree over the list. The middles of the two runs, as fractions of the list,
part at the binary digit of that number.

The sort is stable: of two items none of which comes before the other, the one
that stood in front does so afterwards.
-/

namespace Hotspot
namespace RunSort

/-- Whether an item comes before another one, unless that cannot be said. -/
abbrev Less (α ε : Type) := α → α → Except ε Bool

/-! ## Runs -/

/-- The length that no run need have, so that runs of it are of one size. -/
def enough : Nat := 64

/-- The least length of the runs of a list: the length of the list halved until it
is less than `enough`, rounded up. -/
def leastLength (length : Nat) (rest : Bool := false) : Nat :=
  if length < enough then length + rest.toNat
  else leastLength (length / 2) (rest || length % 2 = 1)
termination_by length
decreasing_by
  simp only [enough] at *
  omega

/-- The items behind an item that rise from there on, and those behind them. -/
def rising (less : Less α ε) (last : α) : List α → Except ε (List α × List α)
  | [] => .ok ([], [])
  | x :: rest => do
    if ← less x last then pure ([], x :: rest)
    else
      let (run, rest) ← rising less x rest
      pure (x :: run, rest)

/-- The items behind an item that fall from there on, on top of those that fell
before, and those behind them. -/
def falling (less : Less α ε) (last : α) (fallen : List α) :
    List α → Except ε (List α × List α)
  | [] => .ok (fallen, [])
  | x :: rest => do
    if ← less x last then falling less x (x :: fallen) rest else pure (fallen, x :: rest)

/-- The run in front of a list, in order, and what is behind it. -/
def runInFront (less : Less α ε) : List α → Except ε (List α × List α)
  | [] => .ok ([], [])
  | [x] => .ok ([x], [])
  | x :: y :: rest => do
    if ← less y x then falling less y [y, x] rest
    else
      let (run, rest) ← rising less y rest
      pure (x :: y :: run, rest)

/-- A run with one more item, behind all it does not come before. The middle item
tells the half. -/
def insert (less : Less α ε) (x : α) (run : List α) : Except ε (List α) :=
  match _h : run.drop (run.length / 2) with
  | [] => .ok [x]
  | y :: back => do
    let front := run.take (run.length / 2)
    if ← less x y then return (← insert less x front) ++ y :: back
    else return front ++ y :: (← insert less x back)
termination_by run.length
decreasing_by
  all_goals
    have := congrArg List.length _h
    simp only [List.length_drop, List.length_cons, List.length_take] at *
    omega

/-- A run with so many more items from those behind it. -/
def fillUp (less : Less α ε) (run : List α) : Nat → List α → Except ε (List α × List α)
  | 0, rest => .ok (run, rest)
  | _, [] => .ok (run, [])
  | n + 1, x :: rest => do fillUp less (← insert less x run) n rest

/-! ## Merging -/

/-- Two runs merged into one. -/
def merge (less : Less α ε) : List α → List α → Except ε (List α)
  | [], right => .ok right
  | left, [] => .ok left
  | x :: left, y :: right => do
    if ← less y x then return y :: (← merge less (x :: left) right)
    else return x :: (← merge less left (y :: right))
termination_by left right => left.length + right.length

/-- A run on the stack. -/
structure Run (α : Type) where
  /-- How many items are in front of it. -/
  start : Nat
  items : List α
  /-- The depth of its boundary to the run above it. -/
  depth : Nat := 0

/-- Two neighbouring runs merged into one. -/
def Run.join (less : Less α ε) (left right : Run α) : Except ε (Run α) := do
  return { left with items := ← merge less left.items right.items }

/-- The number of the first binary digit at which two fractions part, which are
`a / 2n` and `(a + gap) / 2n`. -/
def partingDigit (n a gap : Nat) : Nat :=
  if gap = 0 ∨ n ≤ gap then 1
  else if n ≤ a then partingDigit n (2 * (a - n)) (2 * gap) + 1
  else if n ≤ a + gap then 1
  else partingDigit n (2 * a) (2 * gap) + 1
termination_by n - gap

/-- The depth of the boundary between a run and the next one, of a length, in a
list of a length. -/
def Run.boundaryDepth (left : Run α) (next length : Nat) : Nat :=
  partingDigit length (2 * left.start + left.items.length) (left.items.length + next)

/-- Merges the runs on top whose boundary is deeper than a depth. -/
def mergeDeeper (less : Less α ε) (depth : Nat) : List (Run α) → Except ε (List (Run α))
  | right :: left :: below => do
    if depth < left.depth then mergeDeeper less depth ((← left.join less right) :: below)
    else pure (right :: left :: below)
  | stack => .ok stack
termination_by stack => stack.length

/-- Puts a run on the stack of a list of a length. -/
def push (less : Less α ε) (length : Nat) (run : List α) (stack : List (Run α)) :
    Except ε (List (Run α)) :=
  match stack with
  | [] => .ok [⟨0, run, 0⟩]
  | top :: _ => do
    let depth := top.boundaryDepth run.length length
    match ← mergeDeeper less depth stack with
    | top' :: below =>
      pure (⟨top'.start + top'.items.length, run, 0⟩ :: { top' with depth } :: below)
    | [] => pure [⟨0, run, 0⟩]

/-- Merges all runs of a stack. Of the three on top the lower two are merged if the
lowest is the shortest. -/
def mergeAll (less : Less α ε) : List (Run α) → Except ε (List α)
  | [] => .ok []
  | [run] => .ok run.items
  | [right, left] => merge less left.items right.items
  | top :: right :: left :: below => do
    if left.items.length < top.items.length then
      mergeAll less (top :: (← left.join less right) :: below)
    else mergeAll less ((← right.join less top) :: left :: below)
termination_by stack => stack.length

/-! ## Sorting -/

/-- Puts the runs of what is left of a list on the stack; `fuel` bounds their number,
and the number of items suffices. -/
def stackRuns (less : Less α ε) (length least : Nat) (fuel : Nat) (stack : List (Run α))
    (rest : List α) : Except ε (List (Run α)) :=
  match fuel, rest with
  | 0, _ | _, [] => .ok stack
  | fuel + 1, rest => do
    let (run, rest) ← runInFront less rest
    let (run, rest) ← fillUp less run (least - run.length) rest
    stackRuns less length least fuel (← push less length run stack) rest

/-- A list in order, or why two of its items have none. -/
def sort (less : Less α ε) (items : List α) : Except ε (List α) := do
  let n := items.length
  mergeAll less (← stackRuns less n (leastLength n) n [] items)

end RunSort
end Hotspot
