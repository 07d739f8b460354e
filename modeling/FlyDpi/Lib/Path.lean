import Mathlib.Init

/-!
# Path — file names by their elements

A path is a volume, whether it starts at the root, and its elements from there on.  `join` enters the
elements of a name one by one, so a name can stay, go down, and with `..` go up again.  A name that
is a single ordinary element leads to a direct child.
-/

namespace Lib

structure Path (α : Type) where
  volume : List α
  rooted : Bool
  elements : List (List α)
  deriving DecidableEq

namespace Path

variable {α : Type}

/-- The entry of that name in the directory. -/
def child (p : Path α) (name : List α) : Path α :=
  { p with elements := p.elements ++ [name] }

variable [DecidableEq α] (dot : α)

/-- The path after one more element. -/
def enter (p : Path α) (element : List α) : Path α :=
  if element = [] ∨ element = [dot] then p
  else if element = [dot, dot] then
    match p.elements.getLast? with
    | some last =>
        if last = [dot, dot] then p.child element
        else { p with elements := p.elements.dropLast }
    -- nothing is above the root
    | none => if p.rooted then p else p.child element
  else p.child element

/-- The path after all elements of a name. -/
def join (isSep : α → Bool) (p : Path α) (name : List α) : Path α :=
  (name.splitOnP isSep).foldl (enter dot) p

variable {dot}

theorem enter_of_ordinary {p : Path α} {element : List α} (hnil : element ≠ [])
    (hdot : element ≠ [dot]) (hup : element ≠ [dot, dot]) : p.enter dot element = p.child element := by
  rw [enter, if_neg (not_or.2 ⟨hnil, hdot⟩), if_neg hup]

/-- A name without separators that is not a dot or two leads to a direct child. -/
theorem join_eq_child {isSep : α → Bool} {p : Path α} {name : List α}
    (hsep : ∀ c ∈ name, isSep c = false) (hnil : name ≠ []) (hdot : name ≠ [dot])
    (hup : name ≠ [dot, dot]) : p.join dot isSep name = p.child name := by
  rw [join, List.splitOnP_eq_singleton hsep]
  exact enter_of_ordinary hnil hdot hup

end Path

end Lib
