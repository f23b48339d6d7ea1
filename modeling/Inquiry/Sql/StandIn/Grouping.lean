import Inquiry.Sql.StandIn.Fragment

/-!
# Ways to form groups

The steps by which neighbouring fragments are put together are of few kinds: an opening and a
closing fragment enclose a group, a joint connects the fragment before it with the one behind it,
and a fragment gathers others behind it.
-/

namespace Inquiry.Sql.StandIn.Fragment

/-- Groups from an opening fragment to the closing one that belongs to it. The fragments of the
groups that are open are given in reverse, the innermost group first; what is never closed stays as
it is. -/
def enclose (shape : Shape) (opens closes : Fragment → Bool) (outer : List (List Fragment))
    (here : List Fragment) : Step
  | [] => (here ++ outer.flatten).reverse
  | f :: rest =>
    if opens f then enclose shape opens closes (here :: outer) [f] rest
    else
      match outer with
      | around :: others =>
        if closes f then
          enclose shape opens closes others (.group shape (f :: here).reverse :: around) rest
        else enclose shape opens closes outer (f :: here) rest
      | [] => enclose shape opens closes [] (f :: here) rest

/-- What connects two fragments to a group. -/
structure Joint where
  /-- What the two are together. -/
  shape : Shape
  /-- Whether a fragment connects. -/
  joins : Fragment → Bool
  /-- What can stand before the joint. -/
  left : Fragment → Bool
  /-- What can stand behind the joint. -/
  right : Option Fragment → Bool
  /-- How many of the fragments behind the joint belong to the group. -/
  reach : List Fragment → Nat := fun rest => gap rest + 1
  /-- Whether the fragment before the joint belongs to the group. -/
  takesLeft : Bool := true
  /-- Whether a first fragment that has the shape already grows instead of becoming a member. -/
  grows : Bool := true

namespace Joint

/-- The first fragment of a group together with the others. -/
def grouped (j : Joint) (first : Fragment) (others : List Fragment) : Fragment :=
  if j.grows then first.adjoin j.shape others else .group j.shape (first :: others)

/-- The group that a joint makes of the fragments before it, which are given in reverse, and some of
those behind it; and the fragments before the group. If the joint is `held` it is a part of the
fragment before it already. -/
def connected? (j : Joint) (before : List Fragment) (held : Bool) (f : Fragment)
    (taken : List Fragment) : Option (Fragment × List Fragment) :=
  if j.takesLeft then
    match before.dropWhile (·.isBlank) with
    | [] => none
    | first :: others =>
      let blanks := (before.takeWhile (·.isBlank)).reverse
      some (j.grouped first (blanks ++ (if held then [] else [f]) ++ taken), others)
  else if held then none
  else some (j.grouped f taken, before)

/-- Connects from left to right. The fragments that have been passed are given in reverse; `last` is
the one that decides what may be connected next. The last fragment that a group has taken is looked
at once more, because it may be followed by a joint, or be one itself. -/
def connect (j : Joint) (before : List Fragment) (last : Option Fragment) (held : Bool)
    (fs : List Fragment) : List Fragment :=
  match fs with
  | [] => before.reverse
  | f :: rest =>
    let passed := if held then before else f :: before
    if f.isBlank then connect j passed last false rest
    else
      let taken := rest.take (j.reach rest)
      let joined? :=
        if j.joins f && last.any j.left && j.right (next? rest) then
          j.connected? before held f taken
        else none
      match joined? with
      | none => connect j passed (some f) false rest
      | some (joined, others) =>
        match _h : taken.getLast? with
        | none => connect j (joined :: others) (some joined) false rest
        | some again =>
          connect j (joined :: others) (some joined) true (again :: rest.drop (j.reach rest))
  termination_by fs.length
  decreasing_by
    · simp
    · simp
    · simp
    · have hne : taken ≠ [] := by
        rintro heq
        simp [heq] at _h
      have hpos := List.length_pos_iff.mpr hne
      simp only [taken, List.length_take] at hpos
      simp only [List.length_cons, List.length_drop]
      omega

/-- The step that connects all fragments which the joint can connect. -/
def step (j : Joint) : Step := connect j [] none false

end Joint

/-- Every fragment that can gather takes those behind it, as many as it can. -/
def gather (reach? : Fragment → List Fragment → Option (Shape × Nat)) (fs : List Fragment) :
    List Fragment :=
  match fs with
  | [] => []
  | f :: rest =>
    match reach? f rest with
    | some (shape, n) => f.adjoin shape (rest.take n) :: gather reach? (rest.drop n)
    | none => f :: gather reach? rest
  termination_by fs.length
  decreasing_by all_goals simp only [List.length_drop, List.length_cons]; omega

/-- Every fragment takes the next one as long as it can; the result may take the one after it. -/
def accrue (fits : Fragment → Fragment → Bool) (merge : Fragment → List Fragment → Fragment)
    (fs : List Fragment) : List Fragment :=
  match fs with
  | [] => []
  | f :: rest =>
    match _h : rest.drop (gap rest) with
    | [] => f :: accrue fits merge rest
    | next :: after =>
      if fits f next then accrue fits merge (merge f (rest.take (gap rest) ++ [next]) :: after)
      else f :: accrue fits merge rest
  termination_by fs.length
  decreasing_by
    · simp
    · have hlen := congrArg List.length _h
      simp only [List.length_drop, List.length_cons] at hlen
      simp only [List.length_cons]
      omega
    · simp

end Inquiry.Sql.StandIn.Fragment
