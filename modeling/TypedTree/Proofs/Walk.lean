import Mathlib.Data.List.Basic
import TypedTree.Proofs.Account

/-! # Walks of a cursor

A walk is what a list of calls makes of a cursor. To see the children of a node, the cursor goes
down to the first of them, along the whole row, and back up: each step up undoes a step down that
succeeded, and leads back to the node that the cursor was reset to last. -/

namespace TypedTree

/-- A call of a cursor. -/
inductive Move where
  | firstChild
  | nextSibling
  | parent
  | reset (t : Tree)

namespace Move

def apply (c : Cursor) : Move → Cursor
  | firstChild => c.firstChild.2
  | nextSibling => c.nextSibling.2
  | parent => c.parent
  | reset t => c.reset t

def calls : Move → Calls
  | firstChild => { firstChild := 1 }
  | nextSibling => { nextSibling := 1 }
  | parent => { parent := 1 }
  | reset _ => { reset := 1 }

def tally : List Move → Calls
  | [] => {}
  | m :: rest => m.calls + tally rest

theorem tally_append (ms ns : List Move) : tally (ms ++ ns) = tally ms + tally ns := by
  induction ms with
  | nil => exact (Calls.zero_add _).symm
  | cons m ms ih => rw [List.cons_append, tally, tally, ih, Calls.add_assoc]

theorem tally_siblings (n : Nat) : tally (List.replicate n nextSibling) = { nextSibling := n } := by
  induction n with
  | zero => rfl
  | succ n ih =>
    rw [List.replicate_succ, tally, ih, Nat.add_comm n 1]
    rfl

theorem calls_apply (c : Cursor) (m : Move) : (apply c m).calls = c.calls + m.calls := by
  obtain ⟨focus, trail, calls⟩ := c
  cases m with
  | firstChild =>
    cases h : focus.children <;> simp only [apply, Cursor.firstChild, h] <;> rfl
  | nextSibling =>
    rcases trail with _ | ⟨⟨p, later⟩, rest⟩
    · rfl
    · cases later <;> rfl
  | parent => cases trail <;> rfl
  | reset t => rfl

end Move

namespace Cursor

variable {c d : Cursor} {moves : List Move}

def walk (c : Cursor) (moves : List Move) : Cursor := moves.foldl Move.apply c

theorem walk_cons (c : Cursor) (m : Move) (moves : List Move) :
    c.walk (m :: moves) = (m.apply c).walk moves := rfl

theorem walk_append (c : Cursor) (ms ns : List Move) : c.walk (ms ++ ns) = (c.walk ms).walk ns :=
  List.foldl_append

theorem calls_walk (c : Cursor) (moves : List Move) :
    (c.walk moves).calls = c.calls + Move.tally moves := by
  induction moves generalizing c with
  | nil => rfl
  | cons m moves ih => rw [walk_cons, ih, Move.calls_apply, Move.tally, Calls.add_assoc]

/-- How many of the calls go down to a first child that there is. -/
def descents (c : Cursor) : List Move → Nat
  | [] => 0
  | .firstChild :: moves =>
    (if c.firstChild.1 then 1 else 0) + descents (Move.apply c .firstChild) moves
  | m :: moves => descents (m.apply c) moves

theorem descents_append (c : Cursor) (ms ns : List Move) :
    c.descents (ms ++ ns) = c.descents ms + (c.walk ms).descents ns := by
  induction ms generalizing c with
  | nil => exact (Nat.zero_add _).symm
  | cons m ms ih =>
    cases m with
    | firstChild => rw [List.cons_append, descents, descents, ih, walk_cons, Nat.add_assoc]
    | _ => exact ih _

theorem descents_siblings (c : Cursor) (n : Nat) :
    c.descents (List.replicate n .nextSibling) = 0 := by
  induction n generalizing c with
  | zero => rfl
  | succ n ih => exact ih _

theorem remaining_of_nextSibling (h : c.nextSibling = (true, d)) :
    c.remaining = d.remaining + 1 := by
  obtain ⟨focus, trail, calls⟩ := c
  match trail with
  | [] => simp [nextSibling] at h
  | ⟨p, []⟩ :: rest => simp [nextSibling] at h
  | ⟨p, t :: ts⟩ :: rest =>
    simp only [nextSibling, Prod.mk.injEq, true_and] at h
    subst h
    rfl

theorem remaining_of_last (h : c.nextSibling = (false, d)) : c.remaining = 0 := by
  obtain ⟨focus, trail, calls⟩ := c
  match trail with
  | [] => rfl
  | ⟨p, []⟩ :: rest => rfl
  | ⟨p, t :: ts⟩ :: rest => simp [nextSibling] at h

theorem remaining_of_firstChild (h : c.firstChild = (true, d)) :
    c.focus.children.length = d.remaining + 1 := by
  obtain ⟨focus, trail, calls⟩ := c
  cases hc : focus.children with
  | nil => simp [firstChild, hc] at h
  | cons t ts =>
    simp only [firstChild, hc, Prod.mk.injEq, true_and] at h
    subst h
    rfl

end Cursor

/-- Sorting a row takes one step for each sibling, and one more that finds none. -/
theorem Buckets.collectInto_walk (keepExtras : Bool) (c : Cursor) (b : Buckets) :
    (collectInto keepExtras c b).2 = c.walk (List.replicate (c.remaining + 1) .nextSibling) := by
  fun_induction collectInto keepExtras c b with
  | case1 c b b' d h ih =>
    have happly : Move.apply c .nextSibling = d := congrArg Prod.snd h
    rw [ih, Cursor.remaining_of_nextSibling h, List.replicate_succ (n := d.remaining + 1),
      Cursor.walk_cons, happly]
  | case2 c b b' d h =>
    have happly : Move.apply c .nextSibling = d := congrArg Prod.snd h
    rw [Cursor.remaining_of_last h]
    exact happly.symm

namespace Tree

/-- The calls that it takes to see all the children of a node and to come back to it. -/
def tourMoves (t : Tree) : List Move :=
  match t.children with
  | [] => [.firstChild]
  | children => .firstChild :: (List.replicate children.length .nextSibling ++ [.parent])

theorem tourMoves_of_nil {t : Tree} (h : t.children = []) : t.tourMoves = [.firstChild] := by
  simp only [tourMoves, h]

theorem tourMoves_of_cons {t u : Tree} {us : List Tree} (h : t.children = u :: us) :
    t.tourMoves =
      .firstChild :: (List.replicate (us.length + 1) .nextSibling ++ [.parent]) := by
  simp only [tourMoves, h, List.length_cons]

theorem tally_tourMoves (t : Tree) : Move.tally t.tourMoves = t.tour := by
  unfold tourMoves tour
  cases t.children with
  | nil => rfl
  | cons u us =>
    simp only [Move.tally, Move.tally_append, Move.tally_siblings, Move.calls, Calls.add_def,
      Nat.add_zero, Nat.zero_add]

end Tree

namespace Cursor

variable {c d : Cursor} {t : Tree}

theorem tourMoves_of_firstChild (h : c.firstChild = (true, d)) : c.focus.tourMoves =
    .firstChild :: (List.replicate (d.remaining + 1) .nextSibling ++ [.parent]) := by
  have hlength := remaining_of_firstChild h
  cases hc : c.focus.children with
  | nil => simp [hc] at hlength
  | cons u us =>
    rw [hc, List.length_cons] at hlength
    rw [Tree.tourMoves_of_cons hc, hlength]

theorem parent_collect (keepExtras : Bool) (h : c.firstChild = (true, d)) :
    (Buckets.collect keepExtras d).2.parent = c.walk c.focus.tourMoves := by
  have happly : Move.apply c .firstChild = d := congrArg Prod.snd h
  rw [tourMoves_of_firstChild h, walk_cons, happly, walk_append, Buckets.collect,
    Buckets.collectInto_walk]
  rfl

/-- After the tour of its children the cursor stands where it stood. -/
theorem walk_tourMoves (h : c.focus = t) :
    c.walk t.tourMoves = { c with calls := c.calls + t.tour } := by
  subst h
  have hcalls : (c.walk c.focus.tourMoves).calls = c.calls + c.focus.tour := by
    rw [calls_walk, Tree.tally_tourMoves]
  rcases hmove : c.firstChild with ⟨moved, d⟩
  cases moved with
  | true =>
    obtain ⟨-, hparent⟩ := Buckets.collect_firstChild false hmove
    rw [parent_collect false hmove] at hparent
    rw [hparent] at hcalls ⊢
    rw [← hcalls]
  | false =>
    cases hc : c.focus.children with
    | cons u us => simp [firstChild, hc] at hmove
    | nil =>
      rw [Tree.tourMoves_of_nil hc, Tree.tour, hc]
      simp only [walk, List.foldl, Move.apply, firstChild, hc]
      rfl

/-- A step to the parent, after the calls before it, undoes a step to a first child that there is,
and leads back to the node that the cursor was reset to last. -/
def Returns (c : Cursor) (before : List Move) : Prop :=
  ∃ earlier t row, before = earlier ++ .reset t :: .firstChild :: row ∧
    (∀ m ∈ row, m = .nextSibling) ∧ ((c.walk earlier).reset t).firstChild.1 = true ∧
    (c.walk (before ++ [.parent])).focus = t ∧ (c.walk (before ++ [.parent])).trail = []

theorem Returns.after {ms before : List Move} (h : (c.walk ms).Returns before) :
    c.Returns (ms ++ before) := by
  obtain ⟨earlier, t, row, rfl, hrow, hdown, hfocus, htrail⟩ := h
  refine ⟨ms ++ earlier, t, row, (List.append_assoc _ _ _).symm, hrow, ?_, ?_, ?_⟩
  · rwa [walk_append]
  · rwa [List.append_assoc, walk_append]
  · rwa [List.append_assoc, walk_append]

/-- The discipline of a walk, and how its calls are bounded by each other. -/
structure SinglePass (c : Cursor) (moves : List Move) : Prop where
  returns : ∀ before after, moves = before ++ .parent :: after → c.Returns before
  ascents : (Move.tally moves).parent = c.descents moves
  parent_le : (Move.tally moves).parent ≤ (Move.tally moves).firstChild
  firstChild_le : (Move.tally moves).firstChild ≤ (Move.tally moves).reset

theorem SinglePass.nil (c : Cursor) : c.SinglePass [] where
  returns before after h := by simp at h
  ascents := rfl
  parent_le := Nat.le_refl _
  firstChild_le := Nat.le_refl _

theorem SinglePass.append {ms ns : List Move} (h : c.SinglePass ms)
    (h' : (c.walk ms).SinglePass ns) : c.SinglePass (ms ++ ns) where
  returns before after hsplit := by
    rcases List.append_eq_append_iff.mp hsplit with ⟨rest, rfl, hns⟩ | ⟨rest, hms, hrest⟩
    · exact (h'.returns rest after hns).after
    · cases rest with
      | nil =>
        rw [List.append_nil] at hms
        rw [← hms, ← List.append_nil ms]
        exact (h'.returns [] after hrest.symm).after
      | cons m rest =>
        cases hrest
        exact h.returns before rest hms
  ascents := by
    rw [Move.tally_append, descents_append, ← h.ascents, ← h'.ascents]
    rfl
  parent_le := by
    rw [Move.tally_append]
    exact Nat.add_le_add h.parent_le h'.parent_le
  firstChild_le := by
    rw [Move.tally_append]
    exact Nat.add_le_add h.firstChild_le h'.firstChild_le

theorem singlePass_reset (c : Cursor) (t : Tree) : c.SinglePass [.reset t] where
  returns before after h := by
    cases before with
    | nil => cases h
    | cons m before => simp at h
  ascents := rfl
  parent_le := Nat.zero_le _
  firstChild_le := Nat.zero_le _

theorem singlePass_childless (c : Cursor) (h : t.children = []) :
    c.SinglePass [.reset t, .firstChild] where
  returns before after hsplit := by
    match before with
    | [] => cases hsplit
    | [_] => cases hsplit
    | _ :: _ :: _ => simp at hsplit
  ascents := by
    simp only [descents, Move.apply, reset, firstChild, h]
    rfl
  parent_le := Nat.zero_le _
  firstChild_le := Nat.le_refl _

section Tour

variable {u : Tree} {us : List Tree} (h : t.children = u :: us)

include h

theorem firstChild_reset (c : Cursor) : (c.reset t).firstChild.1 = true := by
  simp only [reset, firstChild, h]

/-- There is one step up in a tour, at its end. -/
theorem before_parent {before after : List Move}
    (hsplit : .reset t :: t.tourMoves = before ++ .parent :: after) :
    before = .reset t :: .firstChild :: List.replicate (us.length + 1) .nextSibling := by
  rw [Tree.tourMoves_of_cons h, ← List.cons_append, ← List.cons_append] at hsplit
  refine ((List.append_cons_inj_of_notMem (fun hmem => ?_) (by simp)).mp hsplit).1.symm
  simp only [List.mem_cons, reduceCtorEq, false_or] at hmem
  cases List.eq_of_mem_replicate hmem

theorem returns_tour (c : Cursor) :
    c.Returns (.reset t :: .firstChild :: List.replicate (us.length + 1) .nextSibling) := by
  have hwalk : c.walk ((.reset t :: .firstChild ::
      List.replicate (us.length + 1) .nextSibling) ++ [.parent]) =
      (c.reset t).walk t.tourMoves := by
    rw [Tree.tourMoves_of_cons h]
    rfl
  have hback := walk_tourMoves (c := c.reset t) (t := t) rfl
  refine ⟨[], t, _, rfl, fun m hm => List.eq_of_mem_replicate hm, firstChild_reset h c, ?_, ?_⟩
  · rw [hwalk, hback]
    rfl
  · rw [hwalk, hback]
    rfl

theorem descents_tour (c : Cursor) : c.descents (.reset t :: t.tourMoves) = 1 := by
  have hdown := firstChild_reset h c
  calc
    c.descents (.reset t :: t.tourMoves) = (c.reset t).descents t.tourMoves := rfl
    _ = 1 := by
      rw [Tree.tourMoves_of_cons h, descents, descents_append, descents_siblings, hdown]
      rfl

end Tour

/-- A node is visited by a reset, perhaps followed by the tour of its children. -/
theorem singlePass_tour (c : Cursor) (t : Tree) : c.SinglePass (.reset t :: t.tourMoves) := by
  cases hc : t.children with
  | nil =>
    rw [Tree.tourMoves_of_nil hc]
    exact c.singlePass_childless hc
  | cons u us =>
    have htally : Move.tally (.reset t :: t.tourMoves) =
        { reset := 1 } + { firstChild := 1, nextSibling := us.length + 1, parent := 1 } := by
      rw [Move.tally, t.tally_tourMoves, Tree.tour, hc]
      rfl
    refine ⟨fun before after hsplit => ?_, ?_, ?_, ?_⟩
    · rw [before_parent hc hsplit]
      exact returns_tour hc c
    · rw [htally, descents_tour hc]
      rfl
    · rw [htally]
      exact Nat.le_refl _
    · rw [htally]
      exact Nat.le_refl _

end Cursor

end TypedTree
